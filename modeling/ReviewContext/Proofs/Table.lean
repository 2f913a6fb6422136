import Mathlib.Data.List.Nodup

/-! Tables: values by key, in the order in which the keys came. -/
namespace ReviewContext

abbrev Table (β : Type) := List (String × β)

namespace Table

variable {β : Type} {key : String} {value : β}

def keys (table : Table β) : List String := table.map Prod.fst

def put (table : Table β) (key : String) (value : β) : Table β :=
  if table.keys.contains key then
    table.map fun entry => if entry.1 = key then (key, value) else entry
  else table ++ [(key, value)]

def extend? (table : Table (List β)) (key : String) (items : List β) : Option (Table (List β)) :=
  (table.lookup key).map fun own => table.put key (own ++ items)

theorem put_of_notMem {table : Table β} (new : key ∉ table.keys) :
    table.put key value = table ++ [(key, value)] := by
  unfold put
  rw [if_neg (by simpa using new)]

theorem put_of_split {before after : Table β} (own : β) (first : key ∉ before.keys)
    (once : key ∉ after.keys) :
    put (before ++ (key, own) :: after) key value = before ++ (key, value) :: after := by
  have same (table : Table β) (absent : key ∉ table.keys) :
      table.map (fun entry => if entry.1 = key then (key, value) else entry) = table := by
    conv_rhs => rw [← List.map_id table]
    refine List.map_congr_left fun entry he => if_neg ?_
    rintro rfl
    exact absent (List.mem_map_of_mem he)
  unfold put
  rw [if_pos (by simp [keys]), List.map_append, List.map_cons, same before first, same after once,
    if_pos rfl]

theorem lookup_of_split {before after : Table β} (first : key ∉ before.keys) :
    List.lookup key (before ++ (key, value) :: after) = some value := by
  refine List.lookup_eq_some_iff.mpr ⟨before, after, rfl, fun entry he => ?_⟩
  rw [bne_iff_ne]
  rintro rfl
  exact first (List.mem_map_of_mem he)

theorem extend?_of_split {before after : Table (List β)} (own more : List β)
    (first : key ∉ before.keys) (once : key ∉ after.keys) :
    extend? (before ++ (key, own) :: after) key more =
      some (before ++ (key, own ++ more) :: after) := by
  rw [extend?, lookup_of_split first, Option.map_some, put_of_split own first once]

end Table

end ReviewContext
