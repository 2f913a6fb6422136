import ReviewContext.Proofs.Syntax.Nested
import ReviewContext.Proofs.Text.Decimal
import ReviewContext.Syntax.Language
import ReviewContext.Syntax.Validity
import ReviewContext.Text.Rows

/-! Faults: a search that enters only flagged nodes finds the first fault of a tree in document
order, and what is said of an invalid text tells where this fault is. -/
namespace ReviewContext.Syntax

namespace Tree

theorem nodes_eq (tree : Tree) : tree.nodes = tree :: tree.children.flatMap nodes := by
  cases tree with
  | node label children => rw [nodes, nodesOfAll_eq_flatMap, Tree.children]

/-- Searches the trees on a stack. The children of a flagged node go on top of it. -/
def seek : List Tree → Option Tree
  | [] => none
  | tree :: stack =>
    if tree.isFault then some tree
    else if tree.isFlagged then seek (tree.children ++ stack)
    else seek stack
termination_by stack => (stack.flatMap nodes).length
decreasing_by
  · rw [List.flatMap_append, List.flatMap_cons, nodes_eq, List.length_append, List.length_append,
      List.length_cons]
    omega
  · rw [List.flatMap_cons, nodes_eq, List.length_append, List.length_cons]
    omega

mutual

theorem isFlagged_eq_any :
    (tree : Tree) → tree.isFlagged = tree.nodes.any fun node => node.label.flags.any
  | .node label children => by
    rw [isFlagged, nodes, List.any_cons, anyFlagged_eq_any children]
    rfl

theorem anyFlagged_eq_any :
    (trees : List Tree) → anyFlagged trees = (nodesOfAll trees).any fun node => node.label.flags.any
  | [] => rfl
  | tree :: rest => by
    rw [anyFlagged, nodesOfAll, List.any_append, isFlagged_eq_any tree, anyFlagged_eq_any rest]

end

theorem isFlagged_eq_false_iff {tree : Tree} :
    tree.isFlagged = false ↔ ∀ node ∈ tree.nodes, node.label.flags.any = false := by
  rw [isFlagged_eq_any, List.any_eq_false]
  simp only [Bool.not_eq_true]

theorem isFault_eq_false_of_any {tree : Tree} (none : tree.label.flags.any = false) :
    tree.isFault = false := by
  rw [Flags.any, Bool.or_eq_false_iff] at none
  exact none.1

theorem find?_nodes_eq_none {tree : Tree} (quiet : tree.isFlagged = false) :
    tree.nodes.find? isFault = none := by
  rw [List.find?_eq_none]
  intro node among
  rw [isFault_eq_false_of_any (isFlagged_eq_false_iff.mp quiet node among)]
  exact Bool.false_ne_true

theorem seek_eq_find? (stack : List Tree) : seek stack = (stack.flatMap nodes).find? isFault := by
  fun_induction seek stack with
  | case1 => rfl
  | case2 tree stack fault =>
    rw [List.flatMap_cons, nodes_eq, List.cons_append, List.find?_cons, fault]
  | case3 tree stack sound flagged ih =>
    rw [ih, List.flatMap_append, List.flatMap_cons, nodes_eq, List.cons_append, List.find?_cons,
      Bool.eq_false_iff.mpr sound]
  | case4 tree stack sound quiet ih =>
    rw [ih, List.flatMap_cons, List.find?_append, find?_nodes_eq_none (Bool.eq_false_iff.mpr quiet),
      Option.none_or]

mutual

theorem firstFault?_eq_find? : (tree : Tree) → tree.firstFault? = tree.nodes.find? isFault
  | .node label children => by
    have within := firstFaultIn?_eq_find? children
    have nothing := @find?_nodes_eq_none (.node label children)
    rw [nodes, List.find?_cons] at nothing ⊢
    rw [firstFault?, within]
    cases fault : (node label children).isFault with
    | true => rfl
    | false =>
      rw [fault] at nothing
      cases flagged : (node label children).isFlagged with
      | true => rfl
      | false => exact (nothing flagged).symm

theorem firstFaultIn?_eq_find? :
    (trees : List Tree) → firstFaultIn? trees = (nodesOfAll trees).find? isFault
  | [] => rfl
  | tree :: rest => by
    rw [firstFaultIn?, nodesOfAll, List.find?_append, firstFault?_eq_find? tree,
      firstFaultIn?_eq_find? rest]

end

end Tree

def Tells (message : String) (line column : Int) : Prop :=
  ∃ what, message = what ++ " at line " ++ toString line ++ ", column " ++ toString column

theorem eq_of_last_blank {front other back more : List Char} (own : ' ' ∉ back)
    (others : ' ' ∉ more) (same : front ++ ' ' :: back = other ++ ' ' :: more) :
    front = other ∧ back = more := by
  rcases List.append_eq_append_iff.mp same with ⟨between, rfl, rest⟩ | ⟨between, rfl, rest⟩
  all_goals
    cases between with
    | nil => simpa [eq_comm] using rest
    | cons c between =>
      obtain ⟨rfl, rfl⟩ := List.cons.inj rest
      simp at own others

theorem blank_notMem_int (n : Int) : ' ' ∉ (toString n).toList := fun inside => by
  rcases Text.eq_minus_or_isDigit_of_mem_int inside with minus | digit <;> contradiction

theorem toList_tells {what : String} {line column : Int} :
    (what ++ " at line " ++ toString line ++ ", column " ++ toString column).toList =
      what.toList ++ " at line".toList ++ ' ' :: (toString line).toList ++ ", column".toList ++
        ' ' :: (toString column).toList := by
  simp

theorem Tells.unique {message : String} {line column line' column' : Int}
    (first : Tells message line column) (second : Tells message line' column') :
    line = line' ∧ column = column' := by
  obtain ⟨what, rfl⟩ := first
  obtain ⟨other, same⟩ := second
  have lists := congrArg String.toList same
  rw [toList_tells, toList_tells] at lists
  obtain ⟨front, columns⟩ := eq_of_last_blank (blank_notMem_int _) (blank_notMem_int _) lists
  obtain ⟨-, lines⟩ :=
    eq_of_last_blank (blank_notMem_int _) (blank_notMem_int _) (List.append_cancel_right front)
  exact ⟨Text.toString_int_injective (String.toList_inj.mp lines),
    Text.toString_int_injective (String.toList_inj.mp columns)⟩

theorem not_tells_code (name : String) (line column : Int) :
    ¬ Tells ("Syntax error in " ++ name ++ " code") line column := by
  rintro ⟨what, same⟩
  have lists := congrArg String.toList same
  have code : ("Syntax error in " ++ name ++ " code").toList =
      ("Syntax error in " ++ name).toList ++ ' ' :: "code".toList := by simp
  rw [toList_tells, code] at lists
  obtain ⟨-, digits⟩ := eq_of_last_blank (by decide) (blank_notMem_int _) lists
  have inside : 'c' ∈ (toString column).toList := digits ▸ List.mem_cons_self
  rcases Text.eq_minus_or_isDigit_of_mem_int inside with minus | digit <;> contradiction

/-- Places are counted in words of 32 bits. -/
def Tree.Addressed (tree : Tree) : Prop :=
  ∀ node ∈ tree.nodes, (0 ≤ node.label.startRow ∧ node.label.startRow < 4294967296) ∧
    0 ≤ node.label.startColumn ∧ node.label.startColumn < 4294967296

def Tree.isPlaced (tree : Tree) : Bool :=
  Text.isWritable (tree.label.startRow + 1) && Text.isWritable (tree.label.startColumn + 1)

theorem isWritable_of_word {n : Int} (start : 0 ≤ n) (word : n < 4294967296) :
    Text.isWritable (n + 1) = true := by
  have long : 4294967297 < Nat.pow 10 Text.digitLimit := by decide +kernel
  rw [Text.isWritable, decide_eq_true_eq]
  omega

theorem Tree.Addressed.isPlaced {tree node : Tree} (addressed : tree.Addressed)
    (among : node ∈ tree.nodes) :
    node.isPlaced = true := by
  obtain ⟨⟨row, shortRow⟩, column, shortColumn⟩ := addressed node among
  rw [Tree.isPlaced, isWritable_of_word row shortRow, isWritable_of_word column shortColumn,
    Bool.and_self]

namespace Validity

theorem tells_ofFault (profile : Profile) (fault : Tree) :
    Tells (ofFault profile fault).message (fault.label.startRow + 1)
    (fault.label.startColumn + 1) := by
  refine ⟨(if fault.label.flags.isMissing then "Missing " ++ fault.type else "Syntax error")
    ++ " in " ++ profile.displayName ++ " code", ?_⟩
  simp [ofFault, String.append_assoc]

theorem startsWith_ofFault (profile : Profile) (fault : Tree) :
    Text.startsWith (ofFault profile fault).message "Missing " = fault.label.flags.isMissing := by
  unfold Text.startsWith ofFault
  simp only [String.toList_append]
  cases fault.label.flags.isMissing <;> simp [List.isPrefixOf]

theorem ofTree_of_fault (profile : Profile) {tree fault : Tree}
    (found : tree.nodes.find? Tree.isFault = some fault) :
    ofTree profile tree = ofFault profile fault := by
  have flagged : tree.isFlagged = true := by
    rw [← Bool.not_eq_false]
    intro quiet
    rw [Tree.find?_nodes_eq_none quiet] at found
    contradiction
  rw [ofTree, if_pos flagged, Tree.firstFault?_eq_find?, found]

theorem ofTree_of_none (profile : Profile) {tree : Tree}
    (none : tree.nodes.find? Tree.isFault = none) :
    ofTree profile tree =
      if tree.isFlagged then ⟨false, "Syntax error in " ++ profile.displayName ++ " code"⟩
      else ⟨true, ""⟩ := by
  rw [ofTree, Tree.firstFault?_eq_find?, none]

theorem valid_ofTree_iff (profile : Profile) (tree : Tree) :
    (ofTree profile tree).valid = true ↔ ∀ node ∈ tree.nodes, node.label.flags.any = false := by
  rw [← Tree.isFlagged_eq_false_iff, ofTree]
  cases tree.isFlagged with
  | false => simp
  | true =>
    simp only [if_true]
    split <;> simp [ofFault]

theorem ofSource_eq (profile : Profile) (text : String) (tree : Tree) :
    ofSource profile ⟨text, .ok tree⟩ =
      if (tree.nodes.find? Tree.isFault).all Tree.isPlaced then .ok (ofTree profile tree)
      else .error .unwritable := by
  have sought : (if tree.isFlagged then tree.firstFault? else none) =
      tree.nodes.find? Tree.isFault := by
    split
    next => exact Tree.firstFault?_eq_find? tree
    next quiet => exact (Tree.find?_nodes_eq_none (Bool.eq_false_iff.mpr quiet)).symm
  change (if isWritable tree then _ else Except.error ValidityError.unwritable) = _
  rw [isWritable, sought]
  rfl

/-- A text is valid exactly if no node of its tree is flagged. Of an invalid one the place of the
first fault in document order is told, and no place if there is no fault; that it is missing is said
of a fault that is. A place that cannot be written, which no parser counts up to, is the only one
that is not told. -/
theorem ofSource_exact (profile : Profile) (text : String) (tree : Tree) :
    let first := tree.nodes.find? Tree.isFault
    Tree.seek [tree] = first ∧ (tree.Addressed → first.all Tree.isPlaced = true) ∧
      ∃ verdict : Validity,
        ofSource profile ⟨text, .ok tree⟩ =
          (if first.all Tree.isPlaced then .ok verdict else .error .unwritable) ∧
        (verdict.valid = true ↔ ∀ node ∈ tree.nodes, node.label.flags.any = false) ∧
        (verdict.valid = false →
          (∀ line column, Tells verdict.message line column ↔
            ∃ fault, first = some fault ∧ line = fault.label.startRow + 1 ∧
              column = fault.label.startColumn + 1) ∧
          (∀ fault, first = some fault →
            Text.startsWith verdict.message "Missing " = fault.label.flags.isMissing) ∧
          ((∀ line column, ¬ Tells verdict.message line column) ↔
            ∀ node ∈ tree.nodes, node.isFault = false)) := by
  intro first
  have visited : Tree.seek [tree] = first := by rw [Tree.seek_eq_find?, List.flatMap_singleton]
  have faultless : first = none ↔ ∀ node ∈ tree.nodes, node.isFault = false := by
    simp only [first, List.find?_eq_none, Bool.not_eq_true]
  refine ⟨visited, ?_, ofTree profile tree, ofSource_eq profile text tree,
    valid_ofTree_iff profile tree, ?_⟩
  · intro addressed
    rw [Option.all_eq_true]
    exact fun fault found => addressed.isPlaced (List.mem_of_find?_eq_some found)
  · intro invalid
    rw [← faultless]
    cases found : first with
    | none =>
      have flagged : tree.isFlagged = true := by
        rw [ofTree_of_none profile found] at invalid
        cases flagged : tree.isFlagged with
        | true => rfl
        | false => simp [flagged] at invalid
      have unplaced := not_tells_code profile.displayName
      rw [ofTree_of_none profile found, if_pos flagged]
      exact ⟨fun line column => by simp [unplaced], nofun, by simp [unplaced]⟩
    | some fault =>
      have placed := tells_ofFault profile fault
      rw [ofTree_of_fault profile found]
      refine ⟨fun line column => ⟨fun told => ⟨fault, rfl, told.unique placed⟩, ?_⟩, ?_, ?_⟩
      · rintro ⟨other, same, rfl, rfl⟩
        rwa [← Option.some.inj same]
      · intro other same
        rw [← Option.some.inj same]
        exact startsWith_ofFault profile fault
      · exact iff_of_false (fun untold => untold _ _ placed) (by simp)

theorem ofSource_exact_missing :
    let leaf (type : String) (row column : Int) (flags : Flags) : Tree :=
      .node ⟨type, row, column, row, 0, 0, none, flags⟩ []
    let strange : Tree :=
      .node ⟨"module", 0, 0, 0, 0, 0, none, ⟨false, false, true⟩⟩ [leaf "name" 0 2 {}]
    let call : Tree := .node ⟨"call", 1, 0, 2, 0, 0, none, {}⟩ [leaf ")" 1 6 ⟨false, true, false⟩]
    let tree : Tree :=
      .node ⟨"module", 0, 0, 3, 0, 0, none, {}⟩
        [strange, call, leaf "ERROR" 3 0 ⟨true, false, false⟩]
    ∃ verdict : Validity, Validity.ofSource Language.python.profile ⟨"", .ok tree⟩ = .ok verdict ∧
      verdict.valid = false ∧ Tells verdict.message 2 7 ∧
        Text.startsWith verdict.message "Missing " = true := by
  -- The first flagged node has no fault in it; the next one to be entered lacks a bracket, which
  -- stands before an error.
  intro leaf strange call tree
  have first : tree.nodes.find? Tree.isFault = some (leaf ")" 1 6 ⟨false, true, false⟩) := rfl
  obtain ⟨-, -, verdict, judged, valid, told⟩ := ofSource_exact Language.python.profile "" tree
  have invalid : verdict.valid = false := by
    rw [← Bool.not_eq_true, valid]
    intro quiet
    exact absurd (quiet _ (List.mem_of_find?_eq_some first)) (by decide)
  obtain ⟨places, wording, -⟩ := told invalid
  have placed : (some (leaf ")" 1 6 ⟨false, true, false⟩)).all Tree.isPlaced =
    true := by decide +kernel
  rw [first, placed, if_pos rfl] at judged
  exact ⟨verdict, judged, invalid, (places 2 7).mpr ⟨_, first, rfl, rfl⟩, wording _ first⟩

end Validity

end ReviewContext.Syntax
