import ReviewContext.Scope.HunkGrouping
import ReviewContext.Proofs.Outcome
import ReviewContext.Proofs.Scope.Grouping

/-! Hunks are grouped exactly if a scope, or none, is found for each of them; each is looked up on
its own. -/
namespace ReviewContext

/-- The scope found for a hunk of a text; none also if it has none or the lookup comes to
nothing. -/
def foundScope (text : String) (margin : SearchMargin) (find : Finder)
    (hunk : Diff.Hunk) : Option Scope :=
  (scopeOfHunk (lastLine text) margin find hunk).toOption.join

namespace Grouping

variable {text : String} {margin : SearchMargin} {find : Finder} {hunks : List Diff.Hunk}
  {grouping : Grouping Diff.Hunk}

theorem ofHunks_eq_ok_iff :
    ofHunks text margin find hunks = .ok grouping ↔
      (∀ hunk ∈ hunks,
        scopeOfHunk (lastLine text) margin find hunk = .ok (foundScope text margin find hunk)) ∧
        ofScopes (hunks.map fun hunk => (hunk, foundScope text margin find hunk)) = grouping := by
  let found := foundScope text margin find
  have zipped : hunks.zip (hunks.map found) = hunks.map fun hunk => (hunk, found hunk) := by
    simpa using List.zip_map' (f := id) (g := found) (l := hunks)
  unfold ofHunks scopesOfHunks
  rw [Outcome.map_eq_ok_iff]
  constructor
  · rintro ⟨scopes, ok, rfl⟩
    have each := Outcome.mapM_eq_ok_iff.mp ok
    have same : scopes = hunks.map found := by
      rw [← List.forall₂_eq_eq_eq, List.forall₂_map_right_iff]
      exact each.flip.imp fun scope hunk h => by simp [found, foundScope, h, Except.toOption]
    refine ⟨fun hunk hm => ?_, by rw [same, zipped]⟩
    rw [same, List.forall₂_map_right_iff, List.forall₂_same] at each
    exact each hunk hm
  · rintro ⟨each, rfl⟩
    exact ⟨hunks.map found, Outcome.mapM_eq_ok_map each, by rw [zipped]⟩

theorem exists_of_ofHunks_eq_error {error : LookupError}
    (failed : ofHunks text margin find hunks = .error error) :
    ∃ hunk ∈ hunks, scopeOfHunk (lastLine text) margin find hunk = .error error := by
  apply Outcome.exists_of_mapM_eq_error
  unfold ofHunks scopesOfHunks at failed
  cases walk : hunks.mapM (scopeOfHunk (lastLine text) margin find) with
  | ok scopes =>
    rw [walk] at failed
    contradiction
  | error other =>
    rw [walk] at failed
    exact congrArg Except.error (Except.error.inj failed)

theorem sound_ofHunks (grouped : ofHunks text margin find hunks = .ok grouping) :
    Sound (foundScope text margin find) hunks grouping := by
  rw [← (ofHunks_eq_ok_iff.mp grouped).2]
  exact sound_ofScopes _ _

theorem ofHunks_of_perm {others : List Diff.Hunk} (order : others.Perm hunks)
    (grouped : ofHunks text margin find hunks = .ok grouping) :
    ∃ regrouped, ofHunks text margin find others = .ok regrouped := by
  refine ⟨_, ofHunks_eq_ok_iff.mpr ⟨fun hunk hm => ?_, rfl⟩⟩
  exact (ofHunks_eq_ok_iff.mp grouped).1 hunk (order.mem_iff.mp hm)

end Grouping

end ReviewContext
