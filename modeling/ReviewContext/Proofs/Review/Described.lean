import ReviewContext.Proofs.Diff.Restriction
import ReviewContext.Proofs.Outcome
import ReviewContext.Review.Described

/-! Descriptions: what is done with hunks and scopes as callers describe them is what is done with
the hunks and scopes themselves, where these are described by whole numbers and by texts. -/
namespace ReviewContext

theorem Value.eitherBelowZero_int (a b : Int) :
    (int a).eitherBelowZero (int b) = .ok (decide (a < 0 ∨ b < 0)) := by
  by_cases below : a < 0 <;>
    simp [eitherBelowZero, belowZero, below, bind, Except.bind, pure, Except.pure]

namespace Diff

def Described.ofHunk (hunk : Hunk) : Described := { hunk }

@[simp] theorem Described.hunk_ofHunk (hunk : Hunk) : (Described.ofHunk hunk).hunk = hunk := rfl

theorem Hunk.Trims.contentsOf {hunk trimmed : Hunk} {lead tail : List Line}
    (trims : hunk.Trims trimmed lead tail) :
    ((contentsOf hunk.lines).drop lead.length).take trimmed.lines.length =
      contentsOf trimmed.lines := by
  rw [trims.lines, Diff.contentsOf, ← List.map_drop, ← List.map_take, List.append_assoc,
    List.drop_left, List.take_left]
  rfl

namespace Described

theorem ofNumbers_int (oldStart oldCount newStart newCount : Int) (lines : List Line)
    (delimiters : List String) :
    ofNumbers ⟨.int oldStart, .int oldCount, .int newStart, .int newCount⟩
        (lines.map fun line => (line.kind, .text line.content)) (delimiters.map .text) =
      ((Hunk.ofIntegers oldStart oldCount newStart newCount lines delimiters).map ofHunk).mapError
        .hunk := by
  have given : (delimiters.map Value.text).map Value.toText = delimiters := by
    rw [List.map_map]
    exact List.map_id delimiters
  have kept : (lines.map fun line => (line.kind, Value.text line.content)).map
      (fun line => (⟨line.1, line.2.toText⟩ : Line)) = lines := by
    rw [List.map_map]
    exact List.map_id lines
  have contents : (lines.map fun line => (line.kind, Value.text line.content)).map Prod.snd =
      contentsOf lines := List.map_map
  unfold ofNumbers Hunk.ofIntegers
  rw [Value.eitherBelowZero_int, Value.eitherBelowZero_int, kept, given, contents]
  by_cases starts : oldStart < 0 ∨ newStart < 0
  · simp only [starts, decide_true, if_true]
    rfl
  by_cases counts : oldCount < 0 ∨ newCount < 0
  · simp only [starts, counts, decide_true, decide_false, if_true, if_false]
    rfl
  simp only [starts, counts, decide_false, if_false, Value.whole?, Option.getD_some]
  rw [not_or, Int.not_lt, Int.not_lt] at starts counts
  have numbers : (⟨.int oldStart, .int oldCount, .int newStart, .int newCount⟩ : Numbers) =
      ⟨.int oldStart.toNat, .int oldCount.toNat, .int newStart.toNat, .int newCount.toNat⟩ := by
    rw [Int.toNat_of_nonneg starts.1, Int.toNat_of_nonneg counts.1, Int.toNat_of_nonneg starts.2,
      Int.toNat_of_nonneg counts.2]
  rw [numbers]
  rfl

theorem trim_ofHunk (hunk : Hunk) : (ofHunk hunk).trim = hunk.trim.map ofHunk := by
  cases taken : hunk.trim with
  | error fault =>
    have still : fault = .noEdits hunk.header := by
      unfold Hunk.trim at taken
      split at taken
      · contradiction
      · exact (Except.error.inj taken).symm
    rw [trim, ofHunk, taken, still]
    rfl
  | ok trimmed =>
    obtain ⟨lead, tail, trims⟩ := Hunk.trims_of_trim taken
    rw [trim, ofHunk, taken]
    simp only [trims.first, Option.getD_some, trims.contentsOf, ← List.map_drop, ← List.map_take,
      ← (trims.restrict_eq taken).2]
    rfl

theorem rawLines_ofHunk (hunk : Hunk) : (ofHunk hunk).rawLines = .ok hunk.rawLines := by
  have none_found : (contentsOf hunk.lines).find? (fun content => content.text?.isNone) = none := by
    simp [contentsOf, Value.text?]
  rw [rawLines, ofHunk, none_found]

theorem add_ofHunk (file : List String) (merge : Merge) (next : Hunk) :
    add file (merge, ofHunk merge.hunk) (ofHunk next) =
      (merge.add file next, ofHunk (merge.add file next).hunk) := by
  simp [add, ofHunk, Merge.add, Hunk.extend, contentsOf, Numbers.ofHunk, Line.unchanged,
    Function.comp_def]

theorem foldl_add_ofHunk (file : List String) (merge : Merge) (rest : List Hunk) :
    (rest.map ofHunk).foldl (add file) (merge, ofHunk merge.hunk) =
      (rest.foldl (Merge.add file) merge, ofHunk (rest.foldl (Merge.add file) merge).hunk) := by
  induction rest generalizing merge with
  | nil => rfl
  | cons next rest ih =>
    rw [List.map_cons, List.foldl_cons, add_ofHunk, ih]
    rfl

theorem inOrder_ofHunk (hunks : List Hunk) :
    inOrder (hunks.map ofHunk) = (byNewStart hunks).map ofHunk := by
  have kept : ∀ a ∈ hunks, ∀ b ∈ hunks, decide (a.new.start ≤ b.new.start) =
      decide ((ofHunk a).hunk.new.start ≤ (ofHunk b).hunk.new.start) := fun _ _ _ _ => rfl
  exact (List.map_mergeSort kept).symm

theorem header_ofHunk (hunk : Hunk) : (ofHunk hunk).header = hunk.header := rfl

theorem toCut_ofHunk (hunk : Hunk) : (ofHunk hunk).numbers.toCut = .ok () := rfl

theorem merge_ofHunk (text : String) (hunks : List Hunk) :
    merge (.text text) (hunks.map ofHunk) =
      ((mergeNamed text hunks).map ofHunk).mapError .merge := by
  have cuts : (hunks.map ofHunk).forM (fun described => described.numbers.toCut) = .ok () := by
    induction hunks with
    | nil => rfl
    | cons hunk hunks ih => exact ih
  unfold merge mergeNamed Diff.merge
  rw [inOrder_ofHunk]
  cases byNewStart hunks with
  | nil => rfl
  | cons first rest =>
    have built : (rest.map ofHunk).foldl (add (Text.fileLines text)) (.start first, ofHunk first) =
        _ := foldl_add_ofHunk (Text.fileLines text) (.start first) rest
    have read : (Value.text text).asText "split" = .ok text := rfl
    simp only [List.map_cons, read, cuts, built, hunk_ofHunk, Except.mapError, bind, Except.bind]
    generalize (rest.foldl (Merge.add (Text.fileLines text)) (.start first)).hunk = merged
    cases merged.isWritable <;> rfl

end Described

end Diff

open Diff (Hunk)
open Diff.Described (ofHunk hunk_ofHunk header_ofHunk toCut_ofHunk rawLines_ofHunk trim_ofHunk)

theorem Margin.expandDescribed_ofHunk (margin : Margin) (oldText : String) (hunk : Hunk) :
    margin.expandDescribed (.text oldText) (ofHunk hunk) = margin.expand oldText hunk := by
  unfold Margin.expandDescribed
  have read : (Value.text oldText).asText "split" = .ok oldText := rfl
  simp only [read, rawLines_ofHunk, toCut_ofHunk, header_ofHunk, hunk_ofHunk, Except.mapError,
    bind, Except.bind]
  generalize margin.expand oldText hunk = shown
  cases shown <;> rfl

namespace DescribedScope

def ofScope (scope : Scope) : DescribedScope where
  scope
  nodeType := .text scope.nodeType
  first := .int scope.first
  last := .int scope.last
  text := .text scope.text
  name := (scope.name.map Value.text).getD .null

@[simp] theorem scope_ofScope (scope : Scope) : (ofScope scope).scope = scope := rfl

theorem key_ofScope (scope : Scope) : (ofScope scope).key = scope.key := rfl

theorem ofValues_int (kind : ScopeKind) (nodeType : String) (first last : Int) (text : String)
    (name : Option String) :
    ofValues kind (.text nodeType) (.int first) (.int last) (.text text)
        ((name.map Value.text).getD .null) =
      ((Scope.ofLines kind nodeType first last text name).map ofScope).mapError .scope := by
  have named : ((name.map Value.text).getD .null).text? = name := by cases name <;> rfl
  unfold ofValues Scope.ofLines
  simp only [named, Value.notAboveZero, Value.exceeds, Value.whole?, Value.ceiling?, Value.toText,
    Option.getD_some]
  by_cases firstOut : first ≤ 0
  · simp only [firstOut, true_or, decide_true, dif_pos]
    rfl
  by_cases lastOut : last ≤ 0
  · simp only [firstOut, lastOut, or_true, decide_true, decide_false, dif_pos]
    rfl
  by_cases reversed : last < first
  · simp only [firstOut, lastOut, reversed, or_self, not_false_eq_true, decide_true, decide_false,
      dif_pos, dif_neg]
    rfl
  simp only [firstOut, lastOut, reversed, or_self, not_false_eq_true, decide_false, dif_neg]
  obtain ⟨first, rfl⟩ := Int.eq_ofNat_of_zero_le (Int.le_of_lt (Int.not_le.mp firstOut))
  obtain ⟨last, rfl⟩ := Int.eq_ofNat_of_zero_le (Int.le_of_lt (Int.not_le.mp lastOut))
  rfl

end DescribedScope

theorem Excerpt.ofDescribed_ofHunk (file : String) (scope : Scope) (hunk : Hunk) :
    Excerpt.ofDescribed (.text file) (.ofScope scope) (ofHunk hunk) =
      Excerpt.namedLines file scope hunk := by
  have read : (Value.text file).asText "split" = .ok file := rfl
  have cut :
    Value.toCut [(DescribedScope.ofScope scope).first, (DescribedScope.ofScope scope).last] =
      .ok () := rfl
  unfold Excerpt.ofDescribed
  simp only [read, cut, trim_ofHunk, toCut_ofHunk, header_ofHunk, hunk_ofHunk,
    DescribedScope.key_ofScope, DescribedScope.scope_ofScope, Except.mapError, bind, Except.bind]
  -- What follows the excerpt only looks for faults that it would have had itself.
  cases taken : hunk.trim with
  | error fault =>
    have refused : Excerpt.namedLines file scope hunk =
        .error (if hunk.isWritable then .malformed fault else .unwritable) := by
      rw [Excerpt.namedLines, taken]
    rw [refused]
    cases hunk.isWritable <;> rfl
  | ok trimmed =>
    simp only [Except.map, rawLines_ofHunk]
    generalize Excerpt.namedLines file scope hunk = shown
    cases hunk.isWritable <;> cases shown <;> rfl

theorem findBetween_int (find : Finder) (first last : Int) :
    findBetween find (.int first) (.int last) =
      match reversed? ⟨first, last⟩ with
      | some error => .error error
      | none => find ⟨first, last⟩ := by
  unfold findBetween inOrder reversed?
  simp only [Value.exceeds, Value.whole?, Value.floor?, Value.ceiling?]
  by_cases reversed : last < first
  · simp only [reversed, decide_true, if_true]
    rfl
  · simp only [reversed, decide_false, if_false]
    rfl

section

variable (margin : SearchMargin) (find : Finder)

theorem searchDescribed_ofHunk (lastLine : Nat) (hunk : Hunk) :
    searchDescribed lastLine margin find (ofHunk hunk) = searchHunk lastLine margin find hunk := by
  unfold searchDescribed
  rw [trim_ofHunk]
  cases taken : hunk.trim with
  | error fault =>
    have refused : searchHunk lastLine margin find hunk =
        ⟨[], .error (if hunk.isWritable then .malformed fault else .unwritable)⟩ := by
      rw [searchHunk, taken]
    exact refused.symm
  | ok trimmed => rfl

theorem scopesOfDescribed_ofHunk (text : String) (hunks : List Hunk) :
    scopesOfDescribed (lastLine text) margin find (hunks.map ofHunk) =
      scopesOfHunks text margin find hunks := by
  unfold scopesOfDescribed scopesOfHunks
  rw [List.mapM_map]
  simp only [Function.comp_def, searchDescribed_ofHunk, hunk_ofHunk]
  rfl

end

theorem Service.checkDescribed_text {G : Type} (service : Service) (tools : Syntax.Toolchain G)
    (filename text : String) (cache : Syntax.GrammarCache G) :
    service.checkDescribed tools (.text filename) (.text text) cache =
      service.checkValidity tools filename text cache := rfl

end ReviewContext
