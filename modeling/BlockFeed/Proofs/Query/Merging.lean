import BlockFeed.Query
import Mathlib.Data.List.Zip

/-!
# Merging selections

Two selections of one dataset are merged by joining each filter list of the one to the list
with the same name of the other. Selections of different datasets are not merged, so that
merging is a partial operation; where it is defined, it does not matter which of several
selections are merged first, and a selection that asks for nothing adds nothing.
-/

namespace BlockFeed
namespace Selection

variable {selection other third merged : Selection}

/-- The filter list with a name, which is empty if there is no filter with this name. -/
def list (selection : Selection) (name : String) : List Json.Value :=
  ((selection.dataset.filters.zip selection.filters).lookup name).getD []

/-- What becomes of a selection to which another one is merged. -/
structure Merges (selection other merged : Selection) : Prop where
  same : other.dataset = selection.dataset
  dataset : merged.dataset = selection.dataset
  fields : merged.fields = selection.fields
  includeAllBlocks :
    merged.includeAllBlocks = (selection.includeAllBlocks || other.includeAllBlocks)
  filters : merged.filters = List.zipWith (· ++ ·) selection.filters other.filters

/-- A selection is known by its parts. -/
theorem eq_of_parts
    (dataset : selection.dataset = other.dataset)
    (fields : selection.fields = other.fields)
    (includeAllBlocks : selection.includeAllBlocks = other.includeAllBlocks)
    (filters : selection.filters = other.filters) :
    selection = other := by
  cases selection
  cases other
  simp_all

/-- Merging is defined for selections of one dataset. -/
theorem exists_merged (same : other.dataset = selection.dataset) :
    ∃ merged, selection.merge other = .ok merged ∧ selection.Merges other merged :=
  ⟨_, dif_pos same, same, rfl, rfl, rfl, rfl⟩

theorem merge_of_different (different : other.dataset ≠ selection.dataset) :
    ∃ fault, selection.merge other = .error fault :=
  ⟨_, dif_neg different⟩

/-- Merging succeeds with the one selection that it describes. -/
theorem merge_eq_ok_iff : selection.merge other = .ok merged ↔ selection.Merges other merged := by
  by_cases same : other.dataset = selection.dataset
  · obtain ⟨only, isMerge, merges⟩ := exists_merged same
    rw [isMerge, Except.ok.injEq]
    constructor
    · rintro rfl
      exact merges
    · intro others
      exact eq_of_parts (merges.dataset.trans others.dataset.symm)
        (merges.fields.trans others.fields.symm)
        (merges.includeAllBlocks.trans others.includeAllBlocks.symm)
        (merges.filters.trans others.filters.symm)
  · obtain ⟨fault, isFault⟩ := merge_of_different same
    rw [isFault]
    exact ⟨nofun, fun merges => absurd merges.same same⟩

/-! ## The lists -/

theorem lookup_zip_zipWith
    {names : List String} {left right : List (List α)}
    (leftWidth : left.length = names.length)
    (rightWidth : right.length = names.length)
    (name : String) :
    ((names.zip (List.zipWith (· ++ ·) left right)).lookup name).getD [] =
      ((names.zip left).lookup name).getD [] ++ ((names.zip right).lookup name).getD [] := by
  induction names generalizing left right with
  | nil => simp
  | cons first names inductionHypothesis =>
      obtain ⟨list, left, rfl⟩ := List.exists_cons_of_length_eq_add_one leftWidth
      obtain ⟨otherList, right, rfl⟩ := List.exists_cons_of_length_eq_add_one rightWidth
      simp only [List.zipWith_cons_cons, List.zip_cons_cons, List.lookup_cons]
      split
      · rfl
      · exact inductionHypothesis (Nat.succ.inj leftWidth) (Nat.succ.inj rightWidth)

theorem zipWith_append_nils
    {names : List String} {lists : List (List α)}
    (width : lists.length = names.length) :
    List.zipWith (· ++ ·) lists (names.map fun _ => []) = lists := by
  induction names generalizing lists with
  | nil => rw [List.length_eq_zero_iff.mp width, List.zipWith_nil_left]
  | cons first names inductionHypothesis =>
      obtain ⟨list, lists, rfl⟩ := List.exists_cons_of_length_eq_add_one width
      rw [List.map_cons, List.zipWith_cons_cons, inductionHypothesis (Nat.succ.inj width),
        List.append_nil]

namespace Merges

/-- Every filter list is joined to the one with its name. -/
theorem list (merges : selection.Merges other merged) (name : String) :
    merged.list name = selection.list name ++ other.list name := by
  have width : other.filters.length = selection.dataset.filters.length := by
    rw [other.width, merges.same]
  rw [Selection.list, merges.dataset, merges.filters, Selection.list, Selection.list, merges.same]
  exact lookup_zip_zipWith selection.width width name

/-- What is merged to the outcome of a merge might as well have been merged before. -/
theorem assoc
    {first joined : Selection}
    (left : selection.Merges other first)
    (inner : other.Merges third joined) :
    first.Merges third merged ↔ selection.Merges joined merged := by
  have datasets : third.dataset = first.dataset ∧ joined.dataset = selection.dataset :=
    ⟨by rw [inner.same, left.same, left.dataset], by rw [inner.dataset, left.same]⟩
  have inclusion :
      (first.includeAllBlocks || third.includeAllBlocks) =
        (selection.includeAllBlocks || joined.includeAllBlocks) := by
    rw [left.includeAllBlocks, inner.includeAllBlocks, Bool.or_assoc]
  have filters :
      List.zipWith (· ++ ·) first.filters third.filters =
        List.zipWith (· ++ ·) selection.filters joined.filters := by
    rw [left.filters, inner.filters, List.zipWith_zipWith_left, List.zipWith_zipWith_right]
    simp only [List.append_assoc]
  constructor
  · intro merges
    exact ⟨datasets.2, merges.dataset.trans left.dataset, merges.fields.trans left.fields,
      merges.includeAllBlocks.trans inclusion, merges.filters.trans filters⟩
  · intro merges
    exact ⟨datasets.1, merges.dataset.trans left.dataset.symm,
      merges.fields.trans left.fields.symm, merges.includeAllBlocks.trans inclusion.symm,
      merges.filters.trans filters.symm⟩

/-- Of three selections, it does not matter which two are merged first: one order succeeds if
the other one does, and with the same outcome. -/
theorem exists_assoc :
    (∃ first, selection.Merges other first ∧ first.Merges third merged) ↔
      ∃ joined, other.Merges third joined ∧ selection.Merges joined merged := by
  constructor
  · rintro ⟨first, left, merges⟩
    have same : third.dataset = other.dataset := by rw [merges.same, left.dataset, left.same]
    obtain ⟨joined, _, inner⟩ := exists_merged same
    exact ⟨joined, inner, (left.assoc inner).mp merges⟩
  · rintro ⟨joined, inner, merges⟩
    have same : other.dataset = selection.dataset := by rw [← inner.dataset, merges.same]
    obtain ⟨first, _, left⟩ := exists_merged same
    exact ⟨first, left, (left.assoc inner).mpr merges⟩

/-- A selection that asks for nothing adds nothing. -/
theorem of_empty (selection : Selection) :
    selection.Merges (empty selection.dataset) selection where
  same := rfl
  dataset := rfl
  fields := rfl
  includeAllBlocks := (Bool.or_false _).symm
  filters := (zipWith_append_nils selection.width).symm

end Merges

/-! ## Merging in place -/

/-- Merging in place ends with the outcome of the merge, or with the selection that was there
before. -/
theorem run_absorb (selection other : Selection) :
    (absorb other).run selection =
      match selection.merge other with
      | .ok merged => .ok () merged
      | .error fault => .error fault selection := by
  change (match selection.merge other with
    | .ok merged => set merged
    | .error fault => throw fault : EStateM Fault Selection Unit) selection = _
  cases selection.merge other <;> rfl

theorem run_absorb_eq_ok_iff :
    (absorb other).run selection = .ok () merged ↔ selection.Merges other merged := by
  rw [run_absorb, ← merge_eq_ok_iff]
  cases selection.merge other <;> simp

/-- Two selections are merged in place one after the other. -/
theorem run_absorb_absorb_eq_ok_iff :
    (do absorb other; absorb third : EStateM Fault Selection Unit).run selection =
        .ok () merged ↔
      ∃ first, selection.Merges other first ∧ first.Merges third merged := by
  simp only [← run_absorb_eq_ok_iff, EStateM.run, bind, EStateM.bind]
  cases absorb other selection with
  | ok done first => simp
  | error fault rest => simp

/-- Merging in place succeeds exactly for selections of one dataset, and otherwise leaves the
selection as it was. What it makes of the selection keeps the dataset and the choice of fields,
includes all blocks if one of the two did, and has each filter list joined to the one with the
same name. To merge two selections one after the other comes to the same as to merge them with
each other first: both succeed, with the same outcome, or both fail. A selection that asks for
nothing changes nothing. -/
theorem selections_merge_as_partial_monoid (selection other third : Selection) :
    ((∃ merged, (absorb other).run selection = .ok () merged) ↔
        selection.dataset = other.dataset) ∧
      (∀ fault rest, (absorb other).run selection = .error fault rest -> rest = selection) ∧
      (∀ merged, (absorb other).run selection = .ok () merged ->
        merged.dataset = selection.dataset ∧
          merged.fields = selection.fields ∧
          merged.includeAllBlocks = (selection.includeAllBlocks || other.includeAllBlocks) ∧
          ∀ name, merged.list name = selection.list name ++ other.list name) ∧
      (∀ merged,
        (do absorb other; absorb third : EStateM Fault Selection Unit).run selection =
            .ok () merged ↔
          ∃ joined, (absorb third).run other = .ok () joined ∧
            (absorb joined).run selection = .ok () merged) ∧
      (absorb (empty selection.dataset)).run selection = .ok () selection := by
  refine ⟨?succeeds, ?fails, ?merges, ?associates, ?empty⟩
  case succeeds =>
    simp only [run_absorb_eq_ok_iff]
    constructor
    · rintro ⟨merged, merges⟩
      exact merges.same.symm
    · intro same
      obtain ⟨merged, _, merges⟩ := exists_merged same.symm
      exact ⟨merged, merges⟩
  case fails =>
    intro fault rest failed
    rw [run_absorb] at failed
    split at failed
    · cases failed
    · cases failed
      rfl
  case merges =>
    intro merged isMerged
    have merges := run_absorb_eq_ok_iff.mp isMerged
    exact ⟨merges.dataset, merges.fields, merges.includeAllBlocks, merges.list⟩
  case associates =>
    intro merged
    simp only [run_absorb_absorb_eq_ok_iff, run_absorb_eq_ok_iff]
    exact Merges.exists_assoc
  case empty => exact run_absorb_eq_ok_iff.mpr (Merges.of_empty selection)

end Selection
end BlockFeed
