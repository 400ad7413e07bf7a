import BlockFeed.Cancellation

/-!
# The forest of tokens

A registry only grows: tokens are made and cancelled, and neither is ever taken back. A token
carries the mark of its own cancellation and is cancelled if it or a token above it carries one.
Cancelling a token therefore cancels exactly those that it is above of, and making one cancels
none.
-/

namespace BlockFeed
namespace Tokens

/-! ## Growth -/

/-- A later state of a registry: it has more tokens, and more of them are
cancelled. -/
def Grows (tokens later : Tokens) : Prop :=
  ∀ (index : Nat) (entry : Entry), tokens.entries[index]? = some entry ->
    ∃ laterEntry : Entry, later.entries[index]? = some laterEntry ∧
      laterEntry.parent = entry.parent ∧
      (entry.cancelled = true -> laterEntry.cancelled = true)

theorem grows_refl (tokens : Tokens) : tokens.Grows tokens :=
  fun _ entry found => ⟨entry, found, rfl, id⟩

theorem Grows.trans
    {tokens later last : Tokens}
    (grows : tokens.Grows later)
    (further : later.Grows last) :
    tokens.Grows last := by
  intro index entry found
  obtain ⟨laterEntry, isLater, sameParent, stillCancelled⟩ := grows index entry found
  obtain ⟨lastEntry, isLast, parent, cancelled⟩ := further index laterEntry isLater
  exact ⟨lastEntry, isLast, parent.trans sameParent, cancelled ∘ stillCancelled⟩

theorem grows_create (tokens : Tokens) (parent : Option Token) :
    tokens.Grows (tokens.create parent).2 := by
  intro index entry found
  obtain ⟨bound, _⟩ := List.getElem?_eq_some_iff.mp found
  refine ⟨entry, ?_, rfl, id⟩
  rw [create, List.getElem?_append_left bound, found]

theorem grows_cancel (tokens : Tokens) (token : Token) :
    tokens.Grows (tokens.cancel token) := by
  intro index entry found
  by_cases isThis : token.index = index
  · exact ⟨⟨entry.parent, true⟩, by simp [cancel, isThis, found], rfl, fun _ => rfl⟩
  · exact ⟨entry, by simp [cancel, isThis, found], rfl, id⟩

/-- A token of a registry belongs to every later one. -/
theorem Grows.registered
    {tokens later : Tokens}
    (grows : tokens.Grows later)
    {index : Nat}
    (registered : index < tokens.entries.length) :
    index < later.entries.length := by
  obtain ⟨laterEntry, isLater, _⟩ :=
    grows index tokens.entries[index] (List.getElem?_eq_getElem registered)
  exact (List.getElem?_eq_some_iff.mp isLater).1

theorem Grows.length_le {tokens later : Tokens} (grows : tokens.Grows later) :
    tokens.entries.length ≤ later.entries.length :=
  Nat.not_lt.mp fun fewer => Nat.lt_irrefl _ (grows.registered fewer)

/-- What was found within a reach is found in a later registry within every
greater reach. -/
theorem Grows.isCancelledWithin
    {tokens later : Tokens}
    (grows : tokens.Grows later)
    {reach further : Nat}
    (reaches : reach ≤ further)
    {token : Token}
    (cancelled : tokens.isCancelledWithin reach token = true) :
    later.isCancelledWithin further token = true := by
  induction reach generalizing further token with
  | zero => simp [Tokens.isCancelledWithin] at cancelled
  | succ reach inductionHypothesis =>
      obtain ⟨beyond, rfl⟩ : ∃ beyond, further = beyond + 1 :=
        ⟨further - 1, by omega⟩
      cases found : tokens.entries[token.index]? with
      | none => simp [Tokens.isCancelledWithin, found] at cancelled
      | some entry =>
          obtain ⟨laterEntry, laterFound, sameParent, stillCancelled⟩ :=
            grows token.index entry found
          simp only [Tokens.isCancelledWithin, found, Bool.or_eq_true] at cancelled
          simp only [Tokens.isCancelledWithin, laterFound, sameParent, Bool.or_eq_true]
          rcases cancelled with itself | ancestor
          · exact .inl (stillCancelled itself)
          · refine .inr ?_
            cases parent : entry.parent with
            | none => simp [parent] at ancestor
            | some above =>
                simp only [parent] at ancestor
                exact inductionHypothesis (by omega) ancestor

/-- A cancelled token stays cancelled. -/
theorem Grows.isCancelled
    {tokens later : Tokens}
    (grows : tokens.Grows later)
    {token : Token}
    (cancelled : tokens.isCancelled token = true) :
    later.isCancelled token = true := by
  exact grows.isCancelledWithin grows.length_le cancelled

/-! ## Cancelling a token -/

variable {tokens : Tokens} {token above : Token}

@[simp] theorem length_cancel (tokens : Tokens) (token : Token) :
    (tokens.cancel token).entries.length = tokens.entries.length :=
  List.length_modify ..

/-- A token that was cancelled is found so within every reach. -/
theorem isCancelledWithin_cancel
    (registered : token.index < tokens.entries.length)
    (reach : Nat) :
    (tokens.cancel token).isCancelledWithin (reach + 1) token = true := by
  have found : (tokens.cancel token).entries[token.index]? =
      some ⟨tokens.entries[token.index].parent, true⟩ := by
    simp [cancel, List.getElem?_eq_getElem registered]
  simp only [isCancelledWithin, found, Bool.true_or]

theorem isCancelled_cancel (registered : token.index < tokens.entries.length) :
    (tokens.cancel token).isCancelled token = true := by
  obtain ⟨reach, length⟩ : ∃ reach, tokens.entries.length = reach + 1 :=
    ⟨tokens.entries.length - 1, by omega⟩
  rw [isCancelled, length_cancel, length]
  exact isCancelledWithin_cancel registered reach

/-- Cancelling a token cancels its children. -/
theorem isCancelled_of_parent
    {entry : Entry}
    (found : tokens.entries[token.index]? = some entry)
    (parent : entry.parent = some above)
    (registered : above.index < tokens.entries.length) :
    (tokens.cancel above).isCancelled token = true := by
  by_cases same : token = above
  · rw [same]
    exact isCancelled_cancel registered
  · obtain ⟨bound, _⟩ := List.getElem?_eq_some_iff.mp found
    have distinct : token.index ≠ above.index := fun equal =>
      same (congrArg Token.mk equal)
    -- Both tokens are in the registry, so that a reach of two is within its length.
    obtain ⟨reach, length⟩ : ∃ reach, tokens.entries.length = reach + 2 :=
      ⟨tokens.entries.length - 2, by omega⟩
    have kept : (tokens.cancel above).entries[token.index]? = some entry := by
      simp [cancel, distinct.symm, found]
    rw [isCancelled, length_cancel, length, isCancelledWithin]
    simp only [kept, parent, isCancelledWithin_cancel registered, Bool.or_true]

/-! ## The marks of tokens -/

/-- Whether a token itself was cancelled. -/
def isMarked (tokens : Tokens) (token : Token) : Bool :=
  (tokens.entries[token.index]?.map (·.cancelled)).getD false

theorem isMarked_of_found {entry : Entry} (found : tokens.entries[token.index]? = some entry) :
    tokens.isMarked token = entry.cancelled := by
  simp [isMarked, found]

theorem isMarked_cancel_iff (target : Token) :
    (tokens.cancel target).isMarked token = true ↔
      tokens.isMarked token = true ∨ target = token ∧ token.index < tokens.entries.length := by
  by_cases same : target = token
  · subst same
    by_cases registered : target.index < tokens.entries.length
    · simp [isMarked, cancel, registered]
    · simp [isMarked, cancel, registered]
  · have distinct : target.index ≠ token.index := fun equal => same (congrArg Token.mk equal)
    simp [isMarked, cancel, distinct, same]

theorem isMarked_create
    (registered : token.index < tokens.entries.length)
    (parent : Option Token) :
    (tokens.create parent).2.isMarked token = tokens.isMarked token := by
  simp [isMarked, create, List.getElem?_append_left registered]

/-! ## The tokens above a token -/

/-- Every token was made after the one of which it is a child. -/
def IsOrdered (tokens : Tokens) : Prop :=
  ∀ (index : Nat) (entry : Entry) (parent : Token), tokens.entries[index]? = some entry ->
    entry.parent = some parent -> parent.index < index

/-- A token is another one of the registry, or the other one is a child of one that it is
above of. -/
inductive IsAbove (tokens : Tokens) (above : Token) : Token -> Prop
  | itself : above.index < tokens.entries.length -> IsAbove tokens above above
  | child {token parent : Token} {entry : Entry} :
      tokens.entries[token.index]? = some entry ->
      entry.parent = some parent ->
      IsAbove tokens above parent ->
      IsAbove tokens above token

theorem isOrdered_empty : empty.IsOrdered := by
  intro index entry parent found
  simp [empty] at found

theorem IsOrdered.create
    (ordered : tokens.IsOrdered)
    {parent : Option Token}
    (exist : ∀ above, parent = some above -> above.index < tokens.entries.length) :
    (tokens.create parent).2.IsOrdered := by
  intro index entry above found isParent
  rcases Nat.lt_trichotomy index tokens.entries.length with before | same | behind
  · rw [Tokens.create, List.getElem?_append_left before] at found
    exact ordered index entry above found isParent
  · obtain rfl : entry = ⟨parent, false⟩ := by
      simpa [Tokens.create, same] using found.symm
    rw [same]
    exact exist above isParent
  · obtain ⟨bound, _⟩ := List.getElem?_eq_some_iff.mp found
    simp only [Tokens.create, List.length_append, List.length_singleton] at bound
    omega

theorem IsOrdered.cancel (ordered : tokens.IsOrdered) (target : Token) :
    (tokens.cancel target).IsOrdered := by
  intro index entry parent found isParent
  simp only [Tokens.cancel, List.getElem?_modify] at found
  obtain ⟨before, isBefore, isEntry⟩ := Option.map_eq_some_iff.mp found
  refine ordered index before parent isBefore ?_
  rw [← isParent, ← isEntry]
  split <;> rfl

/-- Every reach that goes beyond the token finds the same. -/
theorem IsOrdered.isCancelledWithin_eq
    (ordered : tokens.IsOrdered)
    {reach further : Nat}
    (far : token.index < reach)
    (further_far : token.index < further) :
    tokens.isCancelledWithin reach token = tokens.isCancelledWithin further token := by
  induction reach generalizing further token with
  | zero => exact absurd far (Nat.not_lt_zero _)
  | succ reach inductionHypothesis =>
      obtain ⟨beyond, rfl⟩ : ∃ beyond, further = beyond + 1 := ⟨further - 1, by omega⟩
      cases found : tokens.entries[token.index]? with
      | none => simp only [isCancelledWithin, found]
      | some entry =>
          cases isParent : entry.parent with
          | none => simp only [isCancelledWithin, found, isParent]
          | some parent =>
              have before := ordered token.index entry parent found isParent
              have nearer : parent.index < reach := by omega
              have nearerToo : parent.index < beyond := by omega
              simp only [isCancelledWithin, found, isParent]
              rw [inductionHypothesis nearer nearerToo]

/-- A token is cancelled if it is marked or its parent is cancelled. -/
theorem IsOrdered.isCancelled_iff
    (ordered : tokens.IsOrdered)
    {entry : Entry}
    (found : tokens.entries[token.index]? = some entry) :
    tokens.isCancelled token = true ↔
      tokens.isMarked token = true ∨
        ∃ parent, entry.parent = some parent ∧ tokens.isCancelled parent = true := by
  obtain ⟨registered, _⟩ := List.getElem?_eq_some_iff.mp found
  rw [isMarked_of_found found, isCancelled,
    ordered.isCancelledWithin_eq registered (Nat.lt_succ_of_lt registered)]
  cases isParent : entry.parent with
  | none => simp [isCancelledWithin, found, isParent]
  | some parent =>
      have before := ordered token.index entry parent found isParent
      simp [isCancelledWithin, found, isParent, isCancelled]

/-- A token is above a child if it is the child itself or above its parent. -/
theorem isAbove_iff {entry : Entry} (found : tokens.entries[token.index]? = some entry) :
    tokens.IsAbove above token ↔
      above = token ∨ ∃ parent, entry.parent = some parent ∧ tokens.IsAbove above parent := by
  obtain ⟨registered, _⟩ := List.getElem?_eq_some_iff.mp found
  constructor
  · intro isAbove
    cases isAbove with
    | itself => exact .inl rfl
    | child isFound isParent higher =>
        rw [Option.some.inj (found.symm.trans isFound)]
        exact .inr ⟨_, isParent, higher⟩
  · rintro (rfl | ⟨parent, isParent, higher⟩)
    · exact .itself registered
    · exact .child found isParent higher

theorem IsAbove.registered (isAbove : tokens.IsAbove above token) :
    token.index < tokens.entries.length := by
  cases isAbove with
  | itself registered => exact registered
  | child found => exact (List.getElem?_eq_some_iff.mp found).1

/-- What is above a token was made no later. -/
theorem IsAbove.index_le (isAbove : tokens.IsAbove above token) (ordered : tokens.IsOrdered) :
    above.index ≤ token.index := by
  induction isAbove with
  | itself => exact Nat.le_refl _
  | child found isParent _ inductionHypothesis =>
      exact Nat.le_of_lt (Nat.lt_of_le_of_lt inductionHypothesis (ordered _ _ _ found isParent))

/-- A token is cancelled exactly if one above it, itself included, was cancelled. -/
theorem IsOrdered.isCancelled_iff_isAbove (ordered : tokens.IsOrdered) :
    tokens.isCancelled token = true ↔
      ∃ above, tokens.IsAbove above token ∧ tokens.isMarked above = true := by
  obtain ⟨index⟩ := token
  -- Parents have smaller numbers than their children.
  induction index using Nat.strongRecOn with
  | ind index inductionHypothesis =>
      cases found : tokens.entries[index]? with
      | none =>
          have unregistered : tokens.entries.length ≤ index := List.getElem?_eq_none_iff.mp found
          constructor
          · intro cancelled
            cases reach : tokens.entries.length <;>
              simp [isCancelled, reach, isCancelledWithin, found] at cancelled
          · rintro ⟨above, isAbove, _⟩
            exact absurd isAbove.registered (Nat.not_lt.mpr unregistered)
      | some entry =>
          have isEntry : tokens.entries[(Token.mk index).index]? = some entry := found
          rw [ordered.isCancelled_iff isEntry]
          constructor
          · rintro (marked | ⟨parent, isParent, cancelled⟩)
            · exact ⟨⟨index⟩, .itself (List.getElem?_eq_some_iff.mp found).1, marked⟩
            · obtain ⟨above, isAbove, marked⟩ := (inductionHypothesis parent.index
                (ordered index entry parent found isParent)).mp cancelled
              exact ⟨above, .child found isParent isAbove, marked⟩
          · rintro ⟨above, isAbove, marked⟩
            rcases (isAbove_iff found).mp isAbove with rfl | ⟨parent, isParent, higher⟩
            · exact .inl marked
            · exact .inr ⟨parent, isParent, (inductionHypothesis parent.index
                (ordered index entry parent found isParent)).mpr ⟨above, higher, marked⟩⟩

/-- What is above a token is so in every later registry, and nothing else ever is. -/
theorem Grows.isAbove_iff
    {later : Tokens}
    (grows : tokens.Grows later)
    (ordered : tokens.IsOrdered)
    (registered : token.index < tokens.entries.length) :
    later.IsAbove above token ↔ tokens.IsAbove above token := by
  constructor
  · intro isAbove
    induction isAbove with
    | itself => exact .itself registered
    | child found isParent _ inductionHypothesis =>
        obtain ⟨entry, isEntry⟩ : ∃ entry, tokens.entries[_]? = some entry :=
          ⟨_, List.getElem?_eq_getElem registered⟩
        obtain ⟨laterEntry, isLater, sameParent, _⟩ := grows _ entry isEntry
        obtain rfl := Option.some.inj (isLater.symm.trans found)
        have parent := sameParent.symm.trans isParent
        have before := ordered _ entry _ isEntry parent
        exact .child isEntry parent (inductionHypothesis (Nat.lt_trans before registered))
  · intro isAbove
    induction isAbove with
    | itself => exact .itself (grows.registered registered)
    | child found isParent isAbove inductionHypothesis =>
        obtain ⟨laterEntry, isLater, sameParent, _⟩ := grows _ _ found
        exact .child isLater (sameParent.trans isParent)
          (inductionHypothesis isAbove.registered)

end Tokens
end BlockFeed
