import BlockFeed.Proofs.Json.Reach

/-!
# Values and typed places

A value of any kind is delimited, as its last part may be a number. An object
delimits itself, whatever its members are, and a place of some type is delimited
because another kind of value is refused wherever it ends.
-/

namespace BlockFeed
namespace Json
namespace Reader

/-- A value is chosen by its first octet. All but numbers delimit themselves. -/
theorem value_branches {levels : Nat} (delimited : (value levels).Delimited) :
    ∃ next : Option UInt8 -> Reader Value,
      value (levels + 1) = (skipLayout >>= fun _ => peek >>= next) ∧
      (∀ result, next none [] ≠ .ok result) ∧
      ∀ octet, beginsNumber octet = false ∧ (next (some octet)).SelfDelimitingAt octet ∨
        next (some octet) = number >>= fun read => pure (.number read) := by
  refine ⟨_, rfl, by simp, fun octet => ?_⟩
  have wordBranch : ∀ expected result, SelfDelimitingAt octet (do
      drop
      word expected
      return (result : Value)) := fun expected _ =>
    .dropBind _ ((selfDelimiting_word expected).bind fun _ => selfDelimiting_pure _)
  have delimitedMember : ∀ (known : Members) (key : String), Delimited (do
      colon
      return Members.insert key (← value levels) known) := by
    intro known key
    exact selfDelimiting_colon.delimited.bind fun _ =>
      delimited.bind fun _ => (selfDelimiting_pure _).delimited
  split
  · next none => cases none
  · next isFirst =>
      cases isFirst
      exact .inl ⟨rfl, wordBranch _ _⟩
  · next isFirst =>
      cases isFirst
      exact .inl ⟨rfl, wordBranch _ _⟩
  · next isFirst =>
      cases isFirst
      exact .inl ⟨rfl, wordBranch _ _⟩
  · next isFirst =>
      cases isFirst
      exact .inl ⟨rfl, .dropBind _ (selfDelimiting_stringBody.bind fun _ =>
        selfDelimiting_pure _)⟩
  · next isFirst =>
      cases isFirst
      exact .inl ⟨rfl, selfDelimitingAt_enterBind _ _
        ((selfDelimiting_elements delimited true).bind fun _ => selfDelimiting_pure _)⟩
  · next isFirst =>
      cases isFirst
      exact .inl ⟨rfl, selfDelimitingAt_enterBind _ _
        ((selfDelimiting_members delimitedMember true []).bind fun _ => selfDelimiting_pure _)⟩
  · next isFirst =>
      cases isFirst
      split
      · exact .inr rfl
      · next noNumber =>
        exact .inl ⟨Bool.eq_false_iff.mpr noNumber, (selfDelimiting_fail _).at _⟩

/-- A value is delimited at every level. -/
theorem delimited_value (levels : Nat) : (value levels).Delimited := by
  induction levels with
  | zero => exact (selfDelimiting_fail _).delimited
  | succ levels inductionHypothesis =>
      obtain ⟨next, same, atEnd, branches⟩ := value_branches inductionHypothesis
      rw [same]
      refine delimited_layout atEnd fun octet => ?_
      rcases branches octet with ⟨_, self⟩ | isNumber
      · exact self.delimitedAt
      · rw [isNumber]
        exact (delimited_number.bind fun _ => (selfDelimiting_pure _).delimited).at _

/-- A value of another kind than expected is always refused. -/
theorem mismatch_ne_ok (expected : String) (input : Bytes) (result : α × Bytes) :
    (mismatch expected : Reader α) input ≠ .ok result := by
  intro read
  obtain ⟨next, _, _, read⟩ := bind_eq_ok.mp read
  split at read
  · simp at read
  · simp at read
  · obtain ⟨_, _, _, read⟩ := bind_eq_ok.mp read
    simp at read

theorem selfDelimiting_mismatch (expected : String) :
    SelfDelimiting (mismatch expected : Reader α) :=
  ⟨fun read => absurd read (mismatch_ne_ok _ _ _),
    fun read => absurd read (mismatch_ne_ok _ _ _)⟩

theorem delimited_natural : natural.Delimited := by
  refine delimited_layout (by simp) fun octet => ?_
  split
  · next none => cases none
  · split
    · refine (delimited_number.bind fun read => ?_).at _
      split
      · exact (selfDelimiting_pure _).delimited
      · exact (selfDelimiting_fail _).delimited
      · exact (selfDelimiting_fail _).delimited
    · exact ((selfDelimiting_mismatch _).at _).delimitedAt

theorem selfDelimiting_string (expected : String) : (string expected).SelfDelimiting := by
  refine selfDelimiting_layout (by simp) fun octet => ?_
  split
  · next none => cases none
  · exact .dropBind _ selfDelimiting_stringBody
  · exact (selfDelimiting_mismatch _).at _

theorem selfDelimiting_object
    (levels : Nat)
    (expected : String)
    {member : σ -> String -> Reader σ}
    (delimited : ∀ state key, (member state key).Delimited)
    (initial : σ) :
    (object levels expected member initial).SelfDelimiting := by
  refine selfDelimiting_layout (by simp) fun octet => ?_
  split
  · next none => cases none
  · exact selfDelimitingAt_enterBind _ _ (selfDelimiting_members delimited true initial)
  · exact (selfDelimiting_mismatch _).at _

/-- What holds at first and is kept by each member of an object holds behind it. -/
theorem object_keep
    {member : σ -> String -> Reader σ} {holds : σ -> Prop}
    (keeps : ∀ {state key input next rest}, member state key input = .ok (next, rest) ->
      holds state -> holds next)
    {levels : Nat} {expected : String} {input rest : Bytes} {initial final : σ}
    (read : object levels expected member initial input = .ok (final, rest))
    (atFirst : holds initial) :
    holds final := by
  obtain ⟨_, _, _, read⟩ := bind_eq_ok.mp read
  obtain ⟨_, _, _, read⟩ := bind_eq_ok.mp read
  split at read
  · simp at read
  · obtain ⟨_, _, _, read⟩ := bind_eq_ok.mp read
    obtain ⟨_, _, _, read⟩ := bind_eq_ok.mp read
    exact members_keep keeps read atFirst
  · exact absurd read (mismatch_ne_ok _ _ _)

end Reader

/-- A document is a value that only layout follows. -/
theorem document_eq_ok {reader : Reader α} {input : Bytes} {value : α} :
    document reader input = .ok value ↔
      ∃ rest, reader input = .ok (value, rest) ∧ rest.dropWhile isLayout = [] := by
  refine Reader.except_bind_eq_ok.trans ?_
  constructor
  · rintro ⟨⟨first, rest⟩, read, onlyLayout⟩
    cases behind : rest.dropWhile isLayout with
    | nil =>
        simp only [behind] at onlyLayout
        cases onlyLayout
        exact ⟨rest, read, behind⟩
    | cons octet others =>
        simp only [behind] at onlyLayout
        cases onlyLayout
  · rintro ⟨rest, read, onlyLayout⟩
    refine ⟨(value, rest), read, ?_⟩
    simp only [onlyLayout]
    rfl

/-- What can be read from the beginning of an input as a whole document is what
is read from all of it, if that is a document too. -/
theorem document_of_cut
    {reader : Reader α}
    (self : reader.SelfDelimiting)
    {input more : Bytes} {value whole : α}
    (read : document reader input = .ok value)
    (readWhole : document reader (input ++ more) = .ok whole) :
    whole = value := by
  obtain ⟨rest, isValue, _⟩ := document_eq_ok.mp read
  obtain ⟨restOfWhole, isWhole, _⟩ := document_eq_ok.mp readWhole
  rw [self.prolongs isValue more] at isWhole
  cases isWhole
  rfl

end Json
end BlockFeed
