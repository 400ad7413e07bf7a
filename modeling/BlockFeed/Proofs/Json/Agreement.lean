import BlockFeed.Proofs.Json.RoundTrip

/-!
# Typed places hold values

Whatever is read where a number, a string or an object of some type is expected could have been
read as a value just as well. It ends at the same place, and an object is the same member by
member. So what a typed document was read from is known as a value.
-/

namespace BlockFeed
namespace Json
namespace Reader

/-- Where one reader of members has read an object, another one that agrees with it on each
member has read it too. -/
theorem members_agree
    {member : σ -> String -> Reader σ} {other : τ -> String -> Reader τ} {Agrees : σ -> τ -> Prop}
    (agree : ∀ {state known key input next rest}, member state key input = .ok (next, rest) ->
      Agrees state known -> ∃ met, other known key input = .ok (met, rest) ∧ Agrees next met)
    {steps : Nat} {first : Bool} {input rest : Bytes} {initial final : σ} {known : τ}
    (read : members member steps first initial input = .ok (final, rest))
    (atFirst : Agrees initial known) :
    ∃ met, members other steps first known input = .ok (met, rest) ∧ Agrees final met := by
  induction steps generalizing first input initial known with
  | zero => simp [members] at read
  | succ steps inductionHypothesis =>
      obtain ⟨key?, behindKey, readKey, read⟩ := bind_eq_ok.mp read
      cases key? with
      | none =>
          cases read
          exact ⟨known, bind_eq_ok.mpr ⟨none, _, readKey, rfl⟩, atFirst⟩
      | some key =>
          obtain ⟨next, behindMember, readMember, readOthers⟩ := bind_eq_ok.mp read
          obtain ⟨met, isMet, agrees⟩ := agree readMember atFirst
          obtain ⟨all, areMet, agreesAll⟩ := inductionHypothesis readOthers agrees
          exact ⟨all, bind_eq_ok.mpr ⟨some key, _, readKey, bind_eq_ok.mpr ⟨met, _, isMet, areMet⟩⟩,
            agreesAll⟩

/-- A value that is read behind a colon is put in its place. -/
theorem insertMember_eq_ok
    {levels : Nat} {input middle rest : Bytes} {held : Value}
    (behindColon : colon input = .ok ((), middle))
    (isRead : value levels middle = .ok (held, rest))
    (known : Members)
    (key : String) :
    insertMember levels known key input = .ok (known.insert key held, rest) :=
  bind_eq_ok.mpr ⟨_, _, behindColon, bind_eq_ok.mpr ⟨_, _, isRead, rfl⟩⟩

/-- An object of some type is an object with the members that were met. -/
theorem value_of_object
    {member : σ -> String -> Reader σ} {levels : Nat} {Agrees : σ -> Members -> Prop}
    (agree : ∀ {state known key input next rest}, member state key input = .ok (next, rest) ->
      Agrees state known ->
      ∃ met, insertMember levels known key input = .ok (met, rest) ∧ Agrees next met)
    {expected : String} {input rest : Bytes} {initial final : σ}
    (read : object (levels + 1) expected member initial input = .ok (final, rest))
    (atFirst : Agrees initial []) :
    ∃ known, value (levels + 1) input = .ok (.object known, rest) ∧ Agrees final known := by
  obtain ⟨_, behindLayout, isLayout, read⟩ := bind_eq_ok.mp read
  obtain ⟨_, _, isPeeked, read⟩ := bind_eq_ok.mp read
  split at read
  · simp at read
  · obtain ⟨_, _, isEntered, read⟩ := bind_eq_ok.mp read
    obtain ⟨_, _, isBound, read⟩ := bind_eq_ok.mp read
    obtain ⟨known, areMet, agrees⟩ := members_agree agree read atFirst
    refine ⟨known, ?_, agrees⟩
    exact bind_eq_ok.mpr ⟨_, _, isLayout, bind_eq_ok.mpr ⟨_, _, isPeeked,
      bind_eq_ok.mpr ⟨_, _, isEntered, bind_eq_ok.mpr ⟨_, _, isBound,
        bind_eq_ok.mpr ⟨_, _, areMet, rfl⟩⟩⟩⟩⟩
  · exact absurd read (mismatch_ne_ok _ _ _)

/-- A number of 64 bits is a number. -/
theorem value_of_natural
    {input rest : Bytes} {number : UInt64}
    (read : natural input = .ok (number, rest))
    (levels : Nat) :
    value (levels + 1) input = .ok (.number (.natural number), rest) := by
  obtain ⟨_, _, isLayout, read⟩ := bind_eq_ok.mp read
  obtain ⟨_, behindLayout, isPeeked, read⟩ := bind_eq_ok.mp read
  have isNumber : Reader.number behindLayout = .ok (.natural number, rest) := by
    split at read
    · simp at read
    · split at read
      · obtain ⟨found, _, isFound, read⟩ := bind_eq_ok.mp read
        split at read
        · cases read
          exact isFound
        · simp at read
        · simp at read
      · exact absurd read (mismatch_ne_ok _ _ _)
  have isValue := value_number isNumber levels
  cases isLayout
  cases isPeeked
  rwa [value_dropWhile] at isValue

/-- A string of some meaning is a string. -/
theorem value_of_string
    {expected text : String} {input rest : Bytes}
    (read : string expected input = .ok (text, rest))
    (levels : Nat) :
    value (levels + 1) input = .ok (.string text, rest) := by
  obtain ⟨_, _, isLayout, read⟩ := bind_eq_ok.mp read
  obtain ⟨_, _, isPeeked, read⟩ := bind_eq_ok.mp read
  split at read
  · simp at read
  · obtain ⟨_, _, isDropped, read⟩ := bind_eq_ok.mp read
    exact bind_eq_ok.mpr ⟨_, _, isLayout, bind_eq_ok.mpr ⟨_, _, isPeeked,
      bind_eq_ok.mpr ⟨_, _, isDropped, bind_eq_ok.mpr ⟨_, _, read, rfl⟩⟩⟩⟩
  · exact absurd read (mismatch_ne_ok _ _ _)

end Reader
end Json
end BlockFeed
