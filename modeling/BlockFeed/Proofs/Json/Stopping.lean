import BlockFeed.Proofs.Json.Values

/-!
# What ends a value

A number goes on as long as the input allows, so that it ends where the input ends. A comma
or a closing bracket ends it just as well. So whatever is read from a text by itself is also
read from it where it stands in an array or object.
-/

namespace BlockFeed
namespace Json
namespace Reader

/-- An octet that may follow a value in an array or object. -/
def EndsValue (octet : UInt8) : Prop :=
  octet = 0x2c ∨ octet = 0x5d ∨ octet = 0x7d

/-- A reader that goes no further before an octet that may follow a value. -/
def Stops (reader : Reader α) : Prop :=
  ∀ {input value rest}, reader input = .ok (value, rest) ->
    ∀ {octet}, EndsValue octet -> ∀ more,
      reader (input ++ octet :: more) = .ok (value, rest ++ octet :: more)

theorem SelfDelimiting.stops {reader : Reader α} (self : reader.SelfDelimiting) :
    reader.Stops :=
  fun read _ _ more => self.prolongs read (_ :: more)

theorem Stops.bind
    {first : Reader α} {next : α -> Reader β}
    (stopsFirst : first.Stops)
    (stopsNext : ∀ value, (next value).Stops) :
    (first >>= next).Stops := by
  intro input value rest read octet ends more
  obtain ⟨middleValue, middle, readFirst, readNext⟩ := bind_eq_ok.mp read
  exact bind_eq_ok.mpr ⟨middleValue, middle ++ octet :: more, stopsFirst readFirst ends more,
    stopsNext middleValue readNext ends more⟩

theorem stops_skipLayout : skipLayout.Stops := by
  intro input value rest read octet ends more
  cases read
  have noLayout : isLayout octet = false := by rcases ends with rfl | rfl | rfl <;> decide
  have sameEnd : (input ++ octet :: more).dropWhile isLayout =
      input.dropWhile isLayout ++ octet :: more := by
    rw [List.dropWhile_append]
    split
    · next empty =>
        rw [List.isEmpty_iff.mp empty, List.dropWhile_cons, noLayout, List.nil_append,
          if_neg Bool.false_ne_true]
    · rfl
  rw [skipLayout, sameEnd]

/-! ## Numbers -/

section number

variable {octet : UInt8}

theorem EndsValue.digit? (ends : EndsValue octet) : Json.digit? octet = none := by
  rcases ends with rfl | rfl | rfl <;> decide

/-- Digits end before an octet that is none. -/
theorem spanDigits_stops
    (ends : EndsValue octet)
    (input more : Bytes) :
    spanDigits (input ++ octet :: more) =
      ((spanDigits input).1, (spanDigits input).2 ++ octet :: more) := by
  induction input with
  | nil => simp [spanDigits, ends.digit?]
  | cons first input inductionHypothesis =>
      rw [List.cons_append, spanDigits, spanDigits]
      cases digit : Json.digit? first with
      | none => rfl
      | some value => rw [inductionHypothesis]

theorem stops_someDigits : someDigits.Stops := by
  intro input value rest read octet ends more
  have span := spanDigits_stops ends input more
  unfold someDigits at read ⊢
  rw [span]
  split at read
  · cases read
  · next notEmpty same =>
      cases read
      rw [same]
      split
      · simp_all
      · next others =>
          cases others
          rfl

theorem stops_readWhole : Stops (Numeral.readWhole : Reader (List Nat)) := by
  rw [readWhole_eq]
  refine stops_someDigits.bind fun digits => ?_
  unfold withoutLeadingZero
  split
  · exact (selfDelimiting_fail _).stops
  · exact (selfDelimiting_pure _).stops

theorem stops_readFraction : Stops (Numeral.readFraction? : Reader (Option (List Nat))) := by
  have behindPoint : fraction.Stops :=
    stops_someDigits.bind fun digits => (selfDelimiting_pure _).stops
  intro input value rest read octet ends more
  cases input with
  | nil =>
      cases read
      refine readFraction_other ?_ more
      rcases ends with rfl | rfl | rfl <;> decide
  | cons first input =>
      by_cases isPoint : first = 0x2e
      · subst isPoint
        rw [readFraction_point] at read
        rw [List.cons_append, readFraction_point]
        exact behindPoint read ends more
      · rw [readFraction_other isPoint] at read
        cases read
        exact readFraction_other isPoint _

theorem stops_sign : sign.Stops := by
  intro input value rest read octet ends more
  cases input with
  | nil =>
      cases read
      refine sign_other ?_ ?_ more
      all_goals rcases ends with rfl | rfl | rfl <;> decide
  | cons first input =>
      by_cases isPlus : first = 0x2b
      · subst isPlus
        cases read
        rfl
      · by_cases isMinus : first = 0x2d
        · subst isMinus
          cases read
          rfl
        · rw [sign_other isPlus isMinus] at read
          cases read
          exact sign_other isPlus isMinus _

theorem stops_readExponent : Stops (Numeral.readExponent : Reader (Bool × List Nat)) := by
  rw [readExponent_eq]
  refine stops_sign.bind fun negative => ?_
  exact stops_someDigits.bind fun digits => (selfDelimiting_pure _).stops

theorem stops_readExponent? :
    Stops (Numeral.readExponent? : Reader (Option (Bool × List Nat))) := by
  have behindLetter : exponent.Stops :=
    stops_readExponent.bind fun exponent => (selfDelimiting_pure _).stops
  intro input value rest read octet ends more
  cases input with
  | nil =>
      cases read
      refine readExponent?_other ?_ more
      rcases ends with rfl | rfl | rfl <;> decide
  | cons first input =>
      cases isLetter : first == 0x65 || first == 0x45 with
      | true =>
          rw [readExponent?_letter isLetter] at read
          rw [List.cons_append, readExponent?_letter isLetter]
          exact behindLetter read ends more
      | false =>
          rw [readExponent?_other isLetter] at read
          cases read
          exact readExponent?_other isLetter _

theorem stops_readUnsigned (negative : Bool) :
    Stops (Numeral.readUnsigned negative : Reader Numeral) := by
  rw [readUnsigned_eq]
  refine stops_readWhole.bind fun whole => ?_
  refine stops_readFraction.bind fun fraction => ?_
  exact stops_readExponent?.bind fun exponent => (selfDelimiting_pure _).stops

theorem stops_readNumeral : Stops (Numeral.read : Reader Numeral) := by
  intro input value rest read octet ends more
  cases input with
  | nil => cases read
  | cons first input =>
      by_cases isMinus : first = 0x2d
      · subst isMinus
        exact stops_readUnsigned true read ends more
      · rw [read_other isMinus] at read
        rw [List.cons_append, read_other isMinus]
        exact stops_readUnsigned false read ends more

theorem stops_number : number.Stops := by
  rw [number_eq]
  exact stops_readNumeral.bind fun numeral => (selfDelimiting_lift _).stops

end number

/-! ## Values -/

/-- A choice by the first octet behind layout stops if every branch does and the end of the
input is not among them. -/
theorem stops_layout
    {next : Option UInt8 -> Reader α}
    (atEnd : ∀ result, next none [] ≠ .ok result)
    (atOctet : ∀ octet, (next (some octet)).SelfDelimitingAt octet ∨
      (next (some octet)).Stops) :
    (skipLayout >>= fun _ => peek >>= next).Stops := by
  refine stops_skipLayout.bind fun _ => ?_
  intro input value rest read octet ends more
  cases input with
  | nil => exact absurd read (atEnd _)
  | cons first input =>
      rcases atOctet first with self | stops
      · exact self.prolongs read (octet :: more)
      · exact stops read ends more

/-- A value that is read from a text by itself is read from it in an array or object too. -/
theorem stops_value (levels : Nat) : (value levels).Stops := by
  cases levels with
  | zero => exact (selfDelimiting_fail _).stops
  | succ levels =>
      obtain ⟨next, same, atEnd, branches⟩ := value_branches (delimited_value levels)
      rw [same]
      refine stops_layout atEnd fun octet => ?_
      rcases branches octet with ⟨_, self⟩ | isNumber
      · exact .inl self
      · rw [isNumber]
        exact .inr (stops_number.bind fun _ => (selfDelimiting_pure _).stops)

theorem stops_natural : natural.Stops := by
  refine stops_layout (by simp) fun octet => ?_
  split
  · next none => cases none
  · split
    · refine .inr (stops_number.bind fun read => ?_)
      split
      · exact (selfDelimiting_pure _).stops
      · exact (selfDelimiting_fail _).stops
      · exact (selfDelimiting_fail _).stops
    · exact .inl ((selfDelimiting_mismatch _).at _)

end Reader
end Json
end BlockFeed
