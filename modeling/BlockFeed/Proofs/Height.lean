import BlockFeed.Height
import Mathlib.Data.List.DropRight

/-!
# Texts of heights

White space around a numeral does not count, and a numeral is one or more digits behind an
optional plus sign, with as many leading zeros as there may be. A text is read as a height
exactly if it is such a numeral for a number of 64 bits; whatever else it is, it is reported
as it came.
-/

namespace BlockFeed
namespace Text

/-- A text without the white space at its ends lies between white space. -/
theorem exists_eq_append_trimWhiteSpace (characters : List Char) :
    ∃ before after, characters = before ++ trimWhiteSpace characters ++ after ∧
      (∀ character ∈ before, isWhiteSpace character = true) ∧
      ∀ character ∈ after, isWhiteSpace character = true := by
  let rest := characters.dropWhile isWhiteSpace
  refine ⟨characters.takeWhile isWhiteSpace, rest.rtakeWhile isWhiteSpace, ?_,
    fun _ => List.mem_takeWhile_imp, fun _ => List.mem_rtakeWhile_imp⟩
  have atEnd : trimWhiteSpace characters ++ rest.rtakeWhile isWhiteSpace = rest :=
    List.rdropWhile_append_rtakeWhile
  rw [List.append_assoc, atEnd, List.takeWhile_append_dropWhile]

/-- Where there is no white space, none is dropped. -/
theorem dropWhile_isWhiteSpace
    {characters : List Char}
    (visible : ∀ character ∈ characters, isWhiteSpace character = false) :
    characters.dropWhile isWhiteSpace = characters := by
  refine List.dropWhile_eq_self_iff.mpr fun nonempty => ?_
  rw [visible _ (List.getElem_mem nonempty)]
  exact Bool.false_ne_true

/-- What is left of characters between white space is the characters. -/
theorem trimWhiteSpace_append
    {before core after : List Char}
    (blankBefore : ∀ character ∈ before, isWhiteSpace character = true)
    (nonempty : core ≠ [])
    (visible : ∀ character ∈ core, isWhiteSpace character = false)
    (blankAfter : ∀ character ∈ after, isWhiteSpace character = true) :
    trimWhiteSpace (before ++ core ++ after) = core := by
  have start : (before ++ core ++ after).dropWhile isWhiteSpace = core ++ after := by
    rw [List.append_assoc, List.dropWhile_append_of_pos blankBefore, List.dropWhile_append,
      dropWhile_isWhiteSpace visible, if_neg (by simpa using nonempty)]
  have backwards : (core ++ after).reverse.dropWhile isWhiteSpace = core.reverse := by
    rw [List.reverse_append, List.dropWhile_append_of_pos (by simpa using blankAfter),
      dropWhile_isWhiteSpace (by simpa using visible)]
  rw [trimWhiteSpace, start, backwards, List.reverse_reverse]

end Text

namespace Height

/-! ## Numerals -/

/-- Digits behind an optional plus sign stand for a number. -/
def IsNumeral (characters : List Char) (value : Nat) : Prop :=
  ∃ sign digits, characters = sign ++ digits ∧ (sign = [] ∨ sign = ['+']) ∧ digits ≠ [] ∧
    (∀ digit ∈ digits, digit.isDigit = true) ∧ Nat.ofDigitChars 10 digits 0 = value

theorem digit?_eq (character : Char) :
    digit? character =
      if character.isDigit then some (character.toNat - '0'.toNat) else none :=
  rfl

/-- Behind a number already read, digits are read and nothing else is. -/
theorem natFrom?_eq_some_iff {value result : Nat} {characters : List Char} :
    natFrom? value characters = some result ↔
      (∀ character ∈ characters, character.isDigit = true) ∧
        Nat.ofDigitChars 10 characters value = result := by
  induction characters generalizing value with
  | nil => simp [natFrom?, Nat.ofDigitChars]
  | cons character rest inductionHypothesis =>
      rw [natFrom?, digit?_eq, List.forall_mem_cons, Nat.ofDigitChars_cons, Nat.mul_comm 10]
      by_cases isDigit : character.isDigit = true
      · simp only [isDigit, if_true, true_and, inductionHypothesis]
      · simp [isDigit]

theorem nat?_eq_some_iff {value : Nat} {characters : List Char} :
    nat? characters = some value ↔
      characters ≠ [] ∧ (∀ character ∈ characters, character.isDigit = true) ∧
        Nat.ofDigitChars 10 characters 0 = value := by
  cases characters with
  | nil => simp [nat?]
  | cons character rest =>
      rw [and_iff_right (List.cons_ne_nil character rest)]
      exact natFrom?_eq_some_iff

/-- Numerals are read as the number that they stand for, and nothing else is read. -/
theorem signed?_eq_some_iff {value : Nat} {characters : List Char} :
    signed? characters = some value ↔ IsNumeral characters value := by
  constructor
  · intro read
    unfold signed? at read
    split at read
    · next digits => exact ⟨['+'], digits, rfl, .inr rfl, nat?_eq_some_iff.mp read⟩
    · exact ⟨[], characters, rfl, .inl rfl, nat?_eq_some_iff.mp read⟩
  · rintro ⟨sign, digits, rfl, rfl | rfl, numeral⟩
    · rw [List.nil_append]
      unfold signed?
      split
      · next rest =>
          -- A numeral without a sign begins with a digit, so this branch is not taken.
          exact absurd (numeral.2.1 '+' (List.mem_cons_self ..)) (by decide)
      · exact nat?_eq_some_iff.mpr numeral
    · exact nat?_eq_some_iff.mpr numeral

/-- A numeral holds no white space. -/
theorem IsNumeral.visible {characters : List Char} {value : Nat}
    (numeral : IsNumeral characters value) :
    ∀ character ∈ characters, Text.isWhiteSpace character = false := by
  obtain ⟨sign, digits, rfl, isSign, _, areDigits, _⟩ := numeral
  intro character mem
  rcases List.mem_append.mp mem with inSign | inDigits
  · rcases isSign with rfl | rfl
    · cases inSign
    · rw [List.mem_singleton.mp inSign]
      decide
  · have all : ∀ code ≤ 57, 48 ≤ code -> Text.isWhiteSpace (Char.ofNat code) = false := by
      decide
    obtain ⟨least, most⟩ := Char.isDigit_iff_toNat.mp (areDigits character inDigits)
    rw [← Char.ofNat_toNat character]
    exact all _ most least

theorem IsNumeral.ne_nil {characters : List Char} {value : Nat}
    (numeral : IsNumeral characters value) :
    characters ≠ [] := by
  obtain ⟨sign, digits, rfl, _, nonempty, _⟩ := numeral
  exact List.append_ne_nil_of_right_ne_nil sign nonempty

/-! ## Heights -/

/-- A text stands for a number if it is a numeral for it between white space. -/
def StandsFor (text : String) (value : Nat) : Prop :=
  ∃ before numeral after, text.toList = before ++ numeral ++ after ∧
    (∀ character ∈ before, Text.isWhiteSpace character = true) ∧
    (∀ character ∈ after, Text.isWhiteSpace character = true) ∧ IsNumeral numeral value

theorem signed?_trim_eq_some_iff {text : String} {value : Nat} :
    signed? (Text.trimWhiteSpace text.toList) = some value ↔ StandsFor text value := by
  constructor
  · intro read
    obtain ⟨before, after, split, blankBefore, blankAfter⟩ :=
      Text.exists_eq_append_trimWhiteSpace text.toList
    exact ⟨before, _, after, split, blankBefore, blankAfter, signed?_eq_some_iff.mp read⟩
  · rintro ⟨before, core, after, split, blankBefore, blankAfter, numeral⟩
    rw [split, Text.trimWhiteSpace_append blankBefore numeral.ne_nil numeral.visible blankAfter]
    exact signed?_eq_some_iff.mpr numeral

/-- A text stands for one number at most. -/
theorem StandsFor.unique {text : String} {value other : Nat}
    (stands : StandsFor text value)
    (standsToo : StandsFor text other) :
    value = other :=
  Option.some.inj ((signed?_trim_eq_some_iff.mpr stands).symm.trans
    (signed?_trim_eq_some_iff.mpr standsToo))

/-- The decimal digits of a number stand for it. -/
theorem standsFor_toString (value : Nat) : StandsFor (toString value) value := by
  refine ⟨[], Nat.toDigits 10 value, [], ?_, by simp, by simp, [], Nat.toDigits 10 value, rfl,
    .inl rfl, Nat.toDigits_ne_nil, ?_, Nat.ofDigitChars_ten_toDigits⟩
  · rw [Nat.toString_eq_ofList_toDigits, String.toList_ofList, List.append_nil, List.nil_append]
  · exact fun digit mem => Nat.isDigit_of_mem_toDigits (by decide) (by decide) mem

/-- A number is read if 64 bits hold it. -/
theorem number?_eq_some_iff {characters : List Char} {height : UInt64} :
    number? characters = some height ↔ signed? characters = some height.toNat := by
  rw [number?]
  cases read : signed? characters with
  | none => simp
  | some value =>
      simp only [Option.some_inj]
      constructor
      · intro isHeight
        split at isHeight
        · next fits =>
            rw [← Option.some.inj isHeight]
            exact (UInt64.toNat_ofNat_of_lt' fits).symm
        · cases isHeight
      · -- Conversely the number of a height is small enough already.
        rintro rfl
        rw [if_pos height.toNat_lt]
        exact congrArg some UInt64.ofNat_toNat

/-- Exactly the texts that stand for a number of 64 bits are read. -/
theorem parse_eq_ok_iff {body : String} {height : UInt64} :
    parse body = .ok height ↔ StandsFor body height.toNat := by
  rw [← signed?_trim_eq_some_iff, ← number?_eq_some_iff, parse]
  cases number? (Text.trimWhiteSpace body.toList) <;> simp

/-- A text that is not read is reported as it came. -/
theorem parse_eq_error_iff {body : String} {fault : Fault} :
    parse body = .error fault ↔
      fault = .invalidHeight body ∧ number? (Text.trimWhiteSpace body.toList) = none := by
  rw [parse]
  cases number? (Text.trimWhiteSpace body.toList) with
  | some height => simp
  | none => simp [eq_comm]

/-- A text that stands for no number of 64 bits is not read. -/
theorem number?_eq_none_iff {body : String} :
    number? (Text.trimWhiteSpace body.toList) = none ↔
      ∀ value < UInt64.size, ¬StandsFor body value := by
  simp only [Option.eq_none_iff_forall_ne_some, ne_eq, number?_eq_some_iff,
    signed?_trim_eq_some_iff]
  constructor
  · intro none value fits stands
    refine none (UInt64.ofNat value) ?_
    rwa [UInt64.toNat_ofNat_of_lt' fits]
  · exact fun none height => none height.toNat height.toNat_lt

/-- A text is read as a height exactly if it is an optional plus sign and one or more digits,
between white space, for a number of 64 bits, and it is read as that number; so the digits of
every height are read back. Every other text is reported as it came, also one for a number
that is too large. -/
theorem heights_are_read_exactly (body : String) :
    (∀ height, parse body = .ok height ↔ StandsFor body height.toNat) ∧
      (∀ fault, parse body = .error fault ↔
        fault = .invalidHeight body ∧ ∀ value < UInt64.size, ¬StandsFor body value) ∧
      (∀ value, UInt64.size ≤ value -> StandsFor body value ->
        parse body = .error (.invalidHeight body)) ∧
      ∀ height : UInt64, parse (toString height) = .ok height := by
  refine ⟨fun height => parse_eq_ok_iff, fun fault => ?_, ?_,
    fun height => parse_eq_ok_iff.mpr (standsFor_toString height.toNat)⟩
  · rw [parse_eq_error_iff, number?_eq_none_iff]
  · intro value large stands
    refine parse_eq_error_iff.mpr ⟨rfl, number?_eq_none_iff.mpr fun other fits standsToo => ?_⟩
    rw [stands.unique standsToo] at large
    exact Nat.not_lt.mpr large fits

/-- The least number that is too large, with a sign and leading zeros. -/
theorem heights_are_read_exactly_beyond_range :
    StandsFor " +0018446744073709551616\n" 18446744073709551616 ∧
      parse " +0018446744073709551616\n" =
        .error (.invalidHeight " +0018446744073709551616\n") := by
  have stands : StandsFor " +0018446744073709551616\n" 18446744073709551616 :=
    ⟨[' '], "+0018446744073709551616".toList, ['\n'], by decide +kernel,
      List.forall_mem_singleton.mpr rfl, List.forall_mem_singleton.mpr rfl,
      ['+'], "0018446744073709551616".toList, by decide +kernel, .inr rfl, by decide +kernel,
      List.all_eq_true.mp (by decide +kernel), by decide +kernel⟩
  exact ⟨stands, (heights_are_read_exactly _).2.2.1 _ (by decide) stands⟩

end Height
end BlockFeed
