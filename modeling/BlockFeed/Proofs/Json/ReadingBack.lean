import BlockFeed.Proofs.Json.Stopping
import BlockFeed.Proofs.Json.Writing

/-!
# Reading back what was written

A string is read back from its quoted text, whatever its characters are: those that are not
written as they are have an escape that is read as the same character. An integer of 64 bits
is read back from its digits.
-/

namespace BlockFeed
namespace Json

/-! ## Strings -/

/-- The octets of a string between its quotes. -/
def escaped (characters : List Char) : Bytes :=
  characters.flatMap fun character => Bytes.ofString (escapedChar character)

theorem ofString_renderString (text : String) :
    Bytes.ofString (renderString text) = 0x22 :: (escaped text.toList ++ [0x22]) := by
  have quote : Bytes.ofString "\"" = [0x22] := by decide
  have inside : Bytes.ofString (String.join (text.toList.map escapedChar)) =
      escaped text.toList := by
    simp [Bytes.ofString, Bytes.ofChars, escaped, String.toList_join, List.flatMap_map,
      List.flatMap_assoc]
  rw [renderString, Bytes.ofString_append, Bytes.ofString_append, inside, quote]
  rfl

namespace Reader

/-- The escape of a control character that has no letter is read back. -/
theorem escape_of_control {code : Nat} (control : code < 0x20) :
    escape (Bytes.ofString
      ("u00" ++ Text.hexadecimal (code / 16) ++ Text.hexadecimal (code % 16))) =
      .ok (Char.ofNat code, []) := by
  have all : ∀ code < 0x20, (escape (Bytes.ofString
      ("u00" ++ Text.hexadecimal (code / 16) ++ Text.hexadecimal (code % 16)))).toOption =
      some (Char.ofNat code, []) := by
    decide +kernel
  have isRead := all code control
  cases read : escape (Bytes.ofString
      ("u00" ++ Text.hexadecimal (code / 16) ++ Text.hexadecimal (code % 16))) with
  | error problem =>
      rw [read] at isRead
      cases isRead
  | ok result =>
      rw [read] at isRead
      rw [Option.some.inj isRead]

/-- A character is written as it is, or as an escape that is read back. -/
theorem escapedChar_cases (character : Char) :
    (escapedChar character = character.toString ∧ 0x20 ≤ character.toNat ∧
      character ≠ '"' ∧ character ≠ '\\') ∨
    ∃ code, escapedChar character = "\\" ++ code ∧
      escape (Bytes.ofString code) = .ok (character, []) := by
  unfold escapedChar
  split
  case h_8 notQuote notBackslash _ _ _ _ _ =>
    dsimp only
    split
    · next control =>
        refine .inr ⟨"u00" ++ _ ++ _, ?_, (escape_of_control control).trans ?_⟩
        · have split : "\\u00" = "\\" ++ "u00" := rfl
          rw [split]
          simp only [String.append_assoc]
        · rw [Char.ofNat_toNat]
    · next visible => exact .inl ⟨rfl, Nat.le_of_not_lt visible, notQuote, notBackslash⟩
  case h_1 => exact .inr ⟨"\"", rfl, rfl⟩
  case h_2 => exact .inr ⟨"\\", rfl, rfl⟩
  case h_3 => exact .inr ⟨"b", rfl, rfl⟩
  case h_4 => exact .inr ⟨"f", rfl, rfl⟩
  case h_5 => exact .inr ⟨"n", rfl, rfl⟩
  case h_6 => exact .inr ⟨"r", rfl, rfl⟩
  case h_7 => exact .inr ⟨"t", rfl, rfl⟩

/-- An octet that stands for itself in a string. -/
def IsPlain (octet : UInt8) : Prop :=
  octet ≠ 0x22 ∧ octet ≠ 0x5c ∧ ¬octet < 0x20

/-- A character that is written as it is has octets that stand for themselves. -/
theorem isPlain_of_mem
    {character : Char}
    (visible : 0x20 ≤ character.toNat)
    (notQuote : character ≠ '"')
    (notBackslash : character ≠ '\\')
    {octet : UInt8}
    (mem : octet ∈ String.utf8EncodeChar character) :
    IsPlain octet := by
  have isChar : octet.toNat < 0x80 -> character = Char.ofNat octet.toNat := by
    intro ascii
    rw [← Bytes.toNat_of_mem_utf8EncodeChar mem ascii, Char.ofNat_toNat]
  refine ⟨?_, ?_, fun control => ?_⟩
  · rintro rfl
    exact notQuote (isChar (by decide))
  · rintro rfl
    exact notBackslash (isChar (by decide))
  · have small : octet.toNat < 0x20 := UInt8.lt_iff_toNat_lt.mp control
    rw [Bytes.toNat_of_mem_utf8EncodeChar mem (Nat.lt_trans small (by decide))] at visible
    exact Nat.not_lt.mpr visible small

/-- Octets that stand for themselves are read as they are. -/
theorem stringOctets_plain
    {steps : Nat} {octets rest value remaining : Bytes}
    (plain : ∀ octet ∈ octets, IsPlain octet)
    (read : stringOctets steps rest = .ok (value, remaining)) :
    stringOctets (octets.length + steps) (octets ++ rest) = .ok (octets ++ value, remaining) := by
  induction octets with
  | nil => simpa using read
  | cons octet octets inductionHypothesis =>
      obtain ⟨notQuote, notEscape, notControl⟩ := plain octet (List.mem_cons_self ..)
      have others := inductionHypothesis fun other mem => plain other (List.mem_cons_of_mem _ mem)
      have more : (octet :: octets).length + steps = octets.length + steps + 1 := by
        rw [List.length_cons]
        omega
      rw [more, List.cons_append, stringOctets, if_neg (by simpa using notQuote),
        if_neg (by simpa using notEscape), if_neg notControl]
      exact except_bind_eq_ok.mpr ⟨_, others, rfl⟩

/-- What is written of a string is read back in as many steps as it has octets. -/
theorem stringOctets_escaped (characters : List Char) :
    stringOctets ((escaped characters).length + 1) (escaped characters ++ [0x22]) =
      .ok (Bytes.ofChars characters, []) := by
  induction characters with
  | nil => rfl
  | cons character rest inductionHypothesis =>
      have cons : escaped (character :: rest) =
          Bytes.ofString (escapedChar character) ++ escaped rest := rfl
      rw [cons, List.append_assoc, List.length_append, Bytes.ofChars_cons]
      rcases escapedChar_cases character with ⟨same, visible, notQuote, notBackslash⟩ | written
      · have octets : Bytes.ofString (escapedChar character) =
            String.utf8EncodeChar character := by
          rw [same]
          simp [Bytes.ofString]
        rw [octets, Nat.add_assoc]
        exact stringOctets_plain (fun _ => isPlain_of_mem visible notQuote notBackslash)
          inductionHypothesis
      · obtain ⟨code, isCode, read⟩ := written
        have octets : Bytes.ofString (escapedChar character) =
            0x5c :: Bytes.ofString code := by
          rw [isCode, Bytes.ofString_append]
          rfl
        have behind := selfDelimiting_escape.prolongs read (escaped rest ++ [0x22])
        have enough : (escaped rest).length + 1 ≤
            (0x5c :: Bytes.ofString code).length + (escaped rest).length := by
          rw [List.length_cons]
          omega
        obtain ⟨-, others⟩ := stringOctets_prolongs inductionHypothesis enough []
        rw [List.append_nil] at others
        rw [octets, List.cons_append, stringOctets, if_neg (by decide), if_pos (by decide)]
        exact except_bind_eq_ok.mpr ⟨_, behind, except_bind_eq_ok.mpr ⟨_, others, rfl⟩⟩

/-- A string is read back behind its opening quote. -/
theorem stringBody_escaped (text : String) :
    stringBody (escaped text.toList ++ [0x22]) = .ok (text, []) := by
  have enough : (escaped text.toList).length + 1 ≤
      (escaped text.toList ++ [0x22]).length + 1 := by
    simp
  obtain ⟨-, read⟩ := stringOctets_prolongs (stringOctets_escaped text.toList) enough []
  rw [List.append_nil] at read
  refine except_bind_eq_ok.mpr ⟨_, read, ?_⟩
  have isText : Bytes.toString? (Bytes.ofChars text.toList) = some text :=
    Bytes.toString?_ofString text
  simp only [isText]
  rfl

/-! ## Numbers -/

/-- The value of a character that is a digit. -/
def digitValue (character : Char) : Nat := character.toNat - '0'.toNat

/-- A digit is one octet. -/
theorem utf8EncodeChar_of_isDigit {character : Char} (isDigit : character.isDigit = true) :
    String.utf8EncodeChar character = [character.toNat.toUInt8] := by
  have most := (Char.isDigit_iff_toNat.mp isDigit).2
  rcases Bytes.utf8EncodeChar_cases character with ⟨_, octets⟩ | ⟨large, _⟩
  · exact octets
  · exact absurd (Nat.le_trans large most) (by decide)

theorem digit?_of_isDigit {character : Char} (isDigit : character.isDigit = true) :
    digit? character.toNat.toUInt8 = some (digitValue character) := by
  obtain ⟨least, most⟩ := Char.isDigit_iff_toNat.mp isDigit
  have all : ∀ code ≤ 57, 48 ≤ code -> digit? code.toUInt8 = some (code - 48) := by decide
  exact all _ most least

/-- Digits are read up to the end of a text that holds nothing else. -/
theorem spanDigits_ofChars
    {characters : List Char}
    (digits : ∀ character ∈ characters, character.isDigit = true) :
    spanDigits (Bytes.ofChars characters) = (characters.map digitValue, []) := by
  induction characters with
  | nil => rfl
  | cons character rest inductionHypothesis =>
      have isDigit := digits character (List.mem_cons_self ..)
      have others := inductionHypothesis fun other mem => digits other (List.mem_cons_of_mem _ mem)
      rw [Bytes.ofChars_cons, utf8EncodeChar_of_isDigit isDigit, List.singleton_append,
        spanDigits, digit?_of_isDigit isDigit, others]
      rfl

/-- Further digits make a number no smaller. -/
theorem le_ofDigitChars (characters : List Char) (significand : Nat) :
    significand ≤ Nat.ofDigitChars 10 characters significand := by
  induction characters generalizing significand with
  | nil => exact Nat.le_refl _
  | cons character rest inductionHypothesis =>
      rw [Nat.ofDigitChars_cons]
      refine Nat.le_trans ?_ (inductionHypothesis _)
      omega

/-- All digits go into a significand that stays within the limit. -/
theorem accumulate_digits
    {limit significand : Nat} {characters : List Char}
    (within : Nat.ofDigitChars 10 characters significand ≤ limit) :
    Numeral.accumulate limit significand (characters.map digitValue) =
      (Nat.ofDigitChars 10 characters significand, characters.length, 0) := by
  induction characters generalizing significand with
  | nil => rfl
  | cons character rest inductionHypothesis =>
      have next : significand * 10 + digitValue character =
          10 * significand + (character.toNat - '0'.toNat) := by
        rw [Nat.mul_comm, digitValue]
      rw [Nat.ofDigitChars_cons, ← next] at within ⊢
      rw [List.map_cons, Numeral.accumulate, if_pos (Nat.le_trans (le_ofDigitChars _ _) within),
        inductionHypothesis within]
      rfl

/-- The digits of a number do not begin with a zero. -/
theorem toDigits_ne_zero_cons {value : Nat} (positive : 0 < value) (rest : List Char) :
    Nat.toDigits 10 value ≠ '0' :: rest := by
  induction value using Nat.strongRecOn generalizing rest with
  | ind value inductionHypothesis =>
      rw [Nat.toDigits_eq_if (by decide)]
      split
      · next single =>
          have all : ∀ digit < 10, 0 < digit -> Nat.digitChar digit ≠ '0' := by decide
          intro same
          exact all value single positive (List.cons.inj same).1
      · next large =>
          intro same
          cases leading : Nat.toDigits 10 (value / 10) with
          | nil => exact Nat.toDigits_ne_nil leading
          | cons first others =>
              rw [leading, List.cons_append] at same
              obtain ⟨rfl, _⟩ := List.cons.inj same
              exact inductionHypothesis (value / 10) (by omega) (by omega) others leading

/-- The digits of a number as they are read. -/
def digitsOf (value : Nat) : List Nat := (Nat.toDigits 10 value).map digitValue

/-- The octets of the digits of a number. -/
theorem ofString_toString (value : Nat) :
    Bytes.ofString (toString value) = Bytes.ofChars (Nat.toDigits 10 value) := by
  rw [Nat.toString_eq_ofList_toDigits, Bytes.ofString, String.toList_ofList]

theorem isDigit_of_mem_toDigits
    {value : Nat} {character : Char}
    (mem : character ∈ Nat.toDigits 10 value) :
    character.isDigit = true :=
  Nat.isDigit_of_mem_toDigits (by decide) (by decide) mem

/-- A number begins with a digit. -/
theorem ofString_toString_cons (value : Nat) :
    ∃ octet rest, Bytes.ofString (toString value) = octet :: rest ∧
      ∃ digit, digit? octet = some digit := by
  rw [ofString_toString]
  cases digits : Nat.toDigits 10 value with
  | nil => exact absurd digits Nat.toDigits_ne_nil
  | cons first others =>
      have isPart : first ∈ Nat.toDigits 10 value := by simp [digits]
      have isDigit := isDigit_of_mem_toDigits isPart
      rw [Bytes.ofChars_cons, utf8EncodeChar_of_isDigit isDigit]
      exact ⟨_, _, rfl, _, digit?_of_isDigit isDigit⟩

theorem readWhole_toString (value : Nat) :
    Numeral.readWhole (Bytes.ofString (toString value)) = .ok (digitsOf value, []) := by
  have areDigits : ∀ character ∈ Nat.toDigits 10 value, character.isDigit = true :=
    fun _ => isDigit_of_mem_toDigits
  rw [ofString_toString, Numeral.readWhole, spanDigits_ofChars areDigits, digitsOf]
  cases digits : Nat.toDigits 10 value with
  | nil => exact absurd digits Nat.toDigits_ne_nil
  | cons first others =>
      cases others with
      | nil => simp
      | cons second others =>
          have notZero : digitValue first ≠ 0 := by
            intro isZero
            have least := (Char.isDigit_iff_toNat.mp (areDigits first (by simp [digits]))).1
            have same : first = '0' :=
              Char.toNat_inj.mp (Nat.le_antisymm (Nat.sub_eq_zero_iff_le.mp isZero) least)
            rcases Nat.eq_zero_or_pos value with rfl | positive
            · simp [Nat.toDigits_zero] at digits
            · exact toDigits_ne_zero_cons positive _ (same ▸ digits)
          simp [notZero]

theorem readUnsigned_toString (negative : Bool) (value : Nat) :
    Numeral.readUnsigned negative (Bytes.ofString (toString value)) =
      .ok (⟨negative, digitsOf value, none, none⟩, []) :=
  except_bind_eq_ok.mpr ⟨_, readWhole_toString value, rfl⟩

theorem readNumeral_toString (value : Nat) :
    Numeral.read (Bytes.ofString (toString value)) =
      .ok (⟨false, digitsOf value, none, none⟩, []) := by
  have read := readUnsigned_toString false value
  obtain ⟨octet, rest, octets, digit, isDigit⟩ := ofString_toString_cons value
  have noMinus : octet ≠ 0x2d := by
    rintro rfl
    cases isDigit
  rw [octets] at read ⊢
  rw [read_other noMinus, read]

/-- The digits of a number of 64 bits add up to it. -/
theorem accumulate_digitsOf (value : UInt64) :
    Numeral.accumulate Numeral.greatest 0 (digitsOf value.toNat) =
      (value.toNat, (Nat.toDigits 10 value.toNat).length, 0) := by
  have all : Nat.ofDigitChars 10 (Nat.toDigits 10 value.toNat) 0 = value.toNat :=
    Nat.ofDigitChars_ten_toDigits
  have within : value.toNat ≤ Numeral.greatest := Nat.le_sub_one_of_lt value.toNat_lt_size
  rw [digitsOf, accumulate_digits (all.symm ▸ within), all]

end Reader

/-- A number that is no floating-point number and lies in the range of its kind. -/
inductive Number.IsExact : Number -> Prop
  | natural (value : UInt64) : Number.IsExact (.natural value)
  | negative {magnitude : UInt64} (positive : 0 < magnitude.toNat)
      (most : magnitude.toNat ≤ Nat.pow 2 63) : Number.IsExact (.negative magnitude)

namespace Reader

/-- An exact number is read back from its digits. -/
theorem number_render {exact : Number} (isExact : exact.IsExact) :
    number (Bytes.ofString exact.render) = .ok (exact, []) := by
  cases isExact with
  | natural value =>
      have isValue : Numeral.value ⟨false, digitsOf value.toNat, none, none⟩ =
          .ok (.natural value) := by
        simp [Numeral.value, accumulate_digitsOf, Numeral.accumulate]
      exact except_bind_eq_ok.mpr ⟨_, readNumeral_toString value.toNat,
        except_bind_eq_ok.mpr ⟨_, isValue, rfl⟩⟩
  | @negative magnitude positive most =>
      have isValue : Numeral.value ⟨true, digitsOf magnitude.toNat, none, none⟩ =
          .ok (.negative magnitude) := by
        have notZero : (magnitude.toNat == 0) = false := by
          rw [beq_eq_false_iff_ne]
          omega
        have within : ¬Nat.pow 2 63 < magnitude.toNat := Nat.not_lt.mpr most
        simp [Numeral.value, accumulate_digitsOf, Numeral.accumulate, notZero, -Nat.pow_eq, within]
      rw [Number.render, Bytes.ofString_append]
      exact except_bind_eq_ok.mpr ⟨_, readUnsigned_toString true magnitude.toNat,
        except_bind_eq_ok.mpr ⟨_, isValue, rfl⟩⟩

/-- A number is only read where one begins. -/
theorem beginsNumber_of_number
    {input : Bytes} {result : Number × Bytes}
    (isRead : number input = .ok result) :
    ∃ octet rest, input = octet :: rest ∧ beginsNumber octet = true := by
  obtain ⟨_, isNumeral, _⟩ := except_bind_eq_ok.mp isRead
  cases input with
  | nil => cases isNumeral
  | cons octet rest =>
      refine ⟨octet, rest, rfl, ?_⟩
      by_cases isMinus : octet = 0x2d
      · subst isMinus
        rfl
      · rw [read_other isMinus] at isNumeral
        obtain ⟨_, isWhole, _⟩ := except_bind_eq_ok.mp isNumeral
        cases isDigit : digit? octet with
        | none =>
            rw [Numeral.readWhole, spanDigits, isDigit] at isWhole
            cases isWhole
        | some digit => simp [beginsNumber, isDigit]

/-- There is no layout where a number begins. -/
theorem skipLayout_number {octet : UInt8} (begins : beginsNumber octet = true) (input : Bytes) :
    skipLayout (octet :: input) = .ok ((), octet :: input) := by
  have noLayout : isLayout octet = false := by
    rw [Bool.eq_false_iff]
    intro layout
    simp only [isLayout, Bool.or_eq_true, beq_iff_eq] at layout
    rcases layout with ((rfl | rfl) | rfl) | rfl <;> cases begins
  rw [skipLayout, List.dropWhile_cons, noLayout, if_neg Bool.false_ne_true]

/-- A number is read as a value. -/
theorem value_number
    {input rest : Bytes} {read : Number}
    (isRead : number input = .ok (read, rest))
    (levels : Nat) :
    value (levels + 1) input = .ok (.number read, rest) := by
  obtain ⟨octet, others, rfl, begins⟩ := beginsNumber_of_number isRead
  obtain ⟨next, same, _, branches⟩ := value_branches (delimited_value levels)
  have isNumber : next (some octet) = number >>= fun read => pure (.number read) := by
    rcases branches octet with ⟨noNumber, _⟩ | isNumber
    · exact absurd begins (Bool.eq_false_iff.mp noNumber)
    · exact isNumber
  rw [same]
  refine bind_eq_ok.mpr ⟨(), _, skipLayout_number begins others,
    bind_eq_ok.mpr ⟨some octet, _, rfl, ?_⟩⟩
  rw [isNumber]
  exact bind_eq_ok.mpr ⟨_, _, isRead, rfl⟩

/-- A number of 64 bits is read where one is expected. -/
theorem natural_number
    {input rest : Bytes} {read : UInt64}
    (isRead : number input = .ok (.natural read, rest)) :
    natural input = .ok (read, rest) := by
  obtain ⟨octet, others, rfl, begins⟩ := beginsNumber_of_number isRead
  refine bind_eq_ok.mpr ⟨(), _, skipLayout_number begins others,
    bind_eq_ok.mpr ⟨some octet, _, rfl, ?_⟩⟩
  simp only [begins]
  exact bind_eq_ok.mpr ⟨_, _, isRead, rfl⟩

end Reader
end Json
end BlockFeed
