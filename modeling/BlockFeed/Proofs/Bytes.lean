import BlockFeed.Line

/-!
# The octets of texts

A character is one octet of the ASCII range or several octets beyond it. So the octet of a
newline stands for the character of a newline alone, and it never stands inside of another
one. Octets are the form of at most one text.
-/

namespace BlockFeed
namespace Bytes

/-- A character is one octet of the ASCII range or several octets beyond it. -/
theorem utf8EncodeChar_cases (character : Char) :
    (character.toNat < 0x80 ∧
      String.utf8EncodeChar character = [character.toNat.toUInt8]) ∨
    (0x80 ≤ character.toNat ∧
      ∀ octet ∈ String.utf8EncodeChar character, 0x80 ≤ octet.toNat) := by
  fun_cases String.utf8EncodeChar character with
  | case1 _ ascii => exact .inl ⟨Nat.lt_succ_of_le ascii, rfl⟩
  | _ _ beyond =>
      refine .inr ⟨Nat.lt_of_not_le beyond, fun octet mem => ?_⟩
      simp only [List.mem_cons, List.not_mem_nil, or_false] at mem
      rcases mem with rfl | rfl | rfl | rfl
      all_goals
        rw [UInt8.toNat_ofNat']
        omega

/-- An octet of the ASCII range that a character holds is its only one. -/
theorem toNat_of_mem_utf8EncodeChar
    {character : Char} {octet : UInt8}
    (mem : octet ∈ String.utf8EncodeChar character)
    (ascii : octet.toNat < 0x80) :
    character.toNat = octet.toNat := by
  rcases utf8EncodeChar_cases character with ⟨small, octets⟩ | ⟨_, beyond⟩
  · rw [octets, List.mem_singleton] at mem
    rw [mem, UInt8.toNat_ofNat']
    omega
  · exact absurd (beyond octet mem) (Nat.not_le.mpr ascii)

/-- The octet of a newline stands for the character of a newline alone. -/
theorem newline_mem_utf8EncodeChar {character : Char} :
    Line.newline ∈ String.utf8EncodeChar character ↔ character = '\n' := by
  constructor
  · intro mem
    have code := toNat_of_mem_utf8EncodeChar mem (by decide)
    rw [← Char.ofNat_toNat character, code]
    rfl
  · rintro rfl
    decide

@[simp] theorem ofChars_newline (rest : List Char) :
    ofChars ('\n' :: rest) = Line.newline :: ofChars rest := rfl

/-- The octets of a text have the form that a text has. -/
@[simp] theorem toByteArray_ofString (text : String) :
    (ofString text).toByteArray = text.toByteArray := by
  rw [← String.utf8Encode_toList]
  rfl

/-- Octets stand for a text exactly if they are its form. -/
theorem toString?_eq_some_iff {bytes : Bytes} {text : String} :
    bytes.toString? = some text ↔ bytes = ofString text := by
  constructor
  · intro stands
    rw [toString?, String.fromUTF8?] at stands
    split at stands
    · rw [← List.toByteArray_inj, toByteArray_ofString, ← Option.some.inj stands]
      rfl
    · cases stands
  · rintro rfl
    rw [toString?, toByteArray_ofString, String.fromUTF8?, dif_pos text.isValidUTF8]
    rfl

/-- The octets of a text are those of a text again. -/
@[simp] theorem toString?_ofString (text : String) : (ofString text).toString? = some text :=
  toString?_eq_some_iff.mpr rfl

/-- Texts with the same octets are the same. -/
theorem ofString_inj {left right : String} : ofString left = ofString right ↔ left = right := by
  refine ⟨fun same => ?_, congrArg ofString⟩
  have stands := toString?_eq_some_iff.mpr same
  rw [toString?_ofString] at stands
  exact Option.some.inj stands

end Bytes
end BlockFeed
