import BlockFeed.Json.Value
import BlockFeed.Proofs.Bytes

/-!
# What is written

The compact text of a value holds no control character, whatever characters there are in
its strings and keys. So it fits into one line.
-/

namespace BlockFeed
namespace Text

/-- No character of a text is a control character. -/
def IsClear (text : String) : Prop :=
  ∀ character ∈ text.toList, 0x20 ≤ character.toNat

instance (text : String) : Decidable (IsClear text) :=
  List.decidableBAll (fun character : Char => 0x20 ≤ character.toNat) text.toList

theorem IsClear.append {left right : String} (clearLeft : IsClear left)
    (clearRight : IsClear right) :
    IsClear (left ++ right) := by
  intro character mem
  rw [String.toList_append] at mem
  exact (List.mem_append.mp mem).elim (clearLeft character) (clearRight character)

theorem isClear_ofList
    {characters : List Char}
    (clear : ∀ character ∈ characters, 0x20 ≤ character.toNat) :
    IsClear (String.ofList characters) := by
  rwa [IsClear, String.toList_ofList]

theorem isClear_toString {character : Char} (clear : 0x20 ≤ character.toNat) :
    IsClear character.toString := by
  simpa [IsClear] using clear

/-- Digits can be seen. -/
theorem clear_of_mem_toDigits {value : Nat} {character : Char}
    (mem : character ∈ Nat.toDigits 10 value) :
    0x20 ≤ character.toNat := by
  have isDigit := Nat.isDigit_of_mem_toDigits (by decide) (by decide) mem
  exact Nat.le_trans (by decide) (Char.isDigit_iff_toNat.mp isDigit).1

theorem isClear_repr (value : Nat) : IsClear (toString value) := by
  rw [Nat.toString_eq_ofList_toDigits]
  exact isClear_ofList fun _ => clear_of_mem_toDigits

theorem isClear_hexadecimal {value : Nat} (below : value < 16) :
    IsClear (hexadecimal value) := by
  rw [hexadecimal, Nat.toDigits_of_lt_base below]
  refine isClear_ofList ?_
  have all : ∀ digit < 16, 0x20 ≤ (Nat.digitChar digit).toNat := by decide
  simpa using all value below

/-- A text without control characters is a line. -/
theorem IsClear.newline_notMem {text : String} (clear : IsClear text) :
    Line.newline ∉ Bytes.ofString text := by
  intro mem
  obtain ⟨character, isPart, mem⟩ := List.mem_flatMap.mp mem
  have isNewline := Bytes.newline_mem_utf8EncodeChar.mp mem
  exact absurd (clear character isPart) (by rw [isNewline]; decide)

end Text

namespace Json

open Text (IsClear)

/-- How a character is written inside a string. -/
theorem isClear_escapedChar (character : Char) : IsClear (escapedChar character) := by
  unfold escapedChar
  split
  case h_8 =>
    dsimp only
    split
    · next control =>
        refine ((?_ : IsClear "\\u00").append (Text.isClear_hexadecimal ?_)).append
          (Text.isClear_hexadecimal ?_)
        · decide
        · omega
        · omega
    · next visible => exact Text.isClear_toString (Nat.le_of_not_lt visible)
  all_goals decide

theorem isClear_renderString (text : String) : IsClear (renderString text) := by
  have quote : IsClear "\"" := by decide
  refine (quote.append ?_).append quote
  intro character mem
  rw [String.toList_join, List.mem_flatMap] at mem
  obtain ⟨written, isPart, mem⟩ := mem
  obtain ⟨escaped, _, rfl⟩ := List.mem_map.mp isPart
  exact isClear_escapedChar escaped character mem

/-! ## Numbers -/

theorem isClear_zeros (count : Nat) : IsClear (Decimal.zeros count) := by
  refine Text.isClear_ofList fun character mem => ?_
  rw [List.eq_of_mem_replicate mem]
  decide

theorem isClear_renderPositive (number : Decimal.Scientific) :
    IsClear (Decimal.Layout.json.renderPositive number) := by
  have taken : ∀ count value, IsClear (String.ofList ((Nat.toDigits 10 value).take count)) :=
    fun _ _ => Text.isClear_ofList fun _ mem =>
      Text.clear_of_mem_toDigits (List.mem_of_mem_take mem)
  have dropped : ∀ count value, IsClear (String.ofList ((Nat.toDigits 10 value).drop count)) :=
    fun _ _ => Text.isClear_ofList fun _ mem =>
      Text.clear_of_mem_toDigits (List.mem_of_mem_drop mem)
  unfold Decimal.Layout.renderPositive
  dsimp only
  split
  · split
    · refine (((by decide : IsClear "0.").append (isClear_zeros _))).append ?_
      exact Text.isClear_ofList fun _ => Text.clear_of_mem_toDigits
    · refine (((taken _ _).append (isClear_zeros _)).append (by decide)).append ?_
      split
      · decide
      · exact dropped _ _
  · refine ((((taken _ _).append ?_).append (by decide)).append ?_).append
      (Text.isClear_repr _)
    · split
      · decide
      · exact (by decide : IsClear ".").append (dropped _ _)
    · split <;> decide

theorem isClear_renderFloat (value : Float) : IsClear (Decimal.Layout.json.render value) := by
  unfold Decimal.Layout.render
  dsimp only
  have sign : IsClear (if Nat.pow 2 63 ≤ value.toBits.toNat then "-" else "") := by
    split <;> decide
  split
  · split
    · exact sign.append (by decide)
    · decide
  · split
    · exact sign.append (by decide)
    · exact sign.append (isClear_renderPositive _)

theorem isClear_renderNumber (number : Number) : IsClear number.render := by
  cases number with
  | natural value => exact Text.isClear_repr value.toNat
  | negative magnitude =>
      exact (by decide : IsClear "-").append (Text.isClear_repr magnitude.toNat)
  | float value => exact isClear_renderFloat value

/-! ## Values -/

mutual

/-- The text of a value holds no control character. -/
theorem isClear_render : (value : Value) -> IsClear value.render
  | .null => by decide
  | .bool true => by decide
  | .bool false => by decide
  | .number value => isClear_renderNumber value
  | .string value => isClear_renderString value
  | .array elements =>
      ((by decide : IsClear "[").append (isClear_renderElements elements)).append (by decide)
  | .object members =>
      ((by decide : IsClear "\x7b").append (isClear_renderMembers members)).append (by decide)

theorem isClear_renderElements : (elements : List Value) -> IsClear (renderElements elements)
  | [] => by decide
  | [element] => isClear_render element
  | element :: next :: rest =>
      ((isClear_render element).append (by decide)).append
        (isClear_renderElements (next :: rest))

theorem isClear_renderMembers :
    (members : List (String × Value)) -> IsClear (renderMembers members)
  | [] => by decide
  | [(key, value)] =>
      ((isClear_renderString key).append (by decide)).append (isClear_render value)
  | (key, value) :: next :: rest =>
      ((((isClear_renderString key).append (by decide)).append (isClear_render value)).append
        (by decide)).append (isClear_renderMembers (next :: rest))

end

end Json
end BlockFeed
