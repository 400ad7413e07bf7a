import BlockFeed.Block.Document
import BlockFeed.Proofs.Json.Values

/-!
# Blocks that are cut off

A block delimits itself, so that the beginning of a text that holds a block
either holds no block or the same one: nothing but layout was cut off.
-/

namespace BlockFeed

open Json

/-- Refusing a field that has been read before does not stand in the way. -/
theorem delimited_unless
    (taken : Bool)
    (problem : Problem)
    {next : Reader α}
    (delimited : next.Delimited) :
    Reader.Delimited (do
      if taken then Reader.fail problem
      next) := by
  cases taken with
  | true => exact (Reader.selfDelimiting_fail problem).delimited.bind fun _ => delimited
  | false => exact delimited

namespace BlockHeader

theorem delimited_readMember (levels : Nat) (draft : Draft) (key : String) :
    (readMember levels draft key).Delimited := by
  unfold readMember
  split
  · exact delimited_unless _ _ (Reader.selfDelimiting_colon.delimited.bind fun _ =>
      Reader.delimited_natural.bind fun _ => (Reader.selfDelimiting_pure _).delimited)
  · split
    · exact delimited_unless _ _ (Reader.selfDelimiting_colon.delimited.bind fun _ =>
        (Reader.selfDelimiting_string _).delimited.bind fun _ =>
          (Reader.selfDelimiting_pure _).delimited)
    · exact Reader.selfDelimiting_colon.delimited.bind fun _ =>
        (Reader.delimited_value levels).bind fun _ => (Reader.selfDelimiting_pure _).delimited

theorem selfDelimiting_reader (levels : Nat) : (reader levels).SelfDelimiting :=
  (Reader.selfDelimiting_object levels _ (delimited_readMember _) _).bind fun draft =>
    Reader.selfDelimiting_lift (ofDraft draft)

end BlockHeader

namespace Block

theorem delimited_readMember (levels : Nat) (draft : Draft) (key : String) :
    (readMember levels draft key).Delimited := by
  unfold readMember
  split
  · exact delimited_unless _ _ (Reader.selfDelimiting_colon.delimited.bind fun _ =>
      (BlockHeader.selfDelimiting_reader levels).delimited.bind fun _ =>
        (Reader.selfDelimiting_pure _).delimited)
  · exact Reader.selfDelimiting_colon.delimited.bind fun _ =>
      (Reader.delimited_value levels).bind fun _ => (Reader.selfDelimiting_pure _).delimited

theorem selfDelimiting_reader (levels : Nat) : (reader levels).SelfDelimiting :=
  (Reader.selfDelimiting_object levels _ (delimited_readMember _) _).bind fun draft =>
    Reader.selfDelimiting_lift (ofDraft draft)

/-- A block that is read from the beginning of a text is the one that is read
from all of it. -/
theorem read_of_cut
    {text more : Bytes} {block whole : Block}
    (isBlock : read text = .ok block)
    (isWhole : read (text ++ more) = .ok whole) :
    whole = block :=
  document_of_cut (selfDelimiting_reader nestingLimit) isBlock isWhole

end Block
end BlockFeed
