import BlockFeed.Json.Reader

/-!
# Passing over a value nobody asked for

A typed document may hold members that it does not know. Their values are
passed over without being built: strings are not decoded, numbers have no
range, and nesting has no limit, because the open brackets are kept on a stack.
-/

namespace BlockFeed
namespace Json
namespace Reader

/-- An array or object that has been entered. -/
inductive Frame
  | list
  | object
  deriving DecidableEq, Repr

/-- Whether an octet behind a backslash stands for one character. -/
def isLetterEscape (octet : UInt8) : Bool :=
  octet == 0x22 || octet == 0x5c || octet == 0x2f || octet == 0x62 ||
    octet == 0x66 || octet == 0x6e || octet == 0x72 || octet == 0x74

/-- Pass over a string behind its opening quote. -/
def skipText : Reader Unit
  | [] => .error .endInString
  | 0x22 :: rest => .ok ((), rest)
  | 0x5c :: 0x75 :: first :: second :: third :: fourth :: rest =>
      if [first, second, third, fourth].all (fun octet => (hexDigit? octet).isSome) then
        skipText rest
      else .error .invalidEscape
  | 0x5c :: 0x75 :: _ => .error .endInString
  | 0x5c :: letter :: rest =>
      if isLetterEscape letter then skipText rest else .error .invalidEscape
  | 0x5c :: [] => .error .endInString
  | octet :: rest =>
      if octet < 0x20 then .error .controlCharacter else skipText rest

/-- Pass over the digits that must stand here. -/
def skipDigits : Reader Unit := fun input =>
  match spanDigits input with
  | ([], _) => .error .invalidNumber
  | (_, rest) => .ok ((), rest)

/-- Pass over a number. -/
def skipNumber : Reader Unit := do
  if (← peek) == some 0x2d then drop
  if (← peek) == some 0x30 then
    drop
    if ((← peek).bind digit?).isSome then fail .invalidNumber
  else skipDigits
  if (← peek) == some 0x2e then
    drop
    skipDigits
  match ← peek with
  | some octet =>
      if octet == 0x65 || octet == 0x45 then
        drop
        match ← peek with
        | some 0x2b => drop
        | some 0x2d => drop
        | _ => pure ()
        skipDigits
  | none => pure ()

/-- Pass over a key and its colon. -/
def skipKey : Reader Unit := do
  skipLayout
  match ← peek with
  | none => fail .endInObject
  | some 0x22 =>
      drop
      skipText
      colon
  | some _ => fail .keyNotString

/-- Pass over the beginning of a value: all of it, or the opening bracket of
the frame that it returns. -/
def skipBeginning : Reader (Option Frame) := do
  skipLayout
  match ← peek with
  | none => fail .endInValue
  | some 0x6e =>
      drop
      word [0x75, 0x6c, 0x6c]
      return none
  | some 0x74 =>
      drop
      word [0x72, 0x75, 0x65]
      return none
  | some 0x66 =>
      drop
      word [0x61, 0x6c, 0x73, 0x65]
      return none
  | some 0x22 =>
      drop
      skipText
      return none
  | some 0x5b =>
      drop
      return some .list
  | some 0x7b =>
      drop
      return some .object
  | some octet =>
      if beginsNumber octet then
        skipNumber
        return none
      else fail .expectedValue

/-- Close the innermost frames as long as they end here. What is left are the
frames in which another value follows. `filled` tells whether the innermost
frame already holds a value. -/
def skipClosings : Bool -> List Frame -> Reader (List Frame)
  | _, [] => return []
  | filled, frame :: outer => do
      skipLayout
      match ← peek, frame with
      | none, .list => fail .endInList
      | none, .object => fail .endInObject
      | some 0x5d, .list =>
          drop
          skipClosings true outer
      | some 0x7d, .object =>
          drop
          skipClosings true outer
      | some octet, _ =>
          if !filled then return frame :: outer
          else if octet == 0x2c then
            drop
            return frame :: outer
          else if frame == .list then fail .expectedListCommaOrEnd
          else fail .expectedObjectCommaOrEnd

/-- Pass over values until all frames are closed. -/
def skipFrames : Nat -> List Frame -> Reader Unit
  | 0, _ => fail .endInValue
  | steps + 1, frames => do
      let entered ← skipBeginning
      match ← skipClosings entered.isNone (entered.toList ++ frames) with
      | [] => return ()
      | frame :: outer =>
          if frame == .object then skipKey
          skipFrames steps (frame :: outer)

/-- Pass over a value. -/
def skip : Reader Unit := fun input =>
  skipFrames (input.length + 1) [] input

end Reader
end Json
end BlockFeed
