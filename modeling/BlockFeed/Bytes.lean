/-!
# Octets

Everything that crosses the wire is a finite sequence of octets. A text stands
for the octets of its UTF-8 form, and a sequence of octets stands for a text
only when it is such a form.
-/

namespace BlockFeed

/-- A finite sequence of octets. -/
abbrev Bytes := List UInt8

namespace Bytes

/-- The UTF-8 form of a list of characters. -/
def ofChars (characters : List Char) : Bytes :=
  characters.flatMap String.utf8EncodeChar

/-- The UTF-8 form of a text. -/
def ofString (text : String) : Bytes :=
  ofChars text.toList

/-- The text whose UTF-8 form is `bytes`, if there is one. -/
def toString? (bytes : Bytes) : Option String :=
  String.fromUTF8? bytes.toByteArray

@[simp] theorem ofChars_nil : ofChars [] = [] := rfl

@[simp] theorem ofChars_cons (character : Char) (rest : List Char) :
    ofChars (character :: rest) =
      String.utf8EncodeChar character ++ ofChars rest := rfl

@[simp] theorem ofChars_append (left right : List Char) :
    ofChars (left ++ right) = ofChars left ++ ofChars right := by
  simp [ofChars]

@[simp] theorem ofString_append (left right : String) :
    ofString (left ++ right) = ofString left ++ ofString right := by
  simp [ofString]

end Bytes
end BlockFeed
