/-!
# Texts as bytes

The UTF-8 form of a text, its length, and the search for one text in another by their bytes.
Main definitions: `bytes`, `byteLength`, `occursIn`.
-/

namespace PageWatch.Text

/-- The UTF-8 form of some characters. -/
def bytes (cs : List Char) : List UInt8 := cs.flatMap String.utf8EncodeChar

/-- The number of bytes of the UTF-8 form. -/
def byteLength : List Char → Nat
  | [] => 0
  | c :: cs => c.utf8Size + byteLength cs

/-- The first list stands in the second as one piece. -/
def hasPiece (piece : List UInt8) : List UInt8 → Bool
  | [] => piece.isEmpty
  | b :: rest => piece.isPrefixOf (b :: rest) || hasPiece piece rest

/-- **The bytes of the text stand in those of the content as one piece.** -/
def occursIn (text content : String) : Bool :=
  hasPiece (bytes text.toList) (bytes content.toList)

end PageWatch.Text
