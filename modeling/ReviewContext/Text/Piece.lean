import ReviewContext.Text.LetterCase
import ReviewContext.Text.Quoted

/-! Texts with halves of characters in them. An escape can name either half of a pair of surrogates,
and the two stay apart, side by side or not, until the text is written. -/
namespace ReviewContext.Text

inductive Piece
  | char (c : Char)
  | half (code : Nat)
deriving DecidableEq, Repr

def isHighHalf (code : Nat) : Bool := 0xD800 ≤ code && code < 0xDC00

def isLowHalf (code : Nat) : Bool := 0xDC00 ≤ code && code < 0xE000

def joined (high low : Nat) : Char :=
  Char.ofNat (0x10000 + 0x400 * (high - 0xD800) + (low - 0xDC00))

namespace Piece

def char? : Piece → Option Char
  | char c => some c
  | half _ => none

def escape (quote : Char) : Piece → List Char
  | char c => escapeChar quote c
  | half code => '\\' :: 'u' :: hexDigits 4 code

end Piece

abbrev Pieces := List Piece

namespace Pieces

def ofChars (cs : List Char) : Pieces := cs.map .char

def chars? (pieces : Pieces) : Option (List Char) := pieces.mapM Piece.char?

/-- A text as it is written: two halves that fit make a character, and one by itself is replaced. -/
def writtenChars : Pieces → List Char
  | [] => []
  | .char c :: rest => c :: writtenChars rest
  | .half high :: .half low :: rest =>
    if isHighHalf high && isLowHalf low then joined high low :: writtenChars rest
    else '\uFFFD' :: writtenChars (.half low :: rest)
  | .half _ :: rest => '\uFFFD' :: writtenChars rest

def written (pieces : Pieces) : String := String.ofList pieces.writtenChars

def quoted (pieces : Pieces) : String :=
  let mark := quoteFor (pieces.filterMap Piece.char?)
  String.ofList (mark :: pieces.flatMap (Piece.escape mark) ++ [mark])

def lowerAfter (before : List Char) : Pieces → Pieces
  | [] => ofChars (lower (String.ofList before.reverse)).toList
  | .char c :: rest => lowerAfter (c :: before) rest
  | .half code :: rest =>
    ofChars (lower (String.ofList before.reverse)).toList ++ .half code :: lowerAfter [] rest

def lower (pieces : Pieces) : Pieces := lowerAfter [] pieces

end Pieces

end ReviewContext.Text
