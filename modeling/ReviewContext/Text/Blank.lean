/-! White space as the Unicode property has it, with the four ASCII separators beside the line
ends. -/
namespace ReviewContext.Text

/-- Blank are the ASCII controls that move the pen or separate records, the space, and the Unicode
spaces. -/
def isBlank (c : Char) : Bool :=
  let n := c.toNat
  (9 ≤ n && n ≤ 13) || (28 ≤ n && n ≤ 32) || n == 0x85 || n == 0xA0 || n == 0x1680
    || (0x2000 ≤ n && n ≤ 0x200A) || n == 0x2028 || n == 0x2029 || n == 0x202F || n == 0x205F
    || n == 0x3000

/-- The blank characters that a number may stand between: the ASCII separators are no part of it. -/
def isNumberBlank (c : Char) : Bool :=
  isBlank c && !(28 ≤ c.toNat && c.toNat ≤ 31)

def trimList (cs : List Char) : List Char :=
  ((cs.dropWhile isBlank).reverse.dropWhile isBlank).reverse

def trim (s : String) : String :=
  String.ofList (trimList s.toList)

def isBlankText (s : String) : Bool :=
  s.toList.all isBlank

end ReviewContext.Text
