/-! Bytes written in base 64. Characters outside the alphabet mean nothing, and padding ends what is
read as soon as it fills a group of four. -/
namespace ReviewContext.Text.Base64

def digit? (c : Char) : Option Nat :=
  if c.isUpper then some (c.toNat - 65)
  else if c.isLower then some (c.toNat - 71)
  else if c.isDigit then some (c.toNat + 4)
  else if c = '+' then some 62
  else if c = '/' then some 63
  else none

/-- The bytes of a group of up to four digits; a single digit holds none. -/
def groupBytes : List Nat → List UInt8
  | [a, b] => [UInt8.ofNat (4 * a + b / 16)]
  | [a, b, c] => [UInt8.ofNat (4 * a + b / 16), UInt8.ofNat (16 * b + c / 4)]
  | [a, b, c, d] =>
    [UInt8.ofNat (4 * a + b / 16), UInt8.ofNat (16 * b + c / 4), UInt8.ofNat (64 * c + d)]
  | _ => []

/-- Reads on with some digits of a group and the padding behind them; a group left open is no
code. -/
def decodeFrom (group : List Nat) (pads : Nat) : List Char → Option (List UInt8)
  | [] => if group = [] then some [] else none
  | c :: cs =>
    if c = '=' then
      if 2 ≤ group.length ∧ 4 ≤ group.length + pads + 1 then some (groupBytes group)
      else decodeFrom group (if 2 ≤ group.length then pads + 1 else pads) cs
    else
      match digit? c with
      | none => decodeFrom group pads cs
      | some digit =>
        let group := group ++ [digit]
        if group.length = 4 then (decodeFrom [] 0 cs).map (groupBytes group ++ ·)
        else decodeFrom group 0 cs

def decode (cs : List Char) : Option (List UInt8) := decodeFrom [] 0 cs

end ReviewContext.Text.Base64
