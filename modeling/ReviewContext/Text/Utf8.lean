import ReviewContext.Text.Slice

/-! UTF-8 read with replacement: each longest stretch of bytes that begins no character becomes one
replacement character. -/
namespace ReviewContext.Text.Utf8

/-- What a first byte promises: how many bytes follow, the bounds of the next one, and its own
bits. -/
structure Lead where
  follow : Nat
  low : Nat
  high : Nat
  bits : Nat

/-- The bounds shut out overlong forms, surrogates and code points beyond the last plane. -/
def lead? (b : Nat) : Option Lead :=
  if b < 0x80 then some ⟨0, 0x80, 0xBF, b⟩
  else if b < 0xC2 then none
  else if b < 0xE0 then some ⟨1, 0x80, 0xBF, b - 0xC0⟩
  else if b = 0xE0 then some ⟨2, 0xA0, 0xBF, 0⟩
  else if b = 0xED then some ⟨2, 0x80, 0x9F, 13⟩
  else if b < 0xF0 then some ⟨2, 0x80, 0xBF, b - 0xE0⟩
  else if b = 0xF0 then some ⟨3, 0x90, 0xBF, 0⟩
  else if b < 0xF4 then some ⟨3, 0x80, 0xBF, b - 0xF0⟩
  else if b = 0xF4 then some ⟨3, 0x80, 0x8F, 4⟩
  else none

def replacement : Char := '\uFFFD'

/-- A decoder is between characters, or owes some bytes of one. -/
inductive Pending
  | none
  | some (lead : Lead)

def startByte (b : Nat) : List Char × Pending :=
  match lead? b with
  | Option.none => ([replacement], .none)
  | Option.some lead =>
    if lead.follow = 0 then ([Char.ofNat lead.bits], .none) else ([], .some lead)

/-- Takes one byte; a byte that does not continue the open character ends it with a replacement and
starts anew. -/
def takeByte (pending : Pending) (b : Nat) : List Char × Pending :=
  match pending with
  | .none => startByte b
  | .some lead =>
    if lead.low ≤ b ∧ b ≤ lead.high then
      let bits := lead.bits * 64 + (b - 0x80)
      if lead.follow = 1 then ([Char.ofNat bits], .none)
      else ([], .some ⟨lead.follow - 1, 0x80, 0xBF, bits⟩)
    else (replacement :: (startByte b).1, (startByte b).2)

def decodeFrom : Pending → List UInt8 → List Char
  | .none, [] => []
  | .some _, [] => [replacement]
  | pending, b :: bs =>
    (takeByte pending b.toNat).1 ++ decodeFrom (takeByte pending b.toNat).2 bs

def decode (bytes : List UInt8) : String :=
  String.ofList (decodeFrom .none bytes)

def encode (s : String) : List UInt8 :=
  s.toUTF8.data.toList

def byteSlice (s : String) (first stop : Int) : String :=
  decode (slice (encode s) first stop)

end ReviewContext.Text.Utf8
