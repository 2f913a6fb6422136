import ReviewContext.Text.Integer

/-! Numbers that can be written. The limit on the digits of a number that is read holds for one that
is written too: a text that would show a longer one cannot be had. -/
namespace ReviewContext.Text

def isWritable (n : Int) : Bool := n.natAbs < Nat.pow 10 digitLimit

def unwritableMessage : String :=
  "Exceeds the limit (" ++ toString digitLimit ++ " digits) for integer string conversion; "
    ++ "use sys.set_int_max_str_digits() to increase the limit"

end ReviewContext.Text
