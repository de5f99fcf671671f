import KeepApart.Json.Parser
import KeepApart.Json.Printer

/-!
# Writing within limits

A value has no text when one of its integers has too many digits or its parts lie too deep. Of several
such things the first in the order of the text is told.
-/

namespace KeepApart.Json

inductive WriteFault where
  | longInteger
  | nested
  deriving DecidableEq, Repr

mutual

/-- What goes too far first in a value within `depth` others. -/
def excess? (limits : Limits) (depth : Nat) : Json → Option WriteFault
  | .int n => if limits.isLong (Nat.toDigits 10 n.natAbs).length then some .longInteger else none
  | .arr items =>
    if limits.isNested depth then some .nested else excessOfItems? limits (depth + 1) items
  | .obj fields =>
    if limits.isNested depth then some .nested else excessOfFields? limits (depth + 1) fields
  | _ => none

def excessOfItems? (limits : Limits) (depth : Nat) : List Json → Option WriteFault
  | [] => none
  | v :: rest => (excess? limits depth v).or (excessOfItems? limits depth rest)

def excessOfFields? (limits : Limits) (depth : Nat) : List (String × Json) → Option WriteFault
  | [] => none
  | (_, v) :: rest => (excess? limits depth v).or (excessOfFields? limits depth rest)

end

/-- A value as text with spaces between its parts, if nothing in it goes too far. -/
def write (limits : Limits) (v : Json) : Except WriteFault String :=
  match excess? limits 0 v with
  | some f => .error f
  | none => .ok v.render

def longTextMessage : String :=
  "Exceeds the limit (" ++ toString digitLimit ++ " digits) for integer string conversion; "
    ++ "use sys.set_int_max_str_digits() to increase the limit"

end KeepApart.Json
