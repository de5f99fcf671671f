import KeepApart.Fault

/-!
# Columns of texts

Storage has columns of texts. Whole numbers of 64 bits, truth values and numbers with a fraction are
held as texts too, and from then on they are texts. Lists and objects cannot be held.
-/

namespace KeepApart.Column

/-- A number with a fraction keeps fifteen digits, and a point in any case. -/
def layout : Decimal.Layout where
  plainFrom := -4
  plainBelow := 15
  exponentWidth := 2
  keepsPoint := true
  nan := ""
  infinity := "Inf"

def floatText (x : Float) : Option String :=
  let sign := if x < 0 then "-" else ""
  match Decimal.ofFloat? x with
  | none => if x.isNaN then none else some (sign ++ layout.infinity)
  | some v =>
    if v == 0 then some "0.0"
    else some (sign ++ layout.decimal (Decimal.significant 15 (if v < 0 then -v else v)))

/-- Whole numbers have 64 bits. -/
def isStorable (n : Int) : Bool :=
  -9223372036854775808 ≤ n && n ≤ 9223372036854775807

/-- The text under which a value is held, or none for null. -/
def text : Json → Except Fault (Option String)
  | .null => .ok none
  | .bool b => .ok (some (if b then "1" else "0"))
  | .int n => if isStorable n then .ok (some (toString n)) else .error .overflow
  | .float x => .ok (floatText x)
  | .str s => .ok (some s)
  | .surrogates _ => .error .notUnicode
  | .arr _ | .obj _ => .error .unstorable

theorem text_ofText? (s : Option String) : text (.ofText? s) = .ok s := by
  cases s <;> rfl

end KeepApart.Column
