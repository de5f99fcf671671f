import KeepApart.Decimal.Binary
import KeepApart.Json.Printer

/-!
# When two values are the same, and which comes first

Numbers are the same when they stand for the same number, and truth values count as one and zero. Lists
are the same item by item, objects whatever the order of their fields. What is not a number is the same as
itself, but a comparison of two values never finds it equal to anything, itself included. Among themselves
texts are ordered by code points and numbers by size; nothing else is ordered.
-/

namespace KeepApart.Json

def number? : Json → Option Rat
  | .int n => some n
  | .bool b => some b.toNat
  | .float x => Decimal.ofFloat? x
  | _ => none

def fraction (x : Rat) : String :=
  toString x.num ++ "/" ++ toString x.den

mutual

/-- A text that two values share exactly when they are the same. -/
def canonical : Json → String
  | .null => "null"
  | .bool b => fraction b.toNat
  | .int n => fraction n
  | .float x =>
    match Decimal.ofFloat? x with
    | some r => fraction r
    | none => floatLayout.float x
  | .str s => String.ofList (renderText s)
  | .surrogates codes => String.ofList (renderCodes codes)
  | .arr items => "[" ++ ",".intercalate (canonicalItems items) ++ "]"
  | .obj fields =>
    "\x7b" ++ ",".intercalate ((canonicalFields fields).mergeSort fun a b => a ≤ b) ++ "\x7d"

def canonicalItems : List Json → List String
  | [] => []
  | v :: rest => canonical v :: canonicalItems rest

def canonicalFields : List (String × Json) → List String
  | [] => []
  | (name, v) :: rest =>
    (String.ofList (renderText name) ++ ":" ++ canonical v) :: canonicalFields rest

end

def same (a b : Json) : Bool :=
  match a.str?, b.str? with
  | some s, some t => s == t
  | none, none => a.canonical == b.canonical
  | _, _ => false

theorem same_refl (a : Json) : a.same a := by
  cases h : a.str? <;> simp [same, h]

theorem same_comm (a b : Json) : a.same b = b.same a := by
  cases ha : a.str? <;> cases hb : b.str? <;> simp [same, ha, hb, BEq.comm]

theorem same_trans {a b c : Json} (hab : a.same b) (hbc : b.same c) : a.same c := by
  cases ha : a.str? <;> cases hb : b.str? <;> cases hc : c.str? <;> simp_all [same]

/-- Nothing but the text itself is the same as a text. -/
theorem same_str (a : Json) (s : String) : a.same (.str s) = (a.str? == some s) := by
  have : (str s).str? = some s := rfl
  cases h : a.str? <;> simp [same, h, this]

def isNaN : Json → Bool
  | .float x => x.isNaN
  | _ => false

/-- Are the two values the same and comparable to each other? -/
def equals (a b : Json) : Bool :=
  a.same b && !a.isNaN && !b.isNaN

theorem equals_comm (a b : Json) : a.equals b = b.equals a := by
  simp only [equals, same_comm a b, Bool.and_assoc, Bool.and_comm (!a.isNaN)]

/-- Whatever equals some value equals itself. -/
theorem equals_self {a b : Json} (h : a.equals b) : a.equals a := by
  simp_all [equals, same_refl]

/-- What a value is sorted by. A text is given by its code points. -/
inductive Rank where
  | text (codes : List Nat)
  | number (x : Rat)
  | unordered
  deriving DecidableEq

def rank : Json → Rank
  | .str s => .text (s.toList.map Char.toNat)
  | .surrogates codes => .text codes
  | v =>
    match v.number? with
    | some x => .number x
    | none => .unordered

namespace Rank

def le : Rank → Rank → Bool
  | text a, text b => !b.lex a
  | number a, number b => a ≤ b
  | text _, _ => true
  | number _, unordered => true
  | unordered, unordered => true
  | _, _ => false

/-- Can all these be brought into an order? One alone always can. -/
def comparable (ranks : List Rank) : Bool :=
  ranks.length ≤ 1 || ranks.all isText || ranks.all isNumber
where
  isText : Rank → Bool
    | text _ => true
    | _ => false
  isNumber : Rank → Bool
    | number _ => true
    | _ => false

end Rank

def sorted? (values : List Json) : Option (List Json) :=
  if Rank.comparable (values.map rank) then
    some (values.mergeSort fun a b => a.rank.le b.rank)
  else none

example : (Json.int 1).same (.bool true) := by decide +kernel

end KeepApart.Json
