/-!
# JSON values

Fields of an object keep the order in which they were first written, and a name occurs once. Whole
numbers are unbounded and stay apart from numbers with a fraction or an exponent.
-/

namespace KeepApart

inductive Json where
  | null
  | bool (b : Bool)
  | int (n : Int)
  | float (x : Float)
  | str (s : String)
  /-- A text that is no Unicode, since it holds half of a surrogate pair. These are its code points. -/
  | surrogates (codes : List Nat)
  | arr (items : List Json)
  | obj (fields : List (String × Json))
  deriving Inhabited

namespace Json

/-- Sets a field: in its place when the name is there, else at the end. -/
def insertField (fields : List (String × Json)) (name : String) (value : Json) :
    List (String × Json) :=
  match fields with
  | [] => [(name, value)]
  | f :: rest => if f.1 == name then (name, value) :: rest else f :: insertField rest name value

def lookup? (fields : List (String × Json)) (name : String) : Option Json :=
  (fields.find? fun f => f.1 == name).map Prod.snd

theorem lookup?_cons (f : String × Json) (fields : List (String × Json)) (name : String) :
    lookup? (f :: fields) name = if f.1 = name then some f.2 else lookup? fields name := by
  by_cases h : f.1 = name <;> simp [lookup?, h]

theorem lookup?_append (fields more : List (String × Json)) (name : String) :
    lookup? (fields ++ more) name = (lookup? fields name).or (lookup? more name) := by
  rw [lookup?, List.find?_append, Option.map_or]
  rfl

/-- Setting a field changes what is under its name and nothing else. -/
theorem lookup?_insertField (fields : List (String × Json)) (name other : String) (v : Json) :
    lookup? (insertField fields name v) other =
      if name = other then some v else lookup? fields other := by
  induction fields with
  | nil => simp [insertField, lookup?]
  | cons f rest ih => grind [insertField, lookup?_cons]

/-- The value of a field; none for a missing field and for anything but an object. -/
def get? (v : Json) (name : String) : Option Json :=
  match v with
  | .obj fields => lookup? fields name
  | _ => none

def get (v : Json) (name : String) : Json :=
  (v.get? name).getD .null

/-- Null, false, zero and whatever is empty count as nothing. -/
def isNothing : Json → Bool
  | .null => true
  | .bool b => !b
  | .int n => n == 0
  | .float x => x == 0
  | .str s => s.isEmpty
  | .surrogates codes => codes.isEmpty
  | .arr items => items.isEmpty
  | .obj fields => fields.isEmpty

def isNull : Json → Bool
  | .null => true
  | _ => false

def str? : Json → Option String
  | .str s => some s
  | _ => none

def isSurrogate (code : Nat) : Bool :=
  0xD800 ≤ code && code ≤ 0xDFFF

def ofCodes (codes : List Nat) : Json :=
  if codes.any isSurrogate then .surrogates codes else .str (String.ofList (codes.map Char.ofNat))

def ofText? : Option String → Json
  | some s => .str s
  | none => .null

def ofInt? : Option Int → Json
  | some n => .int n
  | none => .null

end Json

end KeepApart
