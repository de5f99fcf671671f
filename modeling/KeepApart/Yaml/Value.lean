import KeepApart.Calendar.Date
import KeepApart.Json.Equality

/-!
# Values of a settings file

Beside the values of JSON a settings file has octets, dates, moments, pairs and sets. The name of a field
is any value without parts. A list or a mapping may have itself among its parts, however deep: it carries
a mark then, and the mark stands where it comes again.
-/

namespace KeepApart.Yaml

inductive Value where
  | null
  | bool (b : Bool)
  | int (n : Int)
  | float (x : Float)
  | str (s : String)
  /-- A text that is no Unicode, by its code points. -/
  | surrogates (codes : List Nat)
  | octets (bytes : List UInt8)
  | date (d : Date)
  /-- Date and time of day, with the offset from UTC in seconds if it was given. -/
  | moment (t : Moment) (offset : Option Int)
  | list (mark : Option Nat) (items : List Value)
  | pair (first second : Value)
  | set (items : List Value)
  | mapping (mark : Option Nat) (fields : List (Value × Value))
  /-- The list or mapping around this place that carries the mark. -/
  | again (mark : Nat)
  deriving Inhabited

namespace Value

def ofCodes (codes : List Nat) : Value :=
  if codes.any Json.isSurrogate then .surrogates codes else .str (String.ofList (codes.map Char.ofNat))

mutual

def ofJson : Json → Value
  | .null => .null
  | .bool b => .bool b
  | .int n => .int n
  | .float x => .float x
  | .str s => .str s
  | .surrogates codes => .surrogates codes
  | .arr items => .list none (ofItems items)
  | .obj fields => .mapping none (ofFields fields)

def ofItems : List Json → List Value
  | [] => []
  | v :: rest => ofJson v :: ofItems rest

def ofFields : List (String × Json) → List (Value × Value)
  | [] => []
  | (name, v) :: rest => (.str name, ofJson v) :: ofFields rest

end

instance : Coe Json Value := ⟨ofJson⟩

mutual

/-- The value in JSON. What JSON lacks is a list. -/
def json : Value → Json
  | .null | .again _ => .null
  | .bool b => .bool b
  | .int n => .int n
  | .float x => .float x
  | .str s => .str s
  | .surrogates codes => .surrogates codes
  | .octets bytes => .arr (bytes.map fun b => .int b.toNat)
  | .date d => .arr [.str d.iso]
  | .moment t _ => .arr [.str t.iso]
  | .list _ items | .set items => .arr (jsonItems items)
  | .pair first second => .arr [json first, json second]
  | .mapping _ fields => .obj (jsonFields fields)

def jsonItems : List Value → List Json
  | [] => []
  | v :: rest => json v :: jsonItems rest

def jsonFields : List (Value × Value) → List (String × Json)
  | [] => []
  | (name, v) :: rest => ((json name).name, json v) :: jsonFields rest

end

/-! ## Parts -/

mutual

/-- The value as it is outside of `whole`, for which the mark stands in it. -/
def resolve (mark : Nat) (whole : Value) : Value → Value
  | .again m => if m == mark then whole else .again m
  | .list m items =>
    if m == some mark then .list m items else .list m (resolveItems mark whole items)
  | .pair first second => .pair (resolve mark whole first) (resolve mark whole second)
  | .set items => .set (resolveItems mark whole items)
  | .mapping m fields =>
    if m == some mark then .mapping m fields else .mapping m (resolveFields mark whole fields)
  | v => v

def resolveItems (mark : Nat) (whole : Value) : List Value → List Value
  | [] => []
  | v :: rest => resolve mark whole v :: resolveItems mark whole rest

def resolveFields (mark : Nat) (whole : Value) : List (Value × Value) → List (Value × Value)
  | [] => []
  | (name, v) :: rest => (name, resolve mark whole v) :: resolveFields mark whole rest

end

def isNamed (name : String) : Value → Bool
  | .str s => s == name
  | _ => false

def get? (v : Value) (name : String) : Option Value :=
  match v with
  | .mapping mark fields =>
    (fields.find? fun f => f.1.isNamed name).map fun f =>
      match mark with
      | some m => resolve m v f.2
      | none => f.2
  | _ => none

def isMapping : Value → Bool
  | .mapping .. => true
  | _ => false

def str? : Value → Option String
  | .str s => some s
  | _ => none

def isNothing (v : Value) : Bool :=
  v.json.isNothing

def isName : Value → Bool
  | .list .. | .pair .. | .set _ | .mapping .. | .again _ => false
  | _ => true

def sameName : Value → Value → Bool
  | .octets a, .octets b => a == b
  | .date a, .date b => a == b
  | .moment t none, .moment u none => t == u
  | .moment t (some p), .moment u (some q) => t.micros - p * 1000000 == u.micros - q * 1000000
  | .octets _, _ | .date _, _ | .moment .., _ | _, .octets _ | _, .date _ | _, .moment .. => false
  | a, b => a.json.equals b.json

def insertField (fields : List (Value × Value)) (name value : Value) : List (Value × Value) :=
  match fields with
  | [] => [(name, value)]
  | f :: rest =>
    if f.1.sameName name then (f.1, value) :: rest else f :: insertField rest name value

def collect (fields : List (Value × Value)) : List (Value × Value) :=
  fields.foldl (fun seen f => insertField seen f.1 f.2) []

/-! ## Values inside messages -/

def quotedSpan (seconds : Int) : String :=
  let days := seconds / 86400
  let rest := seconds % 86400
  let parts := (if days == 0 then [] else ["days=" ++ toString days])
    ++ (if rest == 0 then [] else ["seconds=" ++ toString rest])
  "datetime.timedelta(" ++ (if parts.isEmpty then "0" else ", ".intercalate parts) ++ ")"

def quotedZone (offset : Int) : String :=
  if offset == 0 then "datetime.timezone.utc" else "datetime.timezone(" ++ quotedSpan offset ++ ")"

/-- Zeros at the end of the time of day are left out, as far as the minutes. -/
def quotedMoment (t : Moment) (offset : Option Int) : String :=
  let (month, day) := t.date.monthDay
  let seconds := t.timeOfDay / 1000000
  let micros := t.timeOfDay % 1000000
  let fine := if micros != 0 then [seconds % 60, micros] else if seconds % 60 != 0 then [seconds % 60] else []
  let numbers := [t.date.year, month, day, seconds / 3600, seconds / 60 % 60] ++ fine
  let zone := (offset.map fun o => "tzinfo=" ++ quotedZone o).toList
  "datetime.datetime(" ++ ", ".intercalate (numbers.map toString ++ zone) ++ ")"

def quotedDate (d : Date) : String :=
  let (month, day) := d.monthDay
  "datetime.date(" ++ ", ".intercalate ([d.year, month, day].map toString) ++ ")"

def quotedOctets (bytes : List UInt8) : String :=
  let mark := Text.quoteMark (bytes.map fun b => Char.ofNat b.toNat)
  String.ofList ('b' :: mark :: bytes.flatMap (Text.quoteOctet mark) ++ [mark])

def listShownAgain : String := "[...]"

def mappingShownAgain : String := "\x7b...\x7d"

mutual

/-- A value as part of another one. The lists and mappings around it are known by their marks, each with
what is shown where it comes again. -/
def quotedWithin (around : List (Nat × String)) : Value → String
  | .null => "None"
  | .bool b => if b then "True" else "False"
  | .int n => toString n
  | .float x => Json.floatLayout.float x
  | .str s => Text.quote s
  | .surrogates codes => Json.quotedCodes codes
  | .octets bytes => quotedOctets bytes
  | .date d => quotedDate d
  | .moment t offset => quotedMoment t offset
  | .list mark items =>
    if mark.any fun m => around.any (·.1 == m) then listShownAgain
    else
      let around := (mark.map fun m => (m, listShownAgain)).toList ++ around
      Json.bracketed "[" "]" (quotedItems around items)
  | .pair first second =>
    Json.bracketed "(" ")" [quotedWithin around first, quotedWithin around second]
  | .set [] => "set()"
  | .set (v :: rest) =>
    Json.bracketed "\x7b" "\x7d" (quotedWithin around v :: quotedItems around rest)
  | .mapping mark fields =>
    if mark.any fun m => around.any (·.1 == m) then mappingShownAgain
    else
      let around := (mark.map fun m => (m, mappingShownAgain)).toList ++ around
      Json.bracketed "\x7b" "\x7d" (quotedFields around fields)
  | .again mark => ((around.find? fun a => a.1 == mark).map Prod.snd).getD ""

def quotedItems (around : List (Nat × String)) : List Value → List String
  | [] => []
  | v :: rest => quotedWithin around v :: quotedItems around rest

def quotedFields (around : List (Nat × String)) : List (Value × Value) → List String
  | [] => []
  | (name, v) :: rest =>
    (quotedWithin around name ++ ": " ++ quotedWithin around v) :: quotedFields around rest

end

def quoted (v : Value) : String :=
  quotedWithin [] v

def shownOffset (seconds : Int) : String :=
  let minutes := seconds.natAbs / 60
  (if seconds < 0 then "-" else "+") ++ Date.padded 2 (minutes / 60) ++ ":"
    ++ Date.padded 2 (minutes % 60)

def display : Value → String
  | .str s => s
  | .surrogates codes => (Json.surrogates codes).display
  | .date d => d.iso
  | .moment t offset =>
    t.iso.replace "T" " " ++ ((offset.map shownOffset).getD "")
  | v => v.quoted

end Value

end KeepApart.Yaml
