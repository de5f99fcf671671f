import KeepApart.Json.Display

/-!
# JSON text

One line of text for a value. Items are separated by a comma, a name and its value by a colon, both with
a space behind them or none. Only the quote, the backslash and control characters below U+0020 are
escaped, and so is half of a surrogate pair.
-/

namespace KeepApart.Json

def escapeLetter? : Char → Option Char
  | '"' => some '"'
  | '\\' => some '\\'
  | '\x08' => some 'b'
  | '\x0c' => some 'f'
  | '\n' => some 'n'
  | '\r' => some 'r'
  | '\t' => some 't'
  | _ => none

def escapeChar (c : Char) : List Char :=
  match escapeLetter? c with
  | some l => ['\\', l]
  | none => if c.toNat < 0x20 then '\\' :: 'u' :: Text.hex 4 c.toNat else [c]

def renderText (s : String) : List Char :=
  '"' :: s.toList.flatMap escapeChar ++ ['"']

/-- A text with halves of surrogate pairs, which are escaped, between quotes. -/
def renderCodes (codes : List Nat) : List Char :=
  let char (code : Nat) : List Char :=
    if isSurrogate code then '\\' :: 'u' :: Text.hex 4 code else escapeChar (Char.ofNat code)
  '"' :: codes.flatMap char ++ ['"']

/-- Numbers are written as in messages; what is no number has a name. -/
def numberLayout : Decimal.Layout :=
  { floatLayout with nan := "NaN", infinity := "Infinity" }

mutual

/-- A value as text; `gap` follows every comma and colon between parts. -/
def renderChars (gap : List Char) : Json → List Char
  | .null => "null".toList
  | .bool b => if b then "true".toList else "false".toList
  | .int n => (toString n).toList
  | .float x => (numberLayout.float x).toList
  | .str s => renderText s
  | .surrogates codes => renderCodes codes
  | .arr items => '[' :: renderItems gap items ++ [']']
  | .obj fields => '{' :: renderFields gap fields ++ ['}']

def renderItems (gap : List Char) : List Json → List Char
  | [] => []
  | v :: rest =>
    renderChars gap v ++ (if rest.isEmpty then [] else ',' :: gap ++ renderItems gap rest)

def renderFields (gap : List Char) : List (String × Json) → List Char
  | [] => []
  | (name, v) :: rest =>
    renderText name ++ ':' :: gap ++ renderChars gap v ++
      (if rest.isEmpty then [] else ',' :: gap ++ renderFields gap rest)

end

def render (v : Json) : String :=
  String.ofList (renderChars [' '] v)

def renderCompact (v : Json) : String :=
  String.ofList (renderChars [] v)

def name : Json → String
  | .str s => s
  | v => v.render

mutual

/-- Has the value a text in which every number is a number and every character a whole one? -/
def isStrict : Json → Bool
  | .surrogates _ => false
  | .float x => x.isFinite
  | .arr items => areStrict items
  | .obj fields => areStrictFields fields
  | _ => true

def areStrict : List Json → Bool
  | [] => true
  | v :: rest => isStrict v && areStrict rest

def areStrictFields : List (String × Json) → Bool
  | [] => true
  | (_, v) :: rest => isStrict v && areStrictFields rest

end

end KeepApart.Json
