import KeepApart.Decimal.Shortest
import KeepApart.Json
import KeepApart.Text.Quoted

/-!
# Values inside messages

How a value is shown when it is part of a message: texts inside lists and objects are quoted, a text
on its own is not.
-/

namespace KeepApart.Json

/-- Numbers with a fraction are positional from 10^-4 up to 10^16, otherwise with a signed exponent of
two digits. -/
def floatLayout : Decimal.Layout where
  plainFrom := -4
  plainBelow := 16
  exponentWidth := 2
  nan := "nan"
  infinity := "inf"

def bracketed (left right : String) (items : List String) : String :=
  left ++ ", ".intercalate items ++ right

/-- A text with halves of surrogate pairs, which are unprintable, between quotes. -/
def quotedCodes (codes : List Nat) : String :=
  let mark := Text.quoteMark (codes.map Char.ofNat)
  let char (code : Nat) : List Char :=
    if isSurrogate code then '\\' :: 'u' :: Text.hex 4 code else Text.quoteChar mark (Char.ofNat code)
  String.ofList (mark :: codes.flatMap char ++ [mark])

mutual

def quoted : Json → String
  | .null => "None"
  | .bool b => if b then "True" else "False"
  | .int n => toString n
  | .float x => floatLayout.float x
  | .str s => Text.quote s
  | .surrogates codes => quotedCodes codes
  | .arr items => bracketed "[" "]" (quotedItems items)
  | .obj fields => bracketed "\x7b" "\x7d" (quotedFields fields)

def quotedItems : List Json → List String
  | [] => []
  | v :: rest => quoted v :: quotedItems rest

def quotedFields : List (String × Json) → List String
  | [] => []
  | (name, v) :: rest => (Text.quote name ++ ": " ++ quoted v) :: quotedFields rest

end

def shownChar (code : Nat) : Char :=
  if isSurrogate code then '\uFFFD' else Char.ofNat code

/-- A value on its own. What is no character is shown as U+FFFD. -/
def display : Json → String
  | .str s => s
  | .surrogates codes => String.ofList (codes.map shownChar)
  | v => v.quoted

def quotedTexts (texts : List String) : String :=
  bracketed "[" "]" (texts.map Text.quote)

def displayInt? : Option Int → String
  | some n => toString n
  | none => "None"

end KeepApart.Json
