import KeepApart.Yaml.Text

/-!
# Tokens of a settings file

Tokens are the marks and texts of a file in order. Indentation is made explicit: a block collection has a
token where it starts and one where it ends, and a name in front of a colon has a token before it.
-/

namespace KeepApart.Yaml

/-- The name of a kind of value: a handle, if it has one, and what follows it. -/
structure Tag where
  handle : Option (List Char)
  suffix : List Char

inductive Token where
  | version (major : Nat)
  | handle (name meaning : List Char)
  /-- A directive without effect. -/
  | directive
  | documentStart
  | documentEnd
  | listStart
  | mappingStart
  | blockEnd
  | bracket
  | bracketEnd
  | brace
  | braceEnd
  | hyphen
  | comma
  | key
  | value
  | alias (name : List Char)
  | anchor (name : List Char)
  | tag (t : Tag)
  | text (isPlain : Bool) (codes : List Nat)

end KeepApart.Yaml
