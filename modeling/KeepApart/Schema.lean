import KeepApart.Json.Display
import KeepApart.Vocabulary

/-!
# Checking input

A check reads a value from JSON, or says what is wrong with it. Checks of several fields are made side by
side, so that everything that is wrong is found, in the order in which the fields are checked.
-/

namespace KeepApart.Schema

/-- Something that is wrong with the input. The location leads from the whole to the part. -/
structure Issue where
  location : List String
  message : String
  input : String
  deriving DecidableEq, Repr

inductive Checked (α : Type) where
  | accepted (a : α)
  | refused (issues : List Issue)

abbrev Check (α : Type) := Json → Checked α

namespace Checked

variable {α β : Type}

def map (f : α → β) : Checked α → Checked β
  | accepted a => accepted (f a)
  | refused issues => refused issues

/-- Both outcomes; what is wrong on both sides is kept. -/
def seq (f : Checked (α → β)) (x : Unit → Checked α) : Checked β :=
  match f, x () with
  | accepted f, accepted a => accepted (f a)
  | accepted _, refused issues => refused issues
  | refused issues, accepted _ => refused issues
  | refused issues, refused more => refused (issues ++ more)

instance : Applicative Checked where
  pure := accepted
  map := map
  seq := seq

def andThen (x : Checked α) (next : α → Checked β) : Checked β :=
  match x with
  | accepted a => next a
  | refused issues => refused issues

def under (part : String) : Checked α → Checked α
  | accepted a => accepted a
  | refused issues => refused (issues.map fun i => { i with location := part :: i.location })

def refuse (message : String) (v : Json) : Checked α :=
  refused [⟨[], message, v.display⟩]

end Checked

open Checked

variable {α : Type}

/-! ## Values -/

def nullable (check : Check α) : Check (Option α)
  | .null => accepted none
  | v => (check v).map some

def brokenText : String :=
  "Input should be a valid string, unable to parse raw data as a unicode string"

def text : Check String
  | .str s => accepted s
  | .surrogates codes => refuse brokenText (.surrogates codes)
  | v => refuse "Input should be a valid string" v

def filledText : Check String := fun v =>
  (text v).andThen fun s =>
    if s.isEmpty then refuse "String should have at least 1 character" v else accepted s

def nameLimit : Nat := 60

def name : Check String := fun v =>
  (text v).andThen fun s =>
    if nameLimit < s.length then
      refuse ("String should have at most " ++ toString nameLimit ++ " characters") v
    else filledText v

def object : Check (List (String × Json))
  | .obj fields => accepted fields
  | v => refuse "Input should be a valid dictionary" v

def alternatives : List String → String
  | [] => ""
  | [a] => a
  | [a, b] => a ++ " or " ++ b
  | a :: rest => a ++ ", " ++ alternatives rest

def codeOf (α : Type) [Vocabulary α] : Check α := fun v =>
  match v with
  | .surrogates _ => refuse brokenText v
  | _ =>
    match v.str?.bind (Vocabulary.ofCode? α) with
    | some a => accepted a
    | none =>
      let codes := (Vocabulary.all : List α).map fun a => Text.quote (code a)
      refuse ("Input should be " ++ alternatives codes) v

def items (check : Check α) (n : Nat) : List Json → Checked (List α)
  | [] => accepted []
  | v :: rest => List.cons <$> (check v).under (toString n) <*> items check (n + 1) rest

def listOf (check : Check α) : Check (List α)
  | .arr vs => items check 0 vs
  | v => refuse "Input should be a valid list" v

/-! ## Fields -/

/-- Words that are joined by underscores, joined by capitals instead. -/
def camelCase (name : String) : String :=
  let rec join (capital : Bool) : List Char → List Char
    | [] => []
    | c :: rest =>
      if c == '_' then join true rest
      else (if capital then c.toUpper else c) :: join false rest
  String.ofList (join false name.toList)

/-- The value of a field, under its name in capitals or else under its plain name. -/
def field? (fields : List (String × Json)) (name : String) : Option Json :=
  (Json.lookup? fields (camelCase name)).or (Json.lookup? fields name)

def required (fields : List (String × Json)) (name : String) (check : Check α) : Checked α :=
  match field? fields name with
  | some v => (check v).under (camelCase name)
  | none => refused [⟨[camelCase name], "Field required", (Json.obj fields).display⟩]

def optional (fields : List (String × Json)) (name : String) (check : Check α) (default : α) :
    Checked α :=
  match field? fields name with
  | some v => (check v).under (camelCase name)
  | none => accepted default

example : camelCase "first_prisoner_number" = "firstPrisonerNumber" := by decide

end KeepApart.Schema
