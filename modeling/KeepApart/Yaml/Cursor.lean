import KeepApart.Fault

/-!
# Places in a settings file

A cursor stands somewhere in a file and knows its line and its column, which decide how blocks are
nested. Five kinds of characters break a line; a carriage return and the line feed behind it are one
break. A byte order mark takes no column.
-/

namespace KeepApart.Yaml

inductive Trouble where
  | malformed
  /-- The file is well formed, but a part of it stands for no value. -/
  | fault (f : Fault)

def isBreak (c : Char) : Bool :=
  c == '\n' || c == '\r' || c == '\u0085' || c == '\u2028' || c == '\u2029'

def isBlank (c : Char) : Bool :=
  c == ' ' || c == '\t'

def atGap : List Char → Bool
  | [] => true
  | c :: _ => isBlank c || isBreak c

/-- A place, with the characters from there on. The size of the file bounds the steps of every reader. -/
structure Cursor where
  rest : List Char
  size : Nat
  index : Nat := 0
  line : Nat := 0
  column : Nat := 0

namespace Cursor

def peek? (k : Cursor) : Option Char :=
  k.rest.head?

def atEnd (k : Cursor) : Bool :=
  k.rest.isEmpty

def next (k : Cursor) : Cursor :=
  match k.rest with
  | [] => k
  | c :: cs =>
    let k := { k with rest := cs, index := k.index + 1 }
    if isBreak c && !(c == '\r' && cs.head? == some '\n') then { k with line := k.line + 1, column := 0 }
    else if c == '\ufeff' then k
    else { k with column := k.column + 1 }

def advance : Nat → Cursor → Cursor
  | 0, k => k
  | n + 1, k => advance n k.next

def skip (p : Char → Bool) (k : Cursor) : Cursor :=
  k.advance (k.rest.takeWhile p).length

def take (p : Char → Bool) (k : Cursor) : List Char × Cursor :=
  let taken := k.rest.takeWhile p
  (taken, k.advance taken.length)

/-- The line break that comes next, as it counts in a text, and the place behind it. -/
def lineBreak? (k : Cursor) : Option (Char × Cursor) :=
  match k.rest with
  | '\r' :: '\n' :: _ => some ('\n', k.advance 2)
  | c :: _ =>
    if c == '\u2028' || c == '\u2029' then some (c, k.next)
    else if isBreak c then some ('\n', k.next)
    else none
  | [] => none

def skipComment (k : Cursor) : Cursor :=
  let k := k.skip (· == ' ')
  if k.peek? == some '#' then k.skip fun c => !isBreak c else k

/-- The place behind the end of the line, if only spaces and a comment come before it. -/
def endLine? (k : Cursor) : Option Cursor :=
  let k := k.skipComment
  match k.lineBreak? with
  | some (_, after) => some after
  | none => if k.atEnd then some k else none

def hasMark (k : Cursor) (mark : List Char) : Bool :=
  mark.isPrefixOf k.rest && atGap (k.rest.drop 3)

def startMark : List Char := ['-', '-', '-']

def endMark : List Char := ['.', '.', '.']

def atMark (k : Cursor) : Bool :=
  k.hasMark startMark || k.hasMark endMark

end Cursor

end KeepApart.Yaml
