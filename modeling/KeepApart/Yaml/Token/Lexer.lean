import KeepApart.Yaml.Token

/-!
# From characters to tokens

The lexer keeps a stack of the columns of the open blocks and the number of open brackets. Whether a text
is the name of a field shows only at the colon behind it, which must stand on the same line and within
1024 characters; until then the text is a candidate, of which there is at most one for each depth of
brackets.
-/

namespace KeepApart.Yaml

/-- A place where a name may have started. -/
structure Candidate where
  /-- The number of open brackets. -/
  depth : Nat
  /-- How many tokens come before. -/
  before : Nat
  /-- The text stands where a name has to stand. -/
  isRequired : Bool
  place : Cursor

structure Lexer where
  place : Cursor
  depth : Nat := 0
  /-- The columns of the open blocks, the innermost first. -/
  columns : List Nat := []
  /-- May a name start here? -/
  mayName : Bool := true
  candidates : List Candidate := []
  tokens : Array Token := #[]

namespace Lexer

/-- The column of the innermost block, or -1. -/
def column (s : Lexer) : Int :=
  (s.columns.head?.map Int.ofNat).getD (-1)

def push (s : Lexer) (t : Token) : Lexer :=
  { s with tokens := s.tokens.push t }

def drop (s : Lexer) (stale : Candidate → Bool) : Except Trouble Lexer :=
  if s.candidates.any fun c => stale c && c.isRequired then .error .malformed
  else .ok { s with candidates := s.candidates.filter fun c => !stale c }

def nameLimit : Nat := 1024

def dropStale (s : Lexer) : Except Trouble Lexer :=
  s.drop fun c => c.place.line != s.place.line || nameLimit < s.place.index - c.place.index

def dropHere (s : Lexer) : Except Trouble Lexer :=
  s.drop fun c => c.depth == s.depth

def offer (s : Lexer) : Except Trouble Lexer := do
  if !s.mayName then return s
  let isRequired := s.depth == 0 && s.column == s.place.column
  let s ← s.dropHere
  return { s with candidates := ⟨s.depth, s.tokens.size, isRequired, s.place⟩ :: s.candidates }

def endBlocks (column : Int) : List Nat → Nat × List Nat
  | [] => (0, [])
  | c :: outer =>
    if column < c then
      let (ended, open') := endBlocks column outer
      (ended + 1, open')
    else (0, c :: outer)

def unwind (s : Lexer) (column : Int) : Lexer :=
  if s.depth != 0 then s
  else
    let (ended, columns) := endBlocks column s.columns
    { s with columns, tokens := s.tokens ++ (Array.replicate ended Token.blockEnd) }

/-- Skips blanks, comments and line breaks. A name may start on a new line outside brackets. -/
def skipGap : (fuel : Nat) → Lexer → Lexer
  | 0, s => s
  | fuel + 1, s =>
    let place := s.place.skipComment
    match place.lineBreak? with
    | some (_, after) => skipGap fuel { s with place := after, mayName := s.mayName || s.depth == 0 }
    | none => { s with place }

def move (s : Lexer) (count : Nat) (t : Token) : Lexer :=
  { s with place := s.place.advance count }.push t

/-! ## Marks -/

/-- The mark of the start or the end of a document, which ends all blocks. -/
def documentMark (s : Lexer) (t : Token) : Except Trouble Lexer := do
  let s ← (s.unwind (-1)).dropHere
  return { s.move 3 t with mayName := false }

def openBracket (s : Lexer) (t : Token) : Except Trouble Lexer := do
  let s ← s.offer
  return { s.move 1 t with depth := s.depth + 1, mayName := true }

def closeBracket (s : Lexer) (t : Token) : Except Trouble Lexer := do
  let s ← s.dropHere
  if s.depth == 0 then throw .malformed
  return { s.move 1 t with depth := s.depth - 1, mayName := false }

def comma (s : Lexer) : Except Trouble Lexer := do
  let s ← s.dropHere
  return { s.move 1 .comma with mayName := true }

/-- Opens a block at a column, unless one is open there: its token comes after `before` others. -/
def openBlock (s : Lexer) (column before : Nat) (t : Token) : Lexer :=
  if s.column < column then
    { s with columns := column :: s.columns, tokens := s.tokens.insertIdxIfInBounds before t }
  else s

/-- The hyphen of a list item, which starts a list where none is open. -/
def hyphen (s : Lexer) : Except Trouble Lexer := do
  if s.depth == 0 && !s.mayName then throw .malformed
  let s := if s.depth == 0 then s.openBlock s.place.column s.tokens.size .listStart else s
  let s ← s.dropHere
  return { s.move 1 .hyphen with mayName := true }

def question (s : Lexer) : Except Trouble Lexer := do
  if s.depth == 0 && !s.mayName then throw .malformed
  let s := if s.depth == 0 then s.openBlock s.place.column s.tokens.size .mappingStart else s
  let s ← s.dropHere
  return { s.move 1 .key with mayName := s.depth == 0 }

/-- A colon. The candidate at this depth becomes a name; without one the name is empty, or follows a
question mark. -/
def colon (s : Lexer) : Except Trouble Lexer := do
  match s.candidates.find? fun c => c.depth == s.depth with
  | some c =>
    let s := { s with
      candidates := s.candidates.filter fun c => c.depth != s.depth
      tokens := s.tokens.insertIdxIfInBounds c.before .key
      mayName := false }
    let s := if s.depth == 0 then s.openBlock c.place.column c.before .mappingStart else s
    return s.move 1 .value
  | none =>
    if s.depth == 0 && !s.mayName then throw .malformed
    let s := if s.depth == 0 then s.openBlock s.place.column s.tokens.size .mappingStart else s
    return { s.move 1 .value with mayName := s.depth == 0 }

/-! ## Names of anchors and tags -/

def isNameChar (c : Char) : Bool :=
  Json.isAsciiDigit c || ('A' ≤ c && c ≤ 'Z') || ('a' ≤ c && c ≤ 'z') || c == '-' || c == '_'

def endsAnchor : List Char → Bool
  | [] => true
  | c :: cs => atGap (c :: cs) || "?:,]\x7d%@\x60".toList.contains c

def atSpace (k : Cursor) : Bool :=
  atGap k.rest && k.peek? != some '\t'

def anchor (s : Lexer) (token : List Char → Token) : Except Trouble Lexer := do
  let s ← s.offer
  let (name, after) := s.place.next.take isNameChar
  if name.isEmpty || !endsAnchor after.rest then throw .malformed
  return { s with place := after, mayName := false }.push (token name)

def isTagChar (c : Char) : Bool :=
  isNameChar c || ";/?:@&=+$,.!~*'()[]".toList.contains c

def octets : (fuel : Nat) → Cursor → Except Trouble (List UInt8 × Cursor)
  | 0, _ => .error .malformed
  | fuel + 1, k =>
    if k.peek? != some '%' then .ok ([], k)
    else
      let digits := (k.rest.drop 1).take 2
      match digits? 16 digits with
      | some octet =>
        if digits.length < 2 then .error .malformed
        else (octets fuel (k.advance 3)).map fun r => (octet.toUInt8 :: r.1, r.2)
      | none => .error .malformed

def tagWords : (fuel : Nat) → Cursor → Except Trouble (List Char × Cursor)
  | 0, _ => .error .malformed
  | fuel + 1, k => do
    let (taken, k) := k.take isTagChar
    if k.peek? != some '%' then return (taken, k)
    let (escaped, k) ← octets (k.size + 1) k
    let some text := String.fromUTF8? ⟨escaped.toArray⟩ | throw .malformed
    let (more, k) ← tagWords fuel k
    return (taken ++ text.toList ++ more, k)

def tagSuffix (k : Cursor) : Except Trouble (List Char × Cursor) := do
  let (suffix, after) ← tagWords (k.size + 1) k
  if suffix.isEmpty then throw .malformed else return (suffix, after)

def readTag (k : Cursor) : Except Trouble (Tag × Cursor) := do
  if k.peek? == some '<' then
    let (suffix, after) ← tagSuffix k.next
    if after.peek? == some '>' then return (⟨none, suffix⟩, after.next) else throw .malformed
  else if atGap k.rest then return (⟨none, ['!']⟩, k)
  else if (k.rest.takeWhile fun c => c != ' ' && !isBreak c).contains '!' then
    let (name, after) := k.take isNameChar
    if after.peek? != some '!' then throw .malformed
    let (suffix, after) ← tagSuffix after.next
    return (⟨some ('!' :: name ++ ['!']), suffix⟩, after)
  else
    let (suffix, after) ← tagSuffix k
    return (⟨some ['!'], suffix⟩, after)

def tag (s : Lexer) : Except Trouble Lexer := do
  let s ← s.offer
  let (t, after) ← readTag s.place.next
  if !atSpace after then throw .malformed
  return { s with place := after, mayName := false }.push (.tag t)

/-! ## Directives -/

def readVersion (k : Cursor) : Except Trouble (Token × Cursor) := do
  let (major, k) := (k.skip (· == ' ')).take Json.isAsciiDigit
  if major.isEmpty || k.peek? != some '.' then throw .malformed
  let (minor, k) := k.next.take Json.isAsciiDigit
  if minor.isEmpty || !atSpace k then throw .malformed
  return (.version (Json.digitsValue major), k)

def readHandle (k : Cursor) : Except Trouble (Token × Cursor) := do
  let k := k.skip (· == ' ')
  if k.peek? != some '!' then throw .malformed
  let (name, after) := k.next.take isNameChar
  let (name, after) ← match after.peek? with
    | some '!' => pure ('!' :: name ++ ['!'], after.next)
    | _ => if name.isEmpty then pure (['!'], after) else throw .malformed
  if after.peek? != some ' ' then throw .malformed
  let (meaning, after) ← tagSuffix (after.skip (· == ' '))
  if !atSpace after then throw .malformed
  return (.handle name meaning, after)

def directive (s : Lexer) : Except Trouble Lexer := do
  let s ← (s.unwind (-1)).dropHere
  let (name, after) := s.place.next.take isNameChar
  if name.isEmpty || !atSpace after then throw .malformed
  let (t, after) ←
    if name == ['Y', 'A', 'M', 'L'] then readVersion after
    else if name == ['T', 'A', 'G'] then readHandle after
    else pure (.directive, after.skip fun c => !isBreak c)
  let some after := after.endLine? | throw .malformed
  return { s with place := after, mayName := false }.push t

/-! ## Texts -/

def quotedText (s : Lexer) (mark : Char) : Except Trouble Lexer := do
  let s ← s.offer
  let k := s.place.next
  let (codes, after) ← quoted mark (k.size + 1) k
  return { s with place := after, mayName := false }.push (.text false codes)

def plainToken (s : Lexer) : Except Trouble Lexer := do
  let s ← s.offer
  let (text, last) := plainText (s.depth != 0) (s.column + 1) s.place
  return { s with place := last.place, mayName := last.breaksLine }.push
    (.text true (text.map Char.toNat))

def blockToken (s : Lexer) (isFolded : Bool) : Except Trouble Lexer := do
  let s ← s.dropHere
  let (text, after) ← blockText isFolded s.column s.place.next
  return { s with place := after, mayName := true }.push (.text false (text.map Char.toNat))

/-- May a plain text start with `c` in front of `cs`? -/
def startsPlain (inBrackets : Bool) (c : Char) (cs : List Char) : Bool :=
  if c == '-' then !atGap cs
  else if c == '?' || c == ':' then !inBrackets && !atGap cs
  else !(isBlank c || isBreak c || isFlowMark c || "#&*!|>'\"%@\x60".toList.contains c)

/-! ## Running -/

def lex (s : Lexer) (c : Char) (cs : List Char) : Except Trouble Lexer :=
  let inBrackets := s.depth != 0
  let isFirst := s.place.column == 0
  let isMark := inBrackets || atGap cs
  if c == '%' && isFirst then s.directive
  else if isFirst && s.place.hasMark Cursor.startMark then s.documentMark .documentStart
  else if isFirst && s.place.hasMark Cursor.endMark then s.documentMark .documentEnd
  else
    match c with
    | '[' => s.openBracket .bracket
    | '{' => s.openBracket .brace
    | ']' => s.closeBracket .bracketEnd
    | '}' => s.closeBracket .braceEnd
    | ',' => s.comma
    | '*' => s.anchor .alias
    | '&' => s.anchor .anchor
    | '!' => s.tag
    | '\'' => s.quotedText '\''
    | '"' => s.quotedText '"'
    | _ =>
      if c == '-' && atGap cs then s.hyphen
      else if c == '?' && isMark then s.question
      else if c == ':' && isMark then s.colon
      else if c == '|' && !inBrackets then s.blockToken false
      else if c == '>' && !inBrackets then s.blockToken true
      else if startsPlain inBrackets c cs then s.plainToken
      else .error .malformed

def run : (fuel : Nat) → Lexer → Except Trouble Lexer
  | 0, _ => .error .malformed
  | fuel + 1, s => do
    let s ← (skipGap (s.place.size + 1) s).dropStale
    let s := s.unwind s.place.column
    match s.place.rest with
    | [] => (s.unwind (-1)).dropHere
    | c :: cs => run fuel (← s.lex c cs)

end Lexer

def isFileChar (c : Char) : Bool :=
  c == '\t' || c == '\n' || c == '\r' || c == '\u0085' || (' ' ≤ c && c ≤ '~')
    || ('\u00a0' ≤ c && c != '\ufffe' && c != '\uffff')

/-- The tokens of a file. A byte order mark in front is skipped. -/
def tokens (s : String) : Except Trouble (List Token) := do
  if !s.toList.all isFileChar then throw .malformed
  let start : Cursor := { rest := s.toList, size := s.length }
  let place := if start.peek? == some '\ufeff' then start.next else start
  let done ← Lexer.run (start.size + 2) { place }
  return done.tokens.toList

end KeepApart.Yaml
