import KeepApart.Yaml.Cursor

/-!
# Texts in a settings file

A text is plain, in quotes or a block. One line break inside it is a space, and further ones count as
they stand; a block may keep its lines as they are. Escapes can give code points that are no characters,
so a text in quotes is a list of code points. Fuel bounds the number of steps and is taken from the size
of the file.
-/

namespace KeepApart.Yaml

def digits? (base : Nat) (cs : List Char) : Option Nat :=
  if cs.isEmpty then none
  else cs.foldlM (fun n c => do
    let d ← Json.hexValue? c
    if d < base then some (n * base + d) else none) 0

/-- A line break and those of the blank lines behind it, as they count in a text. -/
def folded (first : Char) (others : List Char) : List Char :=
  if first != '\n' then first :: others else if others.isEmpty then [' '] else others

/-! ## Quotes -/

/-- The breaks of blank lines within quotes, which no document mark may follow. -/
def quotedBreaks : (fuel : Nat) → Cursor → Except Trouble (List Char × Cursor)
  | 0, _ => .error .malformed
  | fuel + 1, k =>
    if k.atMark then .error .malformed
    else
      let k := k.skip isBlank
      match k.lineBreak? with
      | some (c, after) => (quotedBreaks fuel after).map fun r => (c :: r.1, r.2)
      | none => .ok ([], k)

/-- Blanks within quotes. Those around a line break are dropped. -/
def quotedGap (k : Cursor) : Except Trouble (List Char × Cursor) :=
  let (blanks, behind) := k.take isBlank
  match behind.lineBreak? with
  | some (c, after) => (quotedBreaks (after.size + 1) after).map fun r => (folded c r.1, r.2)
  | none => .ok (blanks, behind)

def escaped? : Char → Option Char
  | '0' => some '\x00'
  | 'a' => some '\x07'
  | 'b' => some '\x08'
  | 't' => some '\t'
  | '\t' => some '\t'
  | 'n' => some '\n'
  | 'v' => some '\x0b'
  | 'f' => some '\x0c'
  | 'r' => some '\r'
  | 'e' => some '\x1b'
  | ' ' => some ' '
  | '"' => some '"'
  | '/' => some '/'
  | '\\' => some '\\'
  | 'N' => some '\u0085'
  | '_' => some '\u00a0'
  | 'L' => some '\u2028'
  | 'P' => some '\u2029'
  | _ => none

def escapeWidth? : Char → Option Nat
  | 'x' => some 2
  | 'u' => some 4
  | 'U' => some 8
  | _ => none

def codePoint (code : Nat) : Except Trouble Nat :=
  if code ≤ 0x10FFFF then .ok code
  else if code ≤ 0x7FFFFFFF then .error (.fault (.badText "chr() arg not in range(0x110000)"))
  else .error (.fault .overflow)

/-- Reads what follows a backslash in double quotes. A line break and the blanks behind it are dropped. -/
def escape (k : Cursor) : Except Trouble (List Nat × Cursor) :=
  match k.rest with
  | [] => .error .malformed
  | c :: cs =>
    match escaped? c, escapeWidth? c, k.lineBreak? with
    | some e, _, _ => .ok ([e.toNat], k.next)
    | none, some width, _ =>
      match digits? 16 (cs.take width) with
      | some code =>
        if (cs.take width).length < width then .error .malformed
        else (codePoint code).map fun code => ([code], k.advance (width + 1))
      | none => .error .malformed
    | none, none, some (_, after) =>
      (quotedBreaks (after.size + 1) after).map fun r => (r.1.map Char.toNat, r.2)
    | none, none, none => .error .malformed

/-- Reads a text up to its closing quote, and the place behind it. Single quotes know no escape, and a
quote inside them is doubled. -/
def quoted (mark : Char) : (fuel : Nat) → Cursor → Except Trouble (List Nat × Cursor)
  | 0, _ => .error .malformed
  | fuel + 1, k => do
    match k.rest with
    | [] => throw .malformed
    | c :: cs =>
      if c == mark then
        if mark == '\'' && cs.head? == some mark then
          let (more, after) ← quoted mark fuel (k.advance 2)
          return (mark.toNat :: more, after)
        else return ([], k.next)
      else if c == '\\' && mark == '"' then
        let (codes, after) ← escape k.next
        let (more, after) ← quoted mark fuel after
        return (codes ++ more, after)
      else if isBlank c || isBreak c then
        let (gap, after) ← quotedGap k
        let (more, after) ← quoted mark fuel after
        return (gap.map Char.toNat ++ more, after)
      else
        let (more, after) ← quoted mark fuel k.next
        return (c.toNat :: more, after)

/-! ## Plain texts -/

def isFlowMark (c : Char) : Bool :=
  c == ',' || c == '[' || c == ']' || c == '{' || c == '}'

def endsWord (inBrackets : Bool) : List Char → Bool
  | [] => true
  | c :: cs =>
    isBlank c || isBreak c
      || (c == ':' && (atGap cs || (inBrackets && cs.head?.any isFlowMark)))
      || (inBrackets && (isFlowMark c || c == '?'))

def plainWord (inBrackets : Bool) : List Char → List Char
  | [] => []
  | c :: cs => if endsWord inBrackets (c :: cs) then [] else c :: plainWord inBrackets cs

/-- What stands behind a word of a plain text, as it counts when another word follows. -/
structure Gap where
  filling : List Char
  place : Cursor
  breaksLine : Bool

/-- The breaks of blank lines behind a plain text; the flag tells whether a document mark follows. -/
def plainBreaks : (fuel : Nat) → Cursor → List Char × Cursor × Bool
  | 0, k => ([], k, true)
  | fuel + 1, k =>
    if k.atMark then ([], k, true)
    else
      let behind := k.skip (· == ' ')
      match behind.lineBreak? with
      | some (c, after) =>
        let (more, after, atMark) := plainBreaks fuel after
        (c :: more, after, atMark)
      | none => ([], behind, false)

def plainGap (k : Cursor) : Gap :=
  let (spaces, behind) := k.take (· == ' ')
  match behind.lineBreak? with
  | some (c, after) =>
    let (more, after, atMark) := plainBreaks (after.size + 1) after
    ⟨if atMark then [] else folded c more, after, true⟩
  | none => ⟨spaces, behind, false⟩

/-- Reads the words of a plain text behind a gap. Below the first line it goes on while lines are
indented to at least `indent`. -/
def plainWords (inBrackets : Bool) (indent : Int) : (fuel : Nat) → Gap → List Char × Gap
  | 0, gap => ([], gap)
  | fuel + 1, gap =>
    let word := plainWord inBrackets gap.place.rest
    if word.isEmpty then ([], gap)
    else
      let behind := plainGap (gap.place.advance word.length)
      if behind.filling.isEmpty || behind.place.peek? == some '#'
          || (!inBrackets && (behind.place.column : Int) < indent) then (gap.filling ++ word, behind)
      else
        let (more, last) := plainWords inBrackets indent fuel behind
        (gap.filling ++ word ++ more, last)

def plainText (inBrackets : Bool) (indent : Int) (k : Cursor) : List Char × Gap :=
  plainWords inBrackets indent (k.size + 1) ⟨[], k, false⟩

/-! ## Block texts -/

/-- How a block text is written: what is kept of the breaks at its end (one, none or all), and how far it
is indented. -/
structure BlockStyle where
  keepsEnd : Option Bool
  indent : Option Nat

def takeSign (k : Cursor) : Option Bool × Cursor :=
  match k.peek? with
  | some '+' => (some true, k.next)
  | some '-' => (some false, k.next)
  | _ => (none, k)

def takeDigit (k : Cursor) : Option Nat × Cursor :=
  match k.peek? with
  | some c => if Json.isAsciiDigit c then (some (c.toNat - '0'.toNat), k.next) else (none, k)
  | none => (none, k)

def blockStyle (k : Cursor) : Except Trouble (BlockStyle × Cursor) :=
  let (sign, k) := takeSign k
  let (indent, k) := takeDigit k
  let (sign, k) := if sign.isNone then takeSign k else (sign, k)
  if indent == some 0 || k.peek? == some '\t' || !atGap k.rest then .error .malformed
  else
    match k.endLine? with
    | some after => .ok (⟨sign, indent⟩, after)
    | none => .error .malformed

def blockStart : (fuel : Nat) → (indent : Nat) → Cursor → List Char × Nat × Cursor
  | 0, indent, k => ([], indent, k)
  | fuel + 1, indent, k =>
    let behind := k.skip (· == ' ')
    let indent := if indent < behind.column then behind.column else indent
    match behind.lineBreak? with
    | some (c, after) =>
      let (more, indent, after) := blockStart fuel indent after
      (c :: more, indent, after)
    | none => ([], indent, behind)

def blockBreaks (indent : Nat) : (fuel : Nat) → Cursor → List Char × Cursor
  | 0, k => ([], k)
  | fuel + 1, k =>
    let spaces := (k.rest.takeWhile (· == ' ')).length
    let behind := k.advance (min spaces (indent - k.column))
    match behind.lineBreak? with
    | some (c, after) =>
      let (more, after) := blockBreaks indent fuel after
      (c :: more, after)
    | none => ([], behind)

/-- Reads the lines of a block text behind the breaks of blank lines. The result ends with the break of
the last line and the breaks behind it. -/
def blockLines (isFolded : Bool) (indent : Nat) :
    (fuel : Nat) → (breaks : List Char) → Cursor → List Char × List Char × List Char × Cursor
  | 0, breaks, k => ([], [], breaks, k)
  | fuel + 1, breaks, k =>
    if k.column != indent || k.atEnd then ([], [], breaks, k)
    else
      let (line, behind) := k.take fun c => !isBreak c
      let (last, after) := match behind.lineBreak? with
        | some (c, after) => ([c], after)
        | none => ([], behind)
      let (others, after) := blockBreaks indent (after.size + 1) after
      if after.column != indent || after.atEnd then (breaks ++ line, last, others, after)
      else
        let joins := isFolded && last == ['\n'] && !k.peek?.any isBlank && !after.peek?.any isBlank
        let joint := if !joins then last else if others.isEmpty then [' '] else []
        let (more, last, others, after) := blockLines isFolded indent fuel others after
        (breaks ++ line ++ joint ++ more, last, others, after)

/-- Reads a block text behind its mark, within a block at `outer`. -/
def blockText (isFolded : Bool) (outer : Int) (k : Cursor) : Except Trouble (List Char × Cursor) := do
  let (style, k) ← blockStyle k
  let least := (max (outer + 1) 1).toNat
  let fuel := k.size + 1
  let (breaks, indent, k) := match style.indent with
    | some n =>
      let indent := least + n - 1
      let (breaks, k) := blockBreaks indent fuel k
      (breaks, indent, k)
    | none =>
      let (breaks, indent, k) := blockStart fuel 0 k
      (breaks, max least indent, k)
  let (text, last, others, k) := blockLines isFolded indent fuel breaks k
  let ending := if style.keepsEnd == some false then [] else last
  let others := if style.keepsEnd == some true then others else []
  return (text ++ ending ++ others, k)

end KeepApart.Yaml
