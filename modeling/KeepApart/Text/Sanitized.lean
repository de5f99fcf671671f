import KeepApart.Text.Blank

/-!
# Sanitised text

User input is flattened onto one line before it is logged, so that it cannot pretend to be a second
entry: control characters become spaces, runs of blanks become one space, both ends are trimmed and
the rest is cut. What is left are the words of the text, joined by single spaces.
-/

namespace KeepApart.Text

def flatten (s : List Char) : List Char :=
  s.map fun c => if isControl c then ' ' else c

/-- A run of blanks becomes one space; `inRun` tells that a run has begun. -/
def collapse (inRun : Bool) : List Char → List Char
  | [] => []
  | c :: rest =>
    if isBlank c then
      if inRun then collapse true rest else ' ' :: collapse true rest
    else c :: collapse false rest

/-- The first `n` elements; a negative `n` counts from the end. -/
def sliceTo (n : Int) (s : List Char) : List Char :=
  if 0 ≤ n then s.take n.toNat else s.take (s.length - n.natAbs)

def sanitizeChars (limit : Int) (s : List Char) : List Char :=
  sliceTo limit (trimChars (collapse false (flatten s)))

def sanitize (limit : Int) (s : String) : String :=
  String.ofList (sanitizeChars limit s.toList)

def sanitizeLimit : Int := 500

def truncationMark : List Char := "...(truncated)".toList

def clipChars (width : Nat) (s : List Char) : List Char :=
  let clean := sanitizeChars sanitizeLimit s
  if width < clean.length then clean.take width ++ truncationMark else clean

/-- Sanitises a text and cuts it to `width` characters; a cut is marked. -/
def clip (width : Nat) (s : String) : String :=
  String.ofList (clipChars width s.toList)

def isSeparator (c : Char) : Bool := isBlank c || isControl c

/-- The words of a text: its maximal runs of characters that are no separators. -/
def words : List Char → List (List Char)
  | [] => []
  | c :: rest =>
    if isSeparator c then words rest
    else
      match rest, words rest with
      | [], _ => [[c]]
      | d :: _, ws =>
        if isSeparator d then [c] :: ws
        else
          match ws with
          | [] => [[c]]
          | w :: ws => (c :: w) :: ws

end KeepApart.Text
