import KeepApart.Fault
import KeepApart.Text.Split

/-!
# Files of logs

Where the path of a log leads, from a working directory that is empty at first. The directories on the
way are made; the file must not be one of them.
-/

namespace KeepApart.Http.LogFile

/-- A place as seen from the working directory: the names on the way, the last one first. Names `..` at
the far end lead out of it. -/
abbrev Place := List String

def step (place : Place) (part : String) : Place :=
  if part.isEmpty || part == "." then place
  else if part == ".." then
    match place with
    | [] => [".."]
    | ".." :: _ => ".." :: place
    | _ :: above => above
  else part :: above
where
  above := place

def passed (parts : List String) : List Place :=
  parts.foldl (fun places part => step (places.headD []) part :: places) [[]]

/-- The greatest length of a name and of a path, in octets. -/
def nameLimit : Nat := 255

def pathLimit : Nat := 4095

/-- The name of a file or directory must be of a length that storage takes, and without a NUL, of which
it is said `refusal`. -/
def checkName (refusal name : String) : Except Fault Unit :=
  if name.toList.contains '\x00' then .error (.badText refusal)
  else if nameLimit < name.utf8ByteSize then .error .noFile
  else .ok ()

/-- The path of the file, as far as it lies below the working directory. -/
def shown? (place : Place) : Option String :=
  if place.contains ".." then none else some ("/".intercalate place.reverse)

def locate (path : String) : Except Fault (Option String) := do
  let parts := Text.splitOn '/' path
  let directories := parts.dropLast
  directories.forM (checkName "mkdir: embedded null character in path")
  checkName "embedded null byte" (parts.getLastD "")
  if pathLimit < path.utf8ByteSize then throw .noFile
  let places := passed directories
  let place := step (places.headD []) (parts.getLastD "")
  let isOutside := place.head? == some ".."
  if places.contains place || isOutside then throw .isDirectory
  return if path.toList.head? == some '/' then none else shown? place

end KeepApart.Http.LogFile
