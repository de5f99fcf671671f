import KeepApart.Http.LogFile
import KeepApart.Settings
import KeepApart.Text.Word

/-!
# Starting the service

The service starts from its settings: it opens its logs, sets up monitoring and storage, and makes its
parts. Before that, no part of it can be used. What storage holds is let go at the end.
-/

namespace KeepApart.Http

inductive Part where
  | records | sync | merge
  deriving DecidableEq, Repr

def Part.notStarted : Part → Fault
  | records => .failure ("Non-association service not configured. "
      ++ "Call configure_non_association_service() first.")
  | sync => .failure "Sync service not configured. Call configure_sync_service() first."
  | merge => .failure "Merge service not configured. Call configure_merge_service() first."

/-- A log for operators. A file is shown by its path when it lies below the working directory. -/
inductive LogHandler where
  | console
  | file (path? : Option String)
  deriving DecidableEq, Repr

structure Started where
  settings : Settings
  handlers : List LogHandler
  level : String

namespace Started

/-- The letters of conversions: small and capital ones, the percent sign, and the letters that become one
of them when case is passed over. -/
def conversionLetters : List Char :=
  "diouxefgcrsaDIOUXEFGCRSA%\u017f\u0130\u0131".toList

/-- Does the rest of a conversion follow its closing bracket: flags, width, precision and a letter? -/
def isConversionEnd (cs : List Char) : Bool :=
  let skipSize (cs : List Char) : List Char :=
    if cs.head? == some '*' then cs.drop 1
    else cs.dropWhile fun c => (Text.decimalDigit? c).isSome
  let cs := skipSize (cs.dropWhile "#0+ -".toList.contains)
  let behindPoint := skipSize (cs.drop 1)
  let cs := if cs.head? == some '.' && behindPoint.length + 1 < cs.length then behindPoint else cs
  cs.head?.any conversionLetters.contains

def isConversion : List Char → Bool
  | '%' :: '(' :: cs =>
    let name := cs.takeWhile Text.isWordChar
    let rest := cs.drop name.length
    !name.isEmpty && rest.head? == some ')' && isConversionEnd (rest.drop 1)
  | _ => false

def hasConversion : List Char → Bool
  | [] => false
  | c :: cs => isConversion (c :: cs) || hasConversion cs

/-- A layout of log lines must convert some item; an empty one stands for the usual layout. -/
def checkFormat (format : Json) : Except Fault Unit :=
  if format.isNothing then .ok ()
  else
    match format with
    | .str s => if hasConversion s.toList then .ok () else .error (.badLayout s)
    | _ => .error .wrongType

def logHandlers (s : Settings) : Except Fault (List LogHandler) := do
  let console := if (s.value .logToConsole).isNothing then [] else [LogHandler.console]
  let file := s.value .logFile
  let files ←
    if file.isNothing then pure []
    else
      match file with
      | .str path => pure [LogHandler.file (← LogFile.locate path)]
      | _ => throw .wrongType
  let handlers := console ++ files
  return if handlers.isEmpty then [.console] else handlers

def checkAddress (address : Yaml.Value) : Except Fault Unit :=
  match address with
  | .str _ | .surrogates _ => .ok ()
  | .octets _ => .error .wrongType
  | _ => .error .wrongShape

def start (source : SettingsSource) : Except Fault Started := do
  let settings ← Settings.load source
  let handlers ← logHandlers settings
  checkFormat (settings.value .logFormat)
  checkAddress (settings.held .searchUrl)
  return ⟨settings, handlers, (settings.value .logLevel).display⟩

def logFiles (s : Started) : List String :=
  s.handlers.filterMap fun
    | .console => none
    | .file path? => path?

end Started

end KeepApart.Http
