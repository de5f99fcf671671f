import KeepApart.Legacy.Sync
import KeepApart.Text.UpperCase
import KeepApart.Yaml.Document

/-!
# Settings

Settings come from a file of named sections. A setting that the file gives has the given value, of
whatever type, and every other setting its default; unknown names are passed over. What is loaded is
then checked: the log level, the name under which the legacy system writes, the patience with the
directory, the thresholds of monitoring and the port.
-/

namespace KeepApart

open Yaml (Value)

inductive Section where
  | database | logging | api | sync | search | monitoring
  deriving DecidableEq, Repr

namespace Section

def name : Section → String
  | database => "database"
  | logging => "logging"
  | api => "api"
  | sync => "sync"
  | search => "prisoner_search"
  | monitoring => "monitoring"

def all : List Section := [database, logging, api, sync, search, monitoring]

end Section

inductive Setting where
  | host | port | user | password | databaseName
  | logLevel | logFile | logToConsole | logFormat
  | title | readsNeedKey
  | systemUser | noComment | noClosureReason | migratedNoComment | syncClosureReason
  | searchUrl | searchTimeout
  | slowThreshold | warningThreshold | exportMetrics
  deriving DecidableEq, Repr

namespace Setting

def all : List Setting :=
  [host, port, user, password, databaseName, logLevel, logFile, logToConsole, logFormat, title,
   readsNeedKey, systemUser, noComment, noClosureReason, migratedNoComment, syncClosureReason,
   searchUrl, searchTimeout, slowThreshold, warningThreshold, exportMetrics]

def home : Setting → Section
  | host | port | user | password | databaseName => .database
  | logLevel | logFile | logToConsole | logFormat => .logging
  | title | readsNeedKey => .api
  | systemUser | noComment | noClosureReason | migratedNoComment | syncClosureReason => .sync
  | searchUrl | searchTimeout => .search
  | slowThreshold | warningThreshold | exportMetrics => .monitoring

def name : Setting → String
  | host => "host"
  | port => "port"
  | user => "user"
  | password => "password"
  | databaseName => "name"
  | logLevel => "level"
  | logFile => "file"
  | logToConsole => "console"
  | logFormat => "format"
  | title => "title"
  | readsNeedKey => "require_api_key_for_reads"
  | systemUser => "system_username"
  | noComment => "no_comment_provided"
  | noClosureReason => "no_closure_reason_provided"
  | migratedNoComment => "migrate_no_comment"
  | syncClosureReason => "sync_closure_reason"
  | searchUrl => "base_url"
  | searchTimeout => "timeout_seconds"
  | slowThreshold => "slow_query_threshold_ms"
  | warningThreshold => "warning_threshold_ms"
  | exportMetrics => "enable_prometheus"

def default : Setting → Value
  | host => .str "localhost"
  | port => .int 5432
  | user | password | databaseName => .str "non_associations"
  | logLevel => .str "INFO"
  | logFile => .str "logs/non_associations.log"
  | logToConsole => .bool true
  | logFormat => .str "%(asctime)s - %(name)s - %(levelname)s - %(message)s"
  | title => .str "Non-Associations API"
  | readsNeedKey => .bool true
  | systemUser => .str "NON_ASSOCIATIONS_API"
  | noComment => .str "No comment provided"
  | noClosureReason => .str "No closure reason provided"
  | migratedNoComment => .str "NO COMMENT"
  | syncClosureReason => .str "UNDEFINED"
  | searchUrl => .str "http://localhost:8081"
  | searchTimeout => .float 10
  | slowThreshold => .float 1000
  | warningThreshold => .float 500
  | exportMetrics => .bool true

/-- Settings that are kept out of an overview. -/
def isShown : Setting → Bool
  | password | logFormat => false
  | _ => true

end Setting

structure Settings where
  held : Setting → Value

inductive SettingsSource where
  | missing
  | content (v : Value)
  | file (text : String)

namespace Settings

def defaults : Settings := ⟨Setting.default⟩

/-- The value of a setting in JSON. -/
def value (s : Settings) (k : Setting) : Json :=
  (s.held k).json

/-! ## Loading -/

def given? (file : Value) (s : Setting) : Option Value :=
  (file.get? s.home.name).bind (·.get? s.name)

/-- The text of a value in upper case. Half of a surrogate pair is its own upper case. -/
def upper : Value → Value
  | .surrogates codes =>
    .surrogates (codes.flatMap fun code =>
      if Json.isSurrogate code then [code] else (Text.upperChar (Char.ofNat code)).map Char.toNat)
  | v => .str (Text.upper v.display)

/-- The value that a setting gets: the log level becomes upper-case text. -/
def loaded (file : Value) (s : Setting) : Value :=
  let v := (given? file s).getD s.default
  if s = .logLevel then upper v else v

def nothing : Value :=
  .mapping none []

def sectionsAreMappings (file : Value) : Bool :=
  Section.all.all fun s => ((file.get? s.name).getD nothing).isMapping

/-- The values that a file gives; a file without content gives none. -/
def ofContent (content : Value) : Except Fault Settings :=
  let file := if content.isNothing then nothing else content
  if !file.isMapping then
    .error (.badSettings "Config file must contain a mapping at the top level")
  else if !sectionsAreMappings file then .error .wrongShape
  else .ok ⟨loaded file⟩

/-! ## Checking -/

def levels : List String := ["DEBUG", "INFO", "WARNING", "ERROR", "CRITICAL"]

/-- The order of a number and zero. Truth values count as one and zero; nothing else can be compared. -/
def compareZero (v : Value) (less : Float → Bool) : Except Fault Bool :=
  match v with
  | .int n => .ok (less (if n < 0 then -1 else if n == 0 then 0 else 1))
  | .bool b => .ok (less (if b then 1 else 0))
  | .float x => .ok (less x)
  | _ => .error .wrongType

def length (v : Value) : Except Fault Nat :=
  match v with
  | .str s => .ok s.length
  | .surrogates codes => .ok codes.length
  | .octets bytes => .ok bytes.length
  | .list _ items | .set items => .ok items.length
  | .pair .. => .ok 2
  | .mapping _ fields => .ok fields.length
  | _ => .error .wrongType

def isPort : Value → Bool
  | .int n => 0 < n && n < 65536
  | .bool b => b
  | _ => false

def refuse {α : Type} (reason : String) : Except Fault α :=
  .error (.badSettings reason)

def checkLevel (level : Value) : Except Fault Unit :=
  if level.str?.any levels.contains then .ok ()
  else refuse ("logging.level must be one of (" ++ ", ".intercalate (levels.map Text.quote)
    ++ "), got " ++ level.quoted)

def userLimit : Nat := 60

def checkUser (user : Value) : Except Fault Unit := do
  if Text.isBlankText user.display then refuse "sync.system_username cannot be empty"
  if userLimit < (← length user) then refuse "sync.system_username cannot exceed 60 characters"

def checkTimeout (timeout : Value) : Except Fault Unit := do
  if ← compareZero timeout (· ≤ 0) then refuse "prisoner_search.timeout_seconds must be positive"

def checkThresholds (slow warning : Value) : Except Fault Unit := do
  let slowIsNegative ← compareZero slow (· < 0)
  let negative ← if slowIsNegative then .ok true else compareZero warning (· < 0)
  if negative then refuse "monitoring thresholds cannot be negative"

def checkPort (port : Value) : Except Fault Unit :=
  if isPort port then .ok () else refuse ("database.port is not a valid port: " ++ port.quoted)

def check (s : Settings) : Except Fault Settings := do
  checkLevel (s.held .logLevel)
  checkUser (s.held .systemUser)
  checkTimeout (s.held .searchTimeout)
  checkThresholds (s.held .slowThreshold) (s.held .warningThreshold)
  checkPort (s.held .port)
  return s

/-- Loads and checks settings. Without a file all settings have their defaults. -/
def load : SettingsSource → Except Fault Settings
  | .missing => .ok defaults
  | .content v => ofContent v >>= check
  | .file text =>
    match Yaml.parse text with
    | .error .malformed => refuse "Invalid YAML in config file"
    | .error (.fault f) => .error f
    | .ok v => ofContent v >>= check

/-! ## Using -/

/-- The settings of each section that are shown, as a file. -/
def overview (s : Settings) : Value :=
  .mapping none (Section.all.map fun c =>
    (.str c.name, .mapping none ((Setting.all.filter fun k => k.home == c && k.isShown).map fun k =>
      (.str k.name, s.held k))))

def toJson (s : Settings) : Json :=
  s.overview.json

def syncDefaults (s : Settings) : SyncDefaults where
  systemUser := s.value .systemUser
  noComment := s.value .noComment
  noClosureReason := s.value .noClosureReason
  migratedNoComment := s.value .migratedNoComment
  syncClosureReason := s.value .syncClosureReason

def readKeyRequired (s : Settings) : Bool :=
  !(s.held .readsNeedKey).isNothing

end Settings

structure SharedSettings where
  current : Option Settings := none
  loads : Nat := 0

namespace SharedSettings

/-- The shared settings; when there are none they are loaded, and a failed load leaves none. -/
def get (shared : SharedSettings) (source : SettingsSource) :
    Except Fault Settings × SharedSettings :=
  match shared.current with
  | some s => (.ok s, shared)
  | none =>
    match Settings.load source with
    | .ok s => (.ok s, ⟨some s, shared.loads + 1⟩)
    | .error f => (.error f, shared)

def reset (shared : SharedSettings) : SharedSettings :=
  { shared with current := none }

end SharedSettings

end KeepApart
