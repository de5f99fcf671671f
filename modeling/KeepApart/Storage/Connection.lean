import KeepApart.Fault
import KeepApart.Text.Numeral

/-!
# Connecting to storage

How to connect is read from environment variables, each with a default. Connecting is tried up to three
times with growing pauses, as long as storage is not available; any other failure ends it at once.
-/

namespace KeepApart.Storage

abbrev Environment := String → Option String

structure ConnectionSettings where
  host : String := "localhost"
  port : Int := 5432
  database : String := "non_associations"
  user : String := "non_associations"
  password : String := "non_associations"
  poolSize : Int := 5
  maxOverflow : Int := 10
  poolTimeout : Int := 30
  poolRecycle : Int := 1800
  echo : Bool := false
  deriving DecidableEq, Repr

namespace ConnectionSettings

def number (env : Environment) (name : String) (default : Int) : Except Fault Int :=
  match env name with
  | none => .ok default
  | some text =>
    match Text.integer text with
    | .ok n => .ok n
    | .error .malformed => .error (.badInteger text)
    | .error (.tooLong digits) => .error (.longInteger digits)

def isTrueWord (text : String) : Bool :=
  text.toList.map Char.toLower == "true".toList

def ofEnvironment (env : Environment) : Except Fault ConnectionSettings := do
  let d : ConnectionSettings := {}
  let host := (env "DB_HOST").getD d.host
  let port ← number env "DB_PORT" d.port
  let database := (env "DB_NAME").getD d.database
  let user := (env "DB_USER").getD d.user
  let password := (env "DB_PASSWORD").getD d.password
  let poolSize ← number env "DB_POOL_SIZE" d.poolSize
  let maxOverflow ← number env "DB_MAX_OVERFLOW" d.maxOverflow
  let poolTimeout ← number env "DB_POOL_TIMEOUT" d.poolTimeout
  let poolRecycle ← number env "DB_POOL_RECYCLE" d.poolRecycle
  let echo := (env "DB_ECHO").any isTrueWord
  return { host, port, database, user, password, poolSize, maxOverflow, poolTimeout, poolRecycle, echo }

/-- The address of storage: the one that is given whole, or one made of the parts. -/
def url (s : ConnectionSettings) (env : Environment) : String :=
  let parts := "postgresql+psycopg2://" ++ s.user ++ ":" ++ s.password ++ "@" ++ s.host ++ ":"
    ++ toString s.port ++ "/" ++ s.database
  match env "DATABASE_URL" with
  | some whole => if whole.isEmpty then parts else whole
  | none => parts

end ConnectionSettings

inductive Attempt where
  | connected
  /-- Storage is not available, perhaps not yet. -/
  | unavailable
  | failed (message : String)
  deriving DecidableEq, Repr

/-- What came of connecting: how often it was tried and how long it waited before each further try. -/
structure Connecting where
  result : Except Fault Unit
  attempts : Nat
  pauses : List Nat

def maxAttempts : Nat := 3

/-- The pause in seconds after the attempt with this number, counted from one. -/
def pauseAfter (attempt : Nat) : Nat :=
  min 10 (max 1 (Nat.pow 2 (attempt - 1)))

/-- Tries to connect; `left` attempts are left and `done` have failed. An attempt of which nothing is
known succeeds. -/
def connectFrom (done : Nat) (outcomes : List Attempt) : (left : Nat) → Connecting
  | 0 => ⟨.error .noStorage, done, []⟩
  | left + 1 =>
    match outcomes.head?.getD .connected with
    | .connected => ⟨.ok (), done + 1, []⟩
    | .failed message => ⟨.error (.failure message), done + 1, []⟩
    | .unavailable =>
      if left = 0 then ⟨.error .noStorage, done + 1, []⟩
      else
        let rest := connectFrom (done + 1) outcomes.tail left
        { rest with pauses := pauseAfter (done + 1) :: rest.pauses }

def connect (outcomes : List Attempt) : Connecting :=
  connectFrom 0 outcomes maxAttempts

end KeepApart.Storage
