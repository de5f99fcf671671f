import KeepApart.Text.Percent

/-!
# Targets and addresses

A target says on the wire what a request is for: a path and, behind a question mark, a query. A number
sign ends both. The path is resolved before it is decoded: slashes at the front count as one, an
authority is passed over, and the segments `.` and `..` stand for here and above. The way back is an
address: host, path and query as a client may send them.
-/

namespace KeepApart.Http

namespace Target

/-- What stands behind an authority, which follows two slashes and lasts up to the next. -/
def behindAuthority : List Char → List Char
  | '/' :: '/' :: rest => rest.dropWhile (· != '/')
  | target => target

def parts (target : String) : List Char × Option (List Char) :=
  let cs := target.toList.takeWhile (· != '#')
  match cs.dropWhile (· != '?') with
  | _ :: query => (cs.takeWhile (· != '?'), some query)
  | [] => (cs, none)

/-- Takes one segment further: `.` stays, `..` goes up unless at the top. -/
def resolve (above : List String) (segment : String) : List String :=
  if segment == "." then above
  else if segment == ".." then
    if above == [] || above == [""] then above else above.drop 1
  else segment :: above

def resolved (path : String) : String :=
  "/".intercalate ((Text.splitOn '/' path).foldl resolve []).reverse

/-- The path that a target leads to. It is decoded twice: by the one who passes the request on, and by
the one who receives it. -/
def path (target : String) : String :=
  let raw := '/' :: (behindAuthority (parts target).1).dropWhile (· == '/')
  let encoded := Text.encodeLonePercents (resolved (String.ofList raw)).toList
  let decoded := Text.percentDecode (Text.percentDecode (String.ofList encoded))
  if decoded.isEmpty then "/" else decoded

def pair (text : String) : String × String :=
  let name := text.toList.takeWhile (· != '=')
  let value := (text.toList.dropWhile (· != '=')).drop 1
  (Text.formDecode (String.ofList name), Text.formDecode (String.ofList value))

def query (target : String) : List (String × String) :=
  match (parts target).2 with
  | some cs => ((Text.splitOn '&' (String.ofList cs)).filter (!·.isEmpty)).map pair
  | none => []

end Target

/-- A question or number sign in a path is encoded: bare, it would end the path. -/
def guardedPath (path : String) : String :=
  String.ofList (path.toList.flatMap fun c =>
    if c == '?' then "%3F".toList else if c == '#' then "%23".toList else [c])

def loggedPath (path : String) : String :=
  String.ofList ((guardedPath path).toList.filter fun c => c != '\n' && c != '\r' && c != '\t')

namespace Host

def isNameChar (c : Char) : Bool :=
  c.isAlphanum || "-._~!$&'()*+,;=".toList.contains c

/-- A name: characters that may stand for themselves, and encoded octets. -/
def isName : List Char → Bool
  | [] => true
  | '%' :: h :: l :: rest => (Text.hexOctet? h l).isSome && isName rest
  | c :: rest => isNameChar c && isName rest

def isPort (port : List Char) : Bool :=
  !port.isEmpty && port.all Char.isDigit && port.foldl (fun n c => n * 10 + (c.toNat - 48)) 0 ≤ 65535

def isValid (host : String) : Bool :=
  match host.toList with
  | '[' :: rest =>
    let address := rest.takeWhile (· != ']')
    !address.isEmpty && address.all (fun c => (Text.hexDigitValue? c).isSome || c == ':' || c == '.')
      && isPortOrEnd ((rest.dropWhile (· != ']')).drop 1) && rest.contains ']'
  | cs =>
    let name := cs.takeWhile (· != ':')
    !name.isEmpty && isName name && isPortOrEnd (cs.dropWhile (· != ':'))
where
  isPortOrEnd : List Char → Bool
    | [] => true
    | ':' :: port => isPort port
    | _ => false

end Host

/-- The address of a path. A host that is none gives way to the server's own name. -/
def absoluteAddress (host ownName path : String) (query : List (String × String)) : String :=
  let host := if Host.isValid host then host else ownName
  let pair (p : String × String) : String := Text.formEncode p.1 ++ "=" ++ Text.formEncode p.2
  "http://" ++ host ++ Text.percentEncode ":/%#?=@[]!$&'()*+,;".toList (guardedPath path)
    ++ (if query.isEmpty then "" else "?" ++ "&".intercalate (query.map pair))

end KeepApart.Http
