import Vigil.Text.Blank
import Vigil.Url.Host
import Vigil.Url.Path

/-!
Web addresses, and reading them by the rules of the URL standard.
-/

namespace Vigil

inductive Url.Scheme where
  | http
  | https
deriving DecidableEq, Repr

def Url.Scheme.defaultPort : Url.Scheme → UInt16
  | .http => 80
  | .https => 443

def Url.Scheme.text : Url.Scheme → String
  | .http => "http"
  | .https => "https"

/-- A web address. A port that the scheme implies is left out. -/
structure Url where
  scheme : Url.Scheme
  host : Url.Host
  port : Option UInt16
  path : List (List Char)
  query : Option (List Char)
deriving DecidableEq, Repr

namespace Url

open Vigil.Text

def resource (u : Url) : String := resourceText u.path u.query

def text (u : Url) : String :=
  u.scheme.text ++ "://" ++ u.host.text ++
    (match u.port with
      | some p => ":" ++ decimal p.toNat
      | none => "") ++ u.resource

/-! ### Parts of the text -/

/-- A text without what surrounds it by accident: controls and spaces at its ends, tabs and line
ends anywhere. -/
def cleaned (s : List Char) : List Char :=
  let edge := fun (c : Char) => c.toNat ≤ 0x20
  (dropEndWhile edge (s.dropWhile edge)).filter fun c => !(['\t', '\n', '\r'].contains c)

/-- Whether a character may stand in a scheme, after the first one. -/
def isSchemeChar (c : Char) : Bool := c.isAlphanum || c == '+' || c == '-' || c == '.'

/-- The scheme in lower case and what follows its colon. -/
def splitScheme? (s : List Char) : Option (List Char × List Char) :=
  match s with
  | c :: _ =>
    if c.isAlpha then
      match s.span isSchemeChar with
      | (scheme, ':' :: rest) => some (scheme.map Char.toLower, rest)
      | _ => none
    else none
  | [] => none

/-- The authority at the front of a text, and the rest. In web addresses a backslash ends it too. -/
def splitAuthority (web : Bool) (s : List Char) : List Char × List Char :=
  s.span fun c => !(c == '/' || c == '?' || c == '#' || (web && c == '\\'))

/-- The user of an authority, if one is named, and what follows the last `@`. -/
def splitUser (authority : List Char) : Option (List Char) × List Char :=
  let user := dropEndWhile (· != '@') authority
  if user.isEmpty then (none, authority) else (some user.dropLast, authority.drop user.length)

/-- Split host and port at the first colon outside brackets. -/
def splitPort : (inBrackets : Bool) → List Char → List Char × Option (List Char)
  | _, [] => ([], none)
  | inBrackets, c :: rest =>
    if c == ':' && !inBrackets then ([], some rest)
    else
      let (host, port) := splitPort (c == '[' || (inBrackets && c != ']')) rest
      (c :: host, port)

/-- The number of a port; no digits are no port. -/
def readPort (s : Option (List Char)) : Except Failure (Option UInt16) :=
  match s with
  | none | some [] => .ok none
  | some digits =>
    match readNat? 10 digits with
    | some n => if n ≤ 65535 then .ok (some n.toUInt16) else .error .invalidPort
    | none => .error .invalidPort

def dropSlash : List Char → List Char
  | c :: rest => if isSlash c then rest else c :: rest
  | [] => []

/-- Path and query at the end of an address; a fragment is left out. -/
def readResource (s : List Char) : List (List Char) × Option (List Char) :=
  let s := s.takeWhile (· != '#')
  match s.span (· != '?') with
  | (path, []) => (readPath (dropSlash path), none)
  | (path, _ :: query) => (readPath (dropSlash path), some (percentEncode encodedInQuery query))

/-! ### Addresses -/

/-- What an address says behind its scheme and slashes. -/
structure Location where
  host : Host
  port : Option UInt16
  path : List (List Char)
  query : Option (List Char)

/-- Read what follows the slashes of a web address. The user is not kept. -/
def readLocation (s : List Char) : Except Failure Location := do
  let (authority, rest) := splitAuthority true s
  let (host, port) := splitPort false (splitUser authority).2
  if host.isEmpty then .error .emptyHost
  let host ← Host.read host
  let port ← readPort port
  let (path, query) := readResource rest
  return ⟨host, port, path, query⟩

/-- A web address with a scheme; the port that the scheme implies is dropped. -/
def ofLocation (scheme : Scheme) (l : Location) : Url :=
  ⟨scheme, l.host, l.port.filter (· != scheme.defaultPort), l.path, l.query⟩

/-- Whether the user's part of an authority says anything: it is more than a colon. -/
def namesUser (user : Option (List Char)) : Bool :=
  match user with
  | some u => !(u.isEmpty || u == [':'])
  | none => false

/-- Whether an authority of a scheme that is not known is well formed. Its host may be empty, unless
a user or a port is named. -/
def checkAuthority (s : List Char) : Except Failure Unit := do
  let (authority, rest) := splitAuthority false s
  let (user, location) := splitUser authority
  if user == some [] && location.isEmpty && !rest.isEmpty then .error .emptyHost
  let (host, port) := splitPort false location
  checkOpaqueHost host
  if host.isEmpty && (port.isSome || namesUser user) then .error .emptyHost
  let _ ← readPort (port.map (·.takeWhile (· != '\\')))

/-- Whether the host of a file's address is well formed; it may be missing. -/
def checkFileHost (s : List Char) : Except Failure Unit := do
  match s with
  | a :: b :: rest =>
    if isSlash a && isSlash b then
      let (host, _) := splitAuthority true rest
      if !host.isEmpty && !isDrive host then
        let _ ← Host.read host
  | _ => return

/-- What a text says as an absolute address. -/
inductive Reading where
  | web (url : Url)
  /-- A well-formed address of another scheme. -/
  | foreign (scheme : String)
  /-- There is no scheme. -/
  | relative

/-- Schemes, apart from those of web addresses, whose addresses have the same form. -/
def webLike : List String := ["ftp", "ws", "wss"]

def readAbsolute (s : List Char) : Except Failure Reading :=
  match splitScheme? s with
  | none => .ok .relative
  | some (scheme, rest) =>
    let location := fun (_ : Unit) => readLocation (rest.dropWhile isSlash)
    let name := String.ofList scheme
    if name == Scheme.http.text then (location ()).map fun l => .web (ofLocation .http l)
    else if name == Scheme.https.text then (location ()).map fun l => .web (ofLocation .https l)
    else if webLike.contains name then (location ()).map fun _ => .foreign name
    else if name == "file" then (checkFileHost rest).map fun _ => .foreign name
    else match rest with
      | '/' :: '/' :: rest => (checkAuthority rest).map fun _ => .foreign name
      | _ => .ok (.foreign name)

/-- Read a text without a scheme as it is meant on the root of a host: the path and query it names.
Two slashes in front still bring an authority. -/
def readRelative (s : List Char) : Except Failure (List (List Char) × Option (List Char)) :=
  match s with
  | a :: b :: rest =>
    if isSlash a && isSlash b then
      let location := if a == '/' && b == '/' then rest else rest.dropWhile isSlash
      (readLocation location).map fun l => (l.path, l.query)
    else .ok (readResource s)
  | _ => .ok (readResource s)

end Url

end Vigil
