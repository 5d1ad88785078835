import Vigil.Checker.Argument
import Vigil.Checker.Kind
import Vigil.Net.Endpoint
import Vigil.Service.Basic
import Vigil.Service.Verdict
import Vigil.Url.Target

/-!
Checks over HTTP and HTTPS. The request goes to the address of the service, whatever host its URL
names: a name is resolved to that address, and an address in the URL is only sent as the host
wanted.
-/

namespace Vigil.Checker

open Vigil.Clock Vigil.Net

structure HttpCheck where
  url : Url
  /-- The host to ask for if it is not the one in `url`. -/
  hostHeader : Option String
  /-- A name in `url` and where it leads. -/
  resolved : Option (List Char × Endpoint)
  /-- Whether the certificate must be valid. -/
  verify : Bool
  timeout : Duration
deriving DecidableEq, Repr

namespace HttpCheck

def kind : Url.Scheme → Kind
  | .http => ⟨"http", "Fetches a document over HTTP; 2xx and 3xx responses are up", true,
      Url.Scheme.http.defaultPort, [], [("url", "/"), ("port", "80"), ("timeout", "")]⟩
  | .https => ⟨"https", "Fetches a document over HTTPS; 2xx and 3xx responses are up", true,
      Url.Scheme.https.defaultPort, [],
      [("url", "/"), ("port", "443"), ("timeout", ""), ("verify", "false")]⟩

/-- Words that switch an option on. -/
def isTrue (s : String) : Bool := s == "1" || s == "true" || s == "yes"

/-- The host in the URL of the request: a name stays, an address gives way to that of the
service. -/
def requestHost (s : Service) (t : Target) : Url.Host :=
  match t.host with
  | some (.name n) => .name n
  | _ => .ofAddress s.address

def requestText (scheme : Url.Scheme) (s : Service) (t : Target) (port : UInt16) : String :=
  scheme.text ++ "://" ++ (requestHost s t).text ++ ":" ++ Text.decimal port.toNat ++ t.resource

/-- What the argument `url` asks for; the root if it is missing. -/
def targetOf (s : Service) : Except CheckFailure Target :=
  let value := (s.argument? "url").getD "/"
  (Target.read value).mapError fun e =>
    .invalidArgument "url" (Target.effectiveText value) e.message

/-- The port: that of the argument, else that of the URL, else that of the scheme. -/
def portOf (scheme : Url.Scheme) (s : Service) (t : Target) : Except CheckFailure UInt16 :=
  match s.argument? "port" with
  | some value => portArgument value
  | none => .ok (t.port.getD scheme.defaultPort)

/-- Set up a check. Of several faults that of the URL is told first, then that of the port. -/
def ofService (scheme : Url.Scheme) (s : Service) (default : Duration) :
    Except CheckFailure HttpCheck := do
  let target ← targetOf s
  let port ← portOf scheme s target
  let timeout ← timeoutOf s default
  let text := requestText scheme s target port
  let url ← (Url.read text).mapError fun e => .invalidArgument "url" text e.message
  return {
    url
    hostHeader := match target.host with
      | some (.name _) | none => none
      | some literal => some literal.text
    resolved := match target.host with
      | some (.name n) => some (n, ⟨s.address, port⟩)
      | _ => none
    verify := (s.argument? "verify").any isTrue
    timeout }

/-- The verdict on a response: success and redirection are up. -/
def verdict (c : HttpCheck) (code : Nat) (server : Option String) : Verdict :=
  let server := server.map Text.trimmed
  let v :=
    if 200 ≤ code && code < 400 then
      Verdict.up (Text.trimmedRight ("OK (" ++ Text.decimal code ++ ") " ++ server.getD ""))
    else Verdict.down ("ERROR (" ++ Text.decimal code ++ ") " ++ c.url.text)
  v.withVersion server

def notConnected (c : HttpCheck) (cause : Diagnosis) : CheckFailure :=
  .request ("error sending request for url (" ++ c.url.text ++
    "): client error (Connect): tcp connect error: " ++ cause.line)

end HttpCheck

end Vigil.Checker
