import Vigil.Checker.Argument
import Vigil.Checker.Kind
import Vigil.Net.Endpoint
import Vigil.Service.Verdict

/-!
Checks that an SSH server identifies itself. An identification is `SSH-`, the version of the
protocol, a dash, the software, and perhaps a comment behind a blank.
-/

namespace Vigil.Checker

open Vigil.Clock Vigil.Net Vigil.Text

structure SshCheck where
  endpoint : Endpoint
  timeout : Duration
deriving DecidableEq, Repr

namespace SshCheck

def kind : Kind :=
  ⟨"ssh", "Reads the SSH identification banner and reports the server version", true, 22, [],
    [("port", "22"), ("timeout", "")]⟩

def ofService (s : Service) (default : Duration) : Except CheckFailure SshCheck := do
  let port ← match s.argument? "port" with
    | some value => portArgument value
    | none => .ok kind.defaultPort
  let timeout ← timeoutOf s default
  return ⟨⟨s.address, port⟩, timeout⟩

def mark : List Char := ['S', 'S', 'H', '-']

def afterSecondDash? (s : List Char) : Option (List Char) :=
  match (s.dropWhile (· != '-')).drop 1 |>.dropWhile (· != '-') with
  | [] => none
  | _ :: rest => some rest

def software? (banner : List Char) : Option (List Char) := (afterSecondDash? banner).bind firstWord?

/-- The verdict on the line that a server sends first. -/
def verdict (line : String) : Except CheckFailure Verdict :=
  let banner := trimRight line.toList
  let text := String.ofList banner
  if !mark.isPrefixOf banner then .ok (.down ("unexpected banner: " ++ quoted text))
  else match software? banner with
    | some version => .ok ((Verdict.up text).withVersion (some (String.ofList version)))
    | none => .error (.protocol ("malformed identification: " ++ text))

end SshCheck

end Vigil.Checker
