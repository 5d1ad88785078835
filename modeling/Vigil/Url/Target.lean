import Vigil.Url.Basic

/-!
What a check over HTTP asks for: a path and query, and perhaps a host and a port. A text without a
scheme is a path.
-/

namespace Vigil

structure Target where
  host : Option Url.Host
  port : Option UInt16
  path : List (List Char)
  query : Option (List Char)
deriving DecidableEq, Repr

namespace Target

open Vigil.Text

inductive Failure where
  | malformed (e : Url.Failure)
  | unsupportedScheme (scheme : String)
deriving DecidableEq, Repr

def Failure.message : Failure → String
  | malformed e => e.message
  | unsupportedScheme scheme => "unsupported scheme " ++ scheme

def resource (t : Target) : String := Url.resourceText t.path t.query

/-- The text that is read: without blanks around it, and the root for none. -/
def effectiveText (s : String) : String :=
  let t := trimmed s
  if t.isEmpty then "/" else t

def read (s : String) : Except Failure Target :=
  let text := Url.cleaned (effectiveText s).toList
  match Url.readAbsolute text with
  | .error e => .error (.malformed e)
  | .ok (.foreign scheme) => .error (.unsupportedScheme scheme)
  | .ok (.web url) => .ok ⟨some url.host, url.port, url.path, url.query⟩
  | .ok .relative =>
    match Url.readRelative text with
    | .error e => .error (.malformed e)
    | .ok (path, query) => .ok ⟨none, none, path, query⟩

end Target

/-- Read a web address; other addresses are none. -/
def Url.read (s : String) : Except Target.Failure Url :=
  match Url.readAbsolute (Url.cleaned s.toList) with
  | .error e => .error (.malformed e)
  | .ok (.web url) => .ok url
  | .ok (.foreign scheme) => .error (.unsupportedScheme scheme)
  | .ok .relative => .error (.unsupportedScheme "")

end Vigil
