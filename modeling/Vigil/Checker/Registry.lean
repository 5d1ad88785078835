import Vigil.Checker.Basic

/-!
The kinds of checks that services may ask for, by name. Upper and lower case are the same.
-/

namespace Vigil.Checker

open Vigil.Clock

/-- How a kind of check is set up for a service, with a default for the timeout. -/
abbrev Factory := Service → Duration → Except CheckFailure Checker

structure Entry where
  kind : Kind
  factory : Factory

/-- Kinds of checks by their names in lower case. -/
structure Registry where
  entries : Keyed String Entry

instance : Inhabited Registry := ⟨⟨.empty⟩⟩

namespace Registry

def empty : Registry := ⟨.empty⟩

/-- A name in lower case; only ASCII letters have two cases. -/
def key (name : String) : String := String.ofList (name.toList.map Char.toLower)

/-- Take up a kind; one of the same name is replaced. -/
def register (r : Registry) (kind : Kind) (factory : Factory) : Registry :=
  ⟨r.entries.insert (key kind.name) ⟨kind, factory⟩⟩

def builtin : Registry :=
  empty
    |>.register (HttpCheck.kind .http) (fun s d => .http <$> HttpCheck.ofService .http s d)
    |>.register (HttpCheck.kind .https) (fun s d => .http <$> HttpCheck.ofService .https s d)
    |>.register PortCheck.kind (fun s d => .port <$> PortCheck.ofService s d)
    |>.register SshCheck.kind (fun s d => .ssh <$> SshCheck.ofService s d)

def find? (r : Registry) (name : String) : Option Entry := r.entries.get? (key name)

/-- The kinds in the order of their names. -/
def kinds (r : Registry) : List Kind := r.entries.values.map (·.kind)

def listing (r : Registry) : String := String.join (r.kinds.map Kind.listing)

def build (r : Registry) (s : Service) (default : Duration) : Except CheckFailure Checker :=
  match r.find? s.kind with
  | none => .error (.unknownKind s.kind)
  | some entry =>
    if s.address.isV6 && !entry.kind.ipv6 then .error (.ipv6Unsupported entry.kind.name)
    else match entry.kind.required.find? fun name => (s.argument? name).isNone with
      | some missing => .error (.missingArgument missing)
      | none => entry.factory s default

theorem find?_register (r : Registry) (kind : Kind) (factory : Factory) (name : String) :
    (r.register kind factory).find? name =
      if key kind.name = key name then some ⟨kind, factory⟩ else r.find? name :=
  Keyed.get?_insert ..

end Registry

end Vigil.Checker
