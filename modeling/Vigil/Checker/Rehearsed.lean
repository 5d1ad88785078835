import Vigil.Checker.Registry

/-!
Kinds of checks for rehearsals: they contact nobody, and their answers are laid down in advance.
-/

namespace Vigil.Checker

open Vigil.Clock

/-- Set up a rehearsed check. The argument `broken` makes that fail. -/
def rehearsal : Factory := fun s default => do
  if let some text := s.argument? "broken" then throw (.protocol text)
  return .rehearsed (← timeoutOf s default)

/-- A rehearsed kind that reaches every address and needs no arguments. -/
def plainKind : Kind := ⟨"fake", "", true, 0, [], []⟩

/-- A rehearsed kind that reaches IPv4 addresses only and needs a token. -/
def ipv4Kind : Kind := ⟨"fake4", "", false, 0, ["token"], []⟩

def Registry.forRehearsal : Registry :=
  empty |>.register plainKind rehearsal |>.register ipv4Kind rehearsal

end Vigil.Checker
