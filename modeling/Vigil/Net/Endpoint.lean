import Vigil.Diagnosis
import Vigil.Net.Address

/-!
Where a connection goes, and how it may fail.
-/

namespace Vigil.Net

structure Endpoint where
  address : Address
  port : UInt16
deriving DecidableEq, Repr

def networkUnreachable : Diagnosis := .ofText "Network is unreachable (os error 101)"

end Vigil.Net
