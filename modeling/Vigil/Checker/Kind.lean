import Vigil.Text.Digits

/-!
Kinds of checks: the name under which services ask for one, and the arguments it takes.
-/

namespace Vigil.Checker

structure Kind where
  name : String
  description : String
  /-- Whether it can reach IPv6 addresses. -/
  ipv6 : Bool
  defaultPort : UInt16
  required : List String
  /-- Names with the values that count if they are missing; an empty value is none. -/
  optional : List (String × String)
deriving DecidableEq, Repr

def nameColumn : Nat := 8

def margin : String := String.ofList (List.replicate (nameColumn + 1) ' ')

def optionalText (p : String × String) : String :=
  if p.2 == "" then p.1 else p.1 ++ "=" ++ p.2

def Kind.listing (k : Kind) : String :=
  String.ofList (k.name.toList.rightpad nameColumn ' ') ++ " " ++ k.description ++ "\n" ++
    (if k.required.isEmpty then ""
     else margin ++ "required: " ++ String.intercalate ", " k.required ++ "\n") ++
    (if k.optional.isEmpty then ""
     else margin ++ "optional: " ++ String.intercalate ", " (k.optional.map optionalText) ++
       "\n") ++
    (if k.ipv6 then "" else margin ++ "IPv4 only\n")

end Vigil.Checker
