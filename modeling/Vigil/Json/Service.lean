import Vigil.Clock.Timestamp
import Vigil.Json.Reader
import Vigil.Json.Record
import Vigil.Service.Event

/-!
Services and events as they are read from JSON.
-/

namespace Vigil

open Vigil.Clock

/-- A status: its word, or an object with that word and null. -/
def Status.ofJson? (j : Json) : Option Status :=
  match j.text? with
  | some s => ofText? s
  | none => match j.variant? with
    | some (s, .null) => ofText? s
    | _ => none

namespace Service

def fieldNames : List String :=
  ["id", "netbox_id", "device_id", "ip", "sysname", "handler", "args", "status",
    "version", "active"]

def ofJson? (j : Json) : Option Service := do
  match ← j.fields? fieldNames with
  | [id, netbox, device, address, host, kind, arguments, status, version, active] =>
    some {
      id := ← (← id).integer?
      netbox := ← (← netbox).integer?
      device := ← Json.optional? Json.integer? device
      address := ← Net.Address.read? (← (← address).text?).toList
      host := ← (← host).text?
      kind := ← (← kind).text?
      arguments := .ofList (← (← arguments).texts?)
      status := ← Status.ofJson? (← status)
      version := ← Json.optional? Json.text? version
      active := ← (← active).bool? }
  | _ => none

def read? (s : String) : Option Service := (Json.read? s).bind ofJson?

end Service

/-- A change: a variant with one field. -/
def Change.ofJson? (j : Json) : Option Change := do
  let (name, v) ← j.variant?
  if name == "ServiceState" then
    match ← v.fields? ["status"] with
    | [s] => some (.state (← Status.ofJson? (← s)))
    | _ => none
  else if name == "Version" then
    match ← v.fields? ["version"] with
    | [s] => some (.version (← (← s).text?))
    | _ => none
  else none

namespace Event

def fieldNames : List String :=
  ["source", "target", "service_id", "netbox_id", "device_id", "kind", "info", "time"]

def ofJson? (j : Json) : Option Event := do
  match ← j.fields? fieldNames with
  | [source, target, service, netbox, device, kind, info, time] =>
    some {
      source := ← (← source).text?
      target := ← (← target).text?
      service := ← (← service).integer?
      netbox := ← (← netbox).integer?
      device := ← Json.optional? Json.integer? device
      change := ← Change.ofJson? (← kind)
      info := ← (← info).text?
      time := ← Instant.read? (← (← time).text?).toList }
  | _ => none

def read? (s : String) : Option Event := (Json.read? s).bind ofJson?

end Event

end Vigil
