import Vigil.Checker.Http
import Vigil.Proofs.Url.Target

/-!
Where the request of a check over HTTP goes.
-/

namespace Vigil.Checker.HttpCheck

open Vigil.Clock Vigil.Net Vigil.Url

def port (c : HttpCheck) : UInt16 := c.url.port.getD c.url.scheme.defaultPort

section Request

variable {scheme : Scheme} {s : Service} {default : Duration} {t : Target} {c : HttpCheck}

theorem targetOf_eq_ok : targetOf s = .ok t ↔
    Target.read ((s.argument? "url").getD "/") = .ok t := by
  simp only [targetOf, mapError_eq_ok]

theorem isHostText_requestHost (h : targetOf s = .ok t) :
    IsHostText (requestHost s t).text.toList := by
  unfold requestHost
  split
  · rename_i name named
    obtain ⟨text, read⟩ := Target.exists_host_of_read (targetOf_eq_ok.mp h) named
    simpa [Host.text] using isHostText_of_read read
  · exact isHostText_address s.address

/-- What a check is made of, if its parts can be read. -/
theorem ofService_eq_ok : ofService scheme s default = .ok c ↔
    ∃ t port timeout host, targetOf s = .ok t ∧ portOf scheme s t = .ok port ∧
    timeoutOf s default = .ok timeout ∧
      Host.read (requestHost s t).text.toList = .ok host ∧
      c = {
        url := ofLocation scheme ⟨host, some port, t.path, t.query⟩
        hostHeader := match t.host with
          | some (.name _) | none => none
          | some literal => some literal.text
        resolved := match t.host with
          | some (.name n) => some (n, ⟨s.address, port⟩)
          | _ => none
        verify := (s.argument? "verify").any isTrue
        timeout } := by
  have rereads : ∀ {t : Target}, targetOf s = .ok t → ∀ (port : UInt16) (url : Url),
      Url.read (requestText scheme s t port) = .ok url ↔
        ∃ host, Host.read (requestHost s t).text.toList = .ok host ∧
          url = ofLocation scheme ⟨host, some port, t.path, t.query⟩ := fun target port url =>
    read_fullText (isHostText_requestHost target)
      (Target.settled_of_read (targetOf_eq_ok.mp target)) url
  simp only [ofService, bind_eq_ok, mapError_eq_ok]
  constructor
  · rintro ⟨t, target, port, ported, timeout, timed, url, read, made⟩
    obtain ⟨host, found, rfl⟩ := (rereads target port url).mp read
    cases made
    exact ⟨t, port, timeout, host, target, ported, timed, found, rfl⟩
  · rintro ⟨t, port, timeout, host, target, ported, timed, read, rfl⟩
    exact ⟨t, target, port, ported, timeout, timed, _,
      (rereads target port _).mpr ⟨host, read, rfl⟩, rfl⟩

theorem port_of_ofLocation {host : Host} {port : UInt16} {path : List (List Char)}
    {query : Option (List Char)} {hostHeader : Option String}
    {resolved : Option (List Char × Endpoint)} {verify : Bool} {timeout : Duration} :
    HttpCheck.port ⟨ofLocation scheme ⟨host, some port, path, query⟩, hostHeader, resolved, verify,
      timeout⟩ = port := by
  by_cases same : port = scheme.defaultPort <;>
    simp [HttpCheck.port, ofLocation, Option.filter, same]

theorem portOf_of_unset (unset : s.argument? "port" = none) :
    portOf scheme s t = .ok (t.port.getD scheme.defaultPort) := by
  rw [portOf, unset]

theorem target_of_told {asked : Scheme} {l : Location}
    (told : Says (Target.spelled ((s.argument? "url").getD "/")) asked l) :
    targetOf s = .ok ⟨some l.host, l.port.filter (· != asked.defaultPort), l.path, l.query⟩ :=
  targetOf_eq_ok.mpr (Target.read_eq_ok.mpr (.inl ⟨asked, l, told, rfl⟩))

/-- Without an argument for it a check connects to the port that its URL names, unless this is the
one that the URL's scheme implies and the check has another scheme: then, and if the URL names no
port, it connects to the port that its own scheme implies. -/
theorem port_of_unset {asked : Scheme} {l : Location} (unset : s.argument? "port" = none)
    (told : Says (Target.spelled ((s.argument? "url").getD "/")) asked l)
    (made : ofService scheme s default = .ok c) :
    (∀ p, l.port = some p → (c.port = p ↔ p ≠ asked.defaultPort ∨ scheme = asked)) ∧
      (l.port = some asked.defaultPort ∨ l.port = none → c.port = scheme.defaultPort) ∧
      ∀ name endpoint, c.resolved = some (name, endpoint) → endpoint = ⟨s.address, c.port⟩ := by
  obtain ⟨t, port, timeout, host, target, ported, -, -, rfl⟩ := ofService_eq_ok.mp made
  rw [target_of_told told] at target
  cases target
  rw [portOf_of_unset unset] at ported
  cases ported
  rw [port_of_ofLocation]
  refine ⟨?_, ?_, ?_⟩
  · intro p named
    by_cases implied : p = asked.defaultPort
    · subst implied
      rw [named]
      dsimp only
      cases scheme <;> cases asked <;> decide
    · simp [named, Option.filter, implied]
  · rintro (named | none)
    · simp [named, Option.filter]
    · simp [none]
  · intro name endpoint resolved
    dsimp only at resolved
    split at resolved
    · cases resolved
      rfl
    · cases resolved

end Request

/-! ### A URL with a port -/

def localService (url : String) : Service :=
  { (Inhabited.default : Service) with
    address := .v6 ⟨#v[0, 0, 0, 0, 0, 0, 0, 1]⟩
    arguments := .ofList [("url", url)] }

/-- What the URL of such a service says with its port. -/
def statusAt (port : UInt16) : Location :=
  ⟨.v6 ⟨#v[0, 0, 0, 0, 0, 0, 0, 1]⟩, some port, ["status".toList], none⟩

theorem status_on_8080 :
    let s := localService "https://[::1]:8080/status"
    s.argument? "port" = none ∧
      Says (Target.spelled ((s.argument? "url").getD "/")) .https (statusAt 8080) ∧
      ∃ c, ofService .http s default = .ok c ∧ c.port = 8080 := by
  intro s
  have unset : s.argument? "port" = none := by decide +kernel
  have told : Says (Target.spelled ((s.argument? "url").getD "/")) .https (statusAt 8080) :=
    ⟨"https".toList, "//[::1]:8080/status".toList,
      ⟨by decide, List.all_eq_true.mp (by decide)⟩, by decide,
      by decide +kernel, rfl⟩
  refine ⟨unset, told, ?_⟩
  cases made : ofService .http s default with
  | error e =>
      have built : (ofService .http s default).toBool = true := by decide +kernel
      rw [made] at built
      cases built
  | ok c => exact ⟨c, rfl, ((port_of_unset unset told made).1 8080 rfl).mpr (.inl (by decide))⟩

/-- A port that the URL names is passed over if its scheme implies it and the check has another
one. -/
theorem named_port_is_passed_over :
    ¬ ∀ (scheme asked : Scheme) (s : Service) (default : Duration) (l : Location) (c : HttpCheck),
      s.argument? "port" = none → Says (Target.spelled ((s.argument? "url").getD "/")) asked l →
      ofService scheme s default = .ok c → ∀ p, l.port = some p → c.port = p := by
  intro always
  let s := localService "https://[::1]:443/status"
  have unset : s.argument? "port" = none := by decide +kernel
  have told : Says (Target.spelled ((s.argument? "url").getD "/")) .https (statusAt 443) :=
    ⟨"https".toList, "//[::1]:443/status".toList,
      ⟨by decide, List.all_eq_true.mp (by decide)⟩, by decide,
      by decide +kernel, rfl⟩
  have elsewhere : ((ofService .http s default).map HttpCheck.port).toOption = some 80 := by
    decide +kernel
  cases made : ofService .http s default with
  | error e =>
      rw [made] at elsewhere
      cases elsewhere
  | ok c =>
      have named : c.port = 443 := always .http .https s default _ c unset told made 443 rfl
      rw [made] at elsewhere
      exact absurd (named.symm.trans (Option.some.inj elsewhere)) (by decide)

end Vigil.Checker.HttpCheck
