import Vigil.Proofs.Checker.Request

/-!
To whom a check over HTTP connects: to the address of its service, whatever host its URL names.
-/

namespace Vigil.Checker.HttpCheck

open Vigil.Clock Vigil.Net Vigil.Url

/-! ### A URL that names a host -/

/-- The root of a host, on a port of its own. -/
def rootUrl (host : List Char) : List Char :=
  "http".toList ++ ':' :: '/' :: '/' :: (host ++ ":8080/".toList)

def rootService (host : List Char) : Service := localService (String.ofList (rootUrl host))

def rootOf (host : List Char) : Target := ⟨some (.name host), some 8080, [[]], none⟩

section Named

variable {host name : List Char}

theorem argument?_rootService (host : List Char) :
    (rootService host).argument? "url" = some (String.ofList (rootUrl host)) := by
  have listed : (rootService host).arguments.get? "url" = some (String.ofList (rootUrl host)) := rfl
  have filled : (String.ofList (rootUrl host) != "") = true := by
    rw [bne_iff_ne]
    intro none
    have := congrArg String.toList none
    simp [rootUrl] at this
  rw [Service.argument?, listed, Option.filter_some, if_pos filled]

theorem readLocation_root (fit : IsHostText host) (read : Host.read host = .ok (.name name)) :
    readLocation (host ++ ":8080/".toList) = .ok ⟨.name name, some 8080, [[]], none⟩ := by
  have settled : Settled [[]] none := ⟨by simp, by decide, by simp, by simp⟩
  have whole : host ++ ":8080/".toList =
      host ++ ':' :: Nat.toDigits 10 (8080 : UInt16).toNat ++ settled.reference.text := by
    rw [settled.text_reference, List.append_assoc]
    rfl
  rw [whole]
  exact (readLocation_written fit settled 8080 _).mpr ⟨read, rfl, rfl, rfl⟩

/-- Nothing is cut off such a URL before it is read. -/
theorem spelled_rootUrl (fit : IsHostText host) (printed : ∀ c ∈ host, Text.isBlank c = false) :
    Target.spelled (String.ofList (rootUrl host)) = rootUrl host := by
  have around : "http://:8080/".toList.all (fun c => 0x20 < c.toNat && !Text.isBlank c) = true := by
    decide
  refine Target.spelled_of_visible (fun c hc => ?_) (by simp [rootUrl])
  have mem : c ∈ host ∨ c ∈ "http://:8080/".toList := by
    simp only [rootUrl, List.mem_append, List.mem_cons] at hc
    simp only [String.reduceToList, List.mem_cons, List.not_mem_nil, or_false] at hc ⊢
    tauto
  obtain hc | hc := mem
  · exact ⟨(fit.plain c hc).1, printed c hc⟩
  · simpa using List.all_eq_true.mp around c hc

theorem targetOf_rootService (fit : IsHostText host) (printed : ∀ c ∈ host, Text.isBlank c = false)
    (read : Host.read host = .ok (.name name)) :
    targetOf (rootService host) = .ok (rootOf name) := by
  have located : readLocation (('/' :: '/' :: (host ++ ":8080/".toList)).dropWhile isSlash) =
      .ok ⟨.name name, some 8080, [[]], none⟩ := by
    rw [dropWhile_slashes fit]
    exact readLocation_root fit read
  have scheme : IsScheme "http".toList := ⟨by decide, List.all_eq_true.mp (by decide)⟩
  have told : Says (Target.spelled (((rootService host).argument? "url").getD "/")) .http
      ⟨.name name, some 8080, [[]], none⟩ := by
    rw [argument?_rootService, Option.getD_some, spelled_rootUrl fit printed]
    exact ⟨"http".toList, '/' :: '/' :: (host ++ ":8080/".toList), scheme, by decide, rfl, located⟩
  exact target_of_told told

theorem portOf_rootService (scheme : Scheme) (host name : List Char) :
    portOf scheme (rootService host) (rootOf name) = .ok 8080 := by
  have unset : (rootService host).argument? "port" = none := rfl
  rw [portOf, unset]
  rfl

theorem timeoutOf_rootService (host : List Char) (default : Duration) :
    timeoutOf (rootService host) default = .ok default := rfl

end Named

/-! ### The connection -/

section Connection

variable {scheme : Scheme} {s : Service} {default : Duration} {t : Target} {port : UInt16}
  {timeout : Duration}

/-- The host of the request is read back. -/
theorem read_requestHost (target : targetOf s = .ok t) :
    Host.read (requestHost s t).text.toList = .ok (requestHost s t) := by
  cases named : t.host with
  | none => simp [requestHost, named, Host.read_ofAddress]
  | some asked =>
      cases asked with
      | name name =>
          obtain ⟨text, read⟩ := Target.exists_host_of_read (targetOf_eq_ok.mp target) named
          simp [requestHost, named, Host.text, Host.read_name read]
      | v4 a => simp [requestHost, named, Host.read_ofAddress]
      | v6 a => simp [requestHost, named, Host.read_ofAddress]

/-- A check whose arguments are valid is made. Its request has the check's own scheme and port and
asks for what the URL asks for; and it goes to the address of the service: this is its host, or else
its host is a name that has been resolved to that address. -/
theorem connects_to_address (target : targetOf s = .ok t) (ported : portOf scheme s t = .ok port)
    (timed : timeoutOf s default = .ok timeout) :
    (∃ c, ofService scheme s default = .ok c) ∧
      ∀ c, ofService scheme s default = .ok c →
        c.url.scheme = scheme ∧ c.port = port ∧ c.url.path = t.path ∧ c.url.query = t.query ∧
          c.url.resource.toList.head? = some '/' ∧ '#' ∉ c.url.resource.toList ∧
          ((c.url.host = .ofAddress s.address ∧ c.resolved = none) ∨
            ∃ name, c.url.host = .name name ∧ c.resolved = some (name, ⟨s.address, port⟩)) := by
  refine ⟨⟨_, ofService_eq_ok.mpr ⟨t, port, timeout, _, target, ported, timed,
    read_requestHost target, rfl⟩⟩,
    fun c made => ?_⟩
  obtain ⟨t', port', timeout', host, target', ported', -, read, rfl⟩ := ofService_eq_ok.mp made
  cases target.symm.trans target'
  cases ported.symm.trans ported'
  cases (read_requestHost target).symm.trans read
  have settled := Target.settled_of_read (targetOf_eq_ok.mp target)
  refine ⟨rfl, port_of_ofLocation, rfl, rfl, settled.head?_resourceText, settled.sharp_notMem, ?_⟩
  cases named : t.host with
  | none => exact .inl ⟨by simp [ofLocation, requestHost, named], rfl⟩
  | some asked =>
      cases asked with
      | name name => exact .inr ⟨name, by simp [ofLocation, requestHost, named], rfl⟩
      | v4 a => exact .inl ⟨by simp [ofLocation, requestHost, named], rfl⟩
      | v6 a => exact .inl ⟨by simp [ofLocation, requestHost, named], rfl⟩

end Connection

/-- The check of a named host. -/
theorem named_host_connects :
    let host := "www.example".toList
    let s := rootService host
    targetOf s = .ok (rootOf host) ∧ portOf .https s (rootOf host) = .ok 8080 ∧
      timeoutOf s default = .ok default ∧
      ∃ c, ofService .https s default = .ok c ∧ c.url.scheme = .https ∧ c.port = 8080 ∧
        ((c.url.host = .ofAddress s.address ∧ c.resolved = none) ∨
          ∃ name, c.url.host = .name name ∧ c.resolved = some (name, ⟨s.address, 8080⟩)) := by
  intro host s
  have all : host.all (fun c => Idna.isPlain c && !Text.isBlank c) = true := by decide
  simp only [List.all_eq_true, Bool.and_eq_true, Bool.not_eq_true'] at all
  have plain : ∀ c ∈ host, Idna.isPlain c = true := fun c hc => (all c hc).1
  have printed : ∀ c ∈ host, Text.isBlank c = false := fun c hc => (all c hc).2
  have unmarked : (host.splitOn '.').all (!Idna.acePrefix.isPrefixOf ·) = true := by decide
  simp only [List.all_eq_true, Bool.not_eq_true', ← Bool.not_eq_true, List.isPrefixOf_iff_prefix]
    at unmarked
  have fit : IsHostText host :=
    isHostText_of_bare (by decide) fun c hc => Idna.isForbidden_of_isPlain (plain c hc)
  have read : Host.read host = .ok (.name host) :=
    (Host.read_of_bare fun c hc => bare_of_isPlain (plain c hc)).mpr
      ⟨host, Idna.toAscii?_of_plain plain unmarked, by decide, .inl ⟨by decide, rfl⟩⟩
  have target := targetOf_rootService fit printed read
  have ported := portOf_rootService .https host host
  have timed := timeoutOf_rootService host default
  obtain ⟨made, connected⟩ := connects_to_address target ported timed
  obtain ⟨c, hc⟩ := made
  obtain ⟨scheme, port, -, -, -, -, address⟩ := connected c hc
  exact ⟨target, ported, timed, c, hc, scheme, port, address⟩

end Vigil.Checker.HttpCheck
