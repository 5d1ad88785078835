import Vigil.Proofs.Url.Authority
import Vigil.Url.Target

/-!
Targets that name no scheme.
-/

namespace Vigil

namespace Url

def startsWithSlashes : List Char → Bool
  | a :: b :: _ => isSlash a && isSlash b
  | _ => false

theorem startsWithSlashes_eq_true {s : List Char} :
    startsWithSlashes s = true ↔ ∃ a b rest, s = a :: b :: rest ∧ isSlash a = true ∧
    isSlash b = true := by
  unfold startsWithSlashes
  split
  · rename_i a b rest
    constructor
    · intro h
      exact ⟨a, b, rest, rfl, Bool.and_eq_true_iff.mp h⟩
    · rintro ⟨_, _, _, ⟨⟩, h⟩
      exact Bool.and_eq_true_iff.mpr h
  · rename_i short
    constructor
    · rintro ⟨⟩
    · rintro ⟨a, b, rest, rfl, -⟩
      exact (short a b rest rfl).elim

theorem readRelative_of_path {s : List Char} (h : startsWithSlashes s = false) :
    readRelative s = .ok (readResource s) := by
  unfold readRelative
  split
  · rename_i a b rest
    have apart : (isSlash a && isSlash b) = false := h
    rw [apart]
    rfl
  · rfl

theorem isSlash_head?_ending (r : Reference) : ∀ c ∈ r.ending.head?, isSlash c = false := by
  intro c hc
  obtain rfl | rfl := r.head?_ending c hc <;> rfl

/-- The slashes in front of a reference stand in its path. -/
theorem startsWithSlashes_text (r : Reference) :
    startsWithSlashes r.text = startsWithSlashes r.path := by
  have plain := isSlash_head?_ending r
  rw [Reference.text]
  generalize r.ending = ending at plain
  cases r.path with
  | nil =>
      cases ending with
      | nil => rfl
      | cons c rest => cases rest <;> simp [startsWithSlashes, plain c rfl]
  | cons a front =>
      cases front with
      | nil =>
          cases ending with
          | nil => rfl
          | cons c rest => simp [startsWithSlashes, plain c rfl]
      | cons b front => rfl

/-- Slashes in front of a text are passed over up to the query. -/
theorem dropWhile_isSlash_append (front : List Char) (r : Reference) :
    (front ++ r.ending).dropWhile isSlash = front.dropWhile isSlash ++ r.ending := by
  have stop : ∀ c ∈ (front.dropWhile isSlash ++ r.ending).head?, isSlash c = false := by
    intro c hc
    rw [List.head?_append] at hc
    have behind := List.head?_dropWhile_not isSlash front
    cases first : (front.dropWhile isSlash).head? with
    | none =>
        rw [first] at hc
        exact isSlash_head?_ending r c hc
    | some d =>
        rw [first] at hc behind
        cases hc
        exact behind
  calc (front ++ r.ending).dropWhile isSlash
      = (front.takeWhile isSlash ++ (front.dropWhile isSlash ++ r.ending)).dropWhile isSlash := by
        rw [← List.append_assoc, List.takeWhile_append_dropWhile]
    _ = front.dropWhile isSlash ++ r.ending :=
        Text.dropWhile_append_stop (fun c hc => List.mem_takeWhile_imp hc) stop

/-- What stands behind two slashes is read as it stands behind those of a web address: of slashes
that differ all that follow are passed over. -/
theorem exists_slashes {r : Reference} (h : startsWithSlashes r.path = true) :
    ∃ slashes location : List Char, ∃ parts : r.path = slashes ++ location,
      2 ≤ slashes.length ∧ (∀ c ∈ slashes, isSlash c = true) ∧
      readRelative r.text = (readLocation (r.behind parts).text).map fun l =>
        (l.path, l.query) := by
  obtain ⟨a, b, front, path, first, second⟩ := startsWithSlashes_eq_true.mp h
  have reading : readRelative r.text =
      (readLocation (if a == '/' && b == '/' then front ++ r.ending
        else (front ++ r.ending).dropWhile isSlash)).map fun l => (l.path, l.query) := by
    rw [Reference.text, path]
    simp only [List.cons_append, readRelative, first, second, Bool.and_self, if_true]
  by_cases alike : (a == '/' && b == '/') = true
  · refine ⟨[a, b], front, path, Nat.le_refl 2, by simp [first, second], ?_⟩
    rw [reading, if_pos alike]
    rfl
  · have whole : r.path = a :: b :: front.takeWhile isSlash ++ front.dropWhile isSlash := by
      simp [path]
    refine ⟨_, _, whole, by simp, ?_, ?_⟩
    · simp only [List.mem_cons, forall_eq_or_imp]
      exact ⟨first, second, fun c hc => List.mem_takeWhile_imp hc⟩
    · rw [reading, if_neg alike, dropWhile_isSlash_append]
      rfl

/-- What a web address says behind slashes: the place that is named, up to the next slash, and the
path behind it. -/
theorem readLocation_text (r : Reference) :
    ∃ authority behind : List Char, ∃ parts : r.path = authority ++ behind,
      (∀ c ∈ authority, isSlash c = false) ∧ (∀ c ∈ behind.head?, isSlash c = true) ∧
      ∀ l, readLocation r.text = .ok l ↔
        (place authority).1 ≠ [] ∧ Host.read (place authority).1 = .ok l.host ∧
          readPort (place authority).2 = .ok l.port ∧
          l.path = (r.behind parts).segments ∧ l.query = (r.behind parts).encodedQuery := by
  have parts : r.path = r.path.takeWhile (!isSlash ·) ++ r.path.dropWhile (!isSlash ·) :=
    List.takeWhile_append_dropWhile.symm
  have own : ∀ c ∈ r.path.takeWhile (!isSlash ·), isSlash c = false := fun c hc => by
    simpa using List.mem_takeWhile_imp hc
  have stop : ∀ c ∈ (r.path.dropWhile (!isSlash ·)).head?, isSlash c = true := by
    intro c hc
    have first := List.head?_dropWhile_not (!isSlash ·) r.path
    rw [hc] at first
    simpa using first
  refine ⟨_, _, parts, own, stop, fun l => ?_⟩
  rw [r.text_eq_behind parts]
  refine readLocation_append (fun c hc => ?_) stop l
  have plain := r.path_plain c ((List.takeWhile_sublist _).subset hc)
  exact endsAuthority_eq_false (own c hc) plain.1 plain.2

end Url

namespace Target

/-- What is read of a text, as it spells it: without what surrounds it, the root for none. -/
def spelled (s : String) : List Char := Url.cleaned (effectiveText s).toList

/-- The target that a reference means on the address that is watched. -/
def ofReference (r : Url.Reference) : Target := ⟨none, none, r.segments, r.encodedQuery⟩

theorem resource_ofReference (r : Url.Reference) :
    ∃ tail, (ofReference r).resource.toList = '/' :: tail := by
  obtain ⟨s, rest, path⟩ := List.exists_cons_of_ne_nil r.settled.ne_nil
  exact ⟨_, by simp [resource, ofReference, Url.resourceText, path, Url.pathText]; rfl⟩

/-- A text that names no scheme is read on the address that is watched, without a host or a port of
its own. -/
theorem read_eq_ok_of_no_scheme {s : String} (noScheme : ¬ Url.NamesScheme (spelled s))
    (t : Target) :
    read s = .ok t ↔
      t.host = none ∧ t.port = none ∧ Url.readRelative (spelled s) = .ok (t.path, t.query) := by
  have relative : Url.readAbsolute (spelled s) = .ok .relative := by
    unfold Url.readAbsolute
    rw [Url.splitScheme?_eq_none.mpr noScheme]
  obtain ⟨host, port, path, query⟩ := t
  simp only [read]
  rw [← spelled, relative]
  dsimp only
  cases Url.readRelative (spelled s) with
  | error e => simp
  | ok found => simp [eq_comm, Prod.ext_iff]

/-- A text without a scheme is a path on the address that is watched, and a query, unless it begins
with two slashes: then what stands behind these, up to the next slash, is dropped as another
address. -/
theorem read_relative (s : String) (noScheme : ¬ Url.NamesScheme (spelled s)) :
    ∃ r : Url.Reference, r.text = spelled s ∧
      (Url.startsWithSlashes r.path = false → read s = .ok (ofReference r) ∧
        ∃ tail, (ofReference r).resource.toList = '/' :: tail) ∧
      (Url.startsWithSlashes r.path = true →
        ∃ slashes authority behind : List Char, r.path = slashes ++ authority ++ behind ∧
          2 ≤ slashes.length ∧ (∀ c ∈ slashes, Url.isSlash c = true) ∧
          (∀ c ∈ authority, Url.isSlash c = false) ∧ (∀ c ∈ behind.head?, Url.isSlash c = true) ∧
          ∀ t, read s = .ok t ↔ Url.NamesPlace authority ∧
            t = ⟨none, none, Url.followed (Url.ownSegments behind), r.encodedQuery⟩) := by
  obtain ⟨r, whole⟩ := Url.exists_reference (spelled s)
  refine ⟨r, whole, ?_, ?_⟩
  · intro path
    refine ⟨(read_eq_ok_of_no_scheme noScheme _).mpr ⟨rfl, rfl, ?_⟩, resource_ofReference r⟩
    rw [← whole, Url.readRelative_of_path ((Url.startsWithSlashes_text r).trans path),
      r.readResource_text]
    rfl
  · intro path
    obtain ⟨slashes, location, parts, two, slash, reading⟩ := Url.exists_slashes path
    obtain ⟨authority, behind, rest, own, stop, located⟩ := Url.readLocation_text (r.behind parts)
    refine ⟨slashes, authority, behind, ?_, two, slash, own, stop, fun t => ?_⟩
    · rw [parts, List.append_assoc]
      exact congrArg (slashes ++ ·) rest
    rw [read_eq_ok_of_no_scheme noScheme, ← whole, reading]
    constructor
    · rintro ⟨host, port, found⟩
      obtain ⟨l, found, same⟩ := map_eq_ok.mp found
      obtain ⟨named, hostRead, portRead, path, query⟩ := (located l).mp found
      refine ⟨⟨named, ⟨_, hostRead⟩, ⟨_, portRead⟩⟩, ?_⟩
      obtain ⟨_, _, _, _⟩ := t
      cases host
      cases port
      cases same
      exact congrArg₂ (Target.mk none none) path query
    · rintro ⟨⟨named, ⟨host, hostRead⟩, ⟨port, portRead⟩⟩, rfl⟩
      refine ⟨rfl, rfl, map_eq_ok.mpr ⟨⟨host, port, _, _⟩, (located _).mpr ?_, rfl⟩⟩
      exact ⟨named, hostRead, portRead, rfl, rfl⟩

theorem status_is_path :
    ¬ Url.NamesScheme (spelled " status/live?full=1#top ") ∧
      ∃ r : Url.Reference, r.text = "status/live?full=1#top".toList ∧
        read " status/live?full=1#top " = .ok (ofReference r) := by
  have noScheme : ¬ Url.NamesScheme (spelled " status/live?full=1#top ") :=
    Url.splitScheme?_eq_none.mp (by decide +kernel)
  obtain ⟨r, whole, path, -⟩ := read_relative _ noScheme
  have text : r.text = "status/live?full=1#top".toList := by
    rw [whole]
    decide +kernel
  refine ⟨noScheme, r, text, (path ?_).1⟩
  rw [← Url.startsWithSlashes_text, text]
  decide +kernel

/-- The first segment of a path that begins with two slashes is lost. -/
theorem doubled_slash_loses_segment :
    ¬ ∀ s : String, ¬ Url.NamesScheme (spelled s) →
      ∃ r : Url.Reference, r.text = spelled s ∧ read s = .ok (ofReference r) := by
  intro always
  have noScheme : ¬ Url.NamesScheme (spelled "//[::1]/live") :=
    Url.splitScheme?_eq_none.mp (by decide +kernel)
  have lost : read "//[::1]/live" = .ok ⟨none, none, ["live".toList], none⟩ := by decide +kernel
  have own : (Url.readResource (spelled "//[::1]/live")).1 =
    [[], "[::1]".toList, "live".toList] := by
    decide +kernel
  obtain ⟨r, whole, path⟩ := always _ noScheme
  rw [← whole, r.readResource_text] at own
  rw [lost] at path
  have short : ["live".toList] = r.segments := congrArg Target.path (Except.ok.inj path)
  rw [← short] at own
  cases own

end Target

end Vigil
