import Vigil.Proofs.Text.Split
import Vigil.Url.Basic

/-!
Path and query as an address keeps them: encoded, and without dot segments. Reading what they are
written as gives them back.
-/

namespace Vigil.Url

/-! ### Encoding -/

section Encoding

variable {encoded : Char → Bool} {s : List Char}

/-- The characters that an encoded byte is written in. -/
def byteChars : List Char := '%' :: (List.range 16).map byteDigit

theorem mem_byteChars_of_mem_encodeByte {b : UInt8} {c : Char} (h : c ∈ encodeByte b) :
    c ∈ byteChars := by
  have small := b.toNat_lt
  have digit : ∀ n < 16, byteDigit n ∈ byteChars := fun n hn =>
    List.mem_cons_of_mem _ (List.mem_map_of_mem (List.mem_range.mpr hn))
  simp only [encodeByte, List.mem_cons, List.not_mem_nil, or_false] at h
  obtain rfl | rfl | rfl := h
  · exact List.mem_cons_self
  · exact digit _ (by omega)
  · exact digit _ (by omega)

/-- What is written after encoding need not be encoded, or it writes a byte. -/
theorem mem_percentEncode {c : Char} (h : c ∈ percentEncode encoded s) :
    (c ∈ s ∧ encoded c = false) ∨ c ∈ byteChars := by
  obtain ⟨d, hd, hc⟩ := List.mem_flatMap.mp h
  split at hc
  · obtain ⟨b, -, hc⟩ := List.mem_flatMap.mp hc
    exact .inr (mem_byteChars_of_mem_encodeByte hc)
  · rename_i plain
    rw [List.mem_singleton] at hc
    subst hc
    exact .inl ⟨hd, eq_false_of_ne_true plain⟩

/-- Characters that need not be encoded stay. -/
theorem percentEncode_of_plain (h : ∀ c ∈ s, encoded c = false) : percentEncode encoded s = s := by
  induction s with
  | nil => rfl
  | cons c s ih =>
      have rest := ih fun d hd => h d (List.mem_cons_of_mem _ hd)
      rw [percentEncode, List.flatMap_cons, if_neg (by simp [h c List.mem_cons_self])]
      exact congrArg (c :: ·) rest

theorem plain_of_mem_byteChars {c : Char} (h : c ∈ byteChars) :
    encodedInPath c = false ∧ encodedInQuery c = false ∧ isSlash c = false := by
  have plain : byteChars.all (fun c => !(encodedInPath c || encodedInQuery c || isSlash c)) =
    true := by decide
  simpa [and_assoc] using List.all_eq_true.mp plain c h

theorem encodedInPath_of_mem {c : Char} (h : c ∈ percentEncode encodedInPath s) :
    encodedInPath c = false := by
  obtain ⟨-, plain⟩ | written := mem_percentEncode h
  · exact plain
  · exact (plain_of_mem_byteChars written).1

theorem encodedInQuery_of_mem {c : Char} (h : c ∈ percentEncode encodedInQuery s) :
    encodedInQuery c = false := by
  obtain ⟨-, plain⟩ | written := mem_percentEncode h
  · exact plain
  · exact (plain_of_mem_byteChars written).2.1

/-- Encoding brings no slashes. -/
theorem isSlash_of_mem (h : ∀ c ∈ s, isSlash c = false) {c : Char}
    (hc : c ∈ percentEncode encoded s) :
    isSlash c = false := by
  obtain ⟨hc, -⟩ | written := mem_percentEncode hc
  · exact h c hc
  · exact (plain_of_mem_byteChars written).2.2

end Encoding

/-! ### Dot segments -/

/-- Whether a segment moves in the path instead of standing in it. -/
def isDots (segment : List Char) : Bool := isDotDot segment || isDot segment

/-- Enter a segment; two dots leave the one entered last, a dot stays. -/
def enter (entered : List (List Char)) (segment : List Char) : List (List Char) :=
  if isDotDot segment then leave entered
  else if isDot segment then entered
  else segment :: entered

/-- The segments that a path leads through; behind dots at its end stands an empty one. -/
def followed (segments : List (List Char)) : List (List Char) :=
  (segments.foldl enter []).reverse ++ if segments.getLast?.any isDots then [[]] else []

/-- Segments are entered one by one; dots at the end leave an empty segment behind. -/
theorem resolve_eq (entered segments : List (List Char)) :
    resolve entered segments =
      (segments.foldl enter entered).reverse ++ if segments.getLast?.any isDots then [[]]
        else [] := by
  fun_induction resolve entered segments with
  | case1 entered => simp
  | case2 entered last up => simp [enter, isDots, up]
  | case3 entered last up stay => simp [enter, isDots, up, stay]
  | case4 entered last up stay => simp [enter, isDots, up, stay]
  | case5 entered s rest more up ih =>
      obtain ⟨t, rest, rfl⟩ := List.exists_cons_of_ne_nil more
      simp [ih, enter, up]
  | case6 entered s rest more up stay ih =>
      obtain ⟨t, rest, rfl⟩ := List.exists_cons_of_ne_nil more
      simp [ih, enter, up, stay]
  | case7 entered s rest more up stay ih =>
      obtain ⟨t, rest, rfl⟩ := List.exists_cons_of_ne_nil more
      simp [ih, enter, up, stay]

/-- Where no dots are, each segment is entered. -/
theorem followed_of_no_dots {segments : List (List Char)} (h : ∀ s ∈ segments, isDots s = false) :
    followed segments = segments := by
  have enters : ∀ entered, segments.foldl enter entered = segments.reverse ++ entered := by
    induction segments with
    | nil => exact fun _ => rfl
    | cons s rest ih =>
        intro entered
        have dots := h s List.mem_cons_self
        simp only [isDots, Bool.or_eq_false_iff] at dots
        rw [List.foldl_cons, ih (fun t ht => h t (List.mem_cons_of_mem _ ht)), enter,
          if_neg (by simp [dots.1]),
          if_neg (by simp [dots.2])]
        simp
  have last : segments.getLast?.any isDots = false := by
    cases ends : segments.getLast? with
    | none => rfl
    | some s => exact h s (List.mem_of_getLast? ends)
  simp [followed, enters, last]

theorem leave_subset (entered : List (List Char)) : leave entered ⊆ entered := by
  fun_cases leave entered with
  | case1 s rest drive => exact List.Subset.refl _
  | case2 s rest drive => exact List.subset_cons_self _ _
  | case3 => exact List.Subset.refl _

/-- Entering a segment adds at most that segment, and never dots. -/
theorem mem_enter {entered : List (List Char)} {segment s : List Char}
    (h : s ∈ enter entered segment) :
    s ∈ entered ∨ (s = segment ∧ isDots s = false) := by
  unfold enter at h
  split at h
  · exact .inl (leave_subset _ h)
  · split at h
    · exact .inl h
    · rename_i up stay
      obtain rfl | h := List.mem_cons.mp h
      · exact .inr ⟨rfl, by simp [isDots, up, stay]⟩
      · exact .inl h

/-- The path leads through segments of its own, none of them dots, and perhaps ends in an empty
one. -/
theorem mem_followed {segments : List (List Char)} {s : List Char} (h : s ∈ followed segments) :
    (s ∈ segments ∨ s = []) ∧ isDots s = false := by
  have enters : ∀ entered, ∀ s ∈ segments.foldl enter entered,
      s ∈ entered ∨ (s ∈ segments ∧ isDots s = false) := by
    clear h
    induction segments with
    | nil => exact fun _ _ h => .inl h
    | cons t rest ih =>
        intro entered s h
        obtain h | ⟨h, plain⟩ := ih _ s h
        · obtain h | ⟨rfl, plain⟩ := mem_enter h
          · exact .inl h
          · exact .inr ⟨List.mem_cons_self, plain⟩
        · exact .inr ⟨List.mem_cons_of_mem _ h, plain⟩
  obtain h | h := List.mem_append.mp h
  · obtain ⟨⟨⟩⟩ | ⟨h, plain⟩ := enters [] s (List.mem_reverse.mp h)
    exact ⟨.inl h, plain⟩
  · split at h
    · cases List.mem_singleton.mp h
      exact ⟨.inr rfl, rfl⟩
    · cases h

theorem followed_ne_nil {segments : List (List Char)} (h : segments ≠ []) :
    followed segments ≠ [] := by
  obtain ⟨front, last, rfl⟩ := (List.eq_nil_or_concat segments).resolve_left h
  by_cases dots : isDots last
  · simp [followed, dots]
  · have plain := dots
    simp only [isDots, Bool.or_eq_true, not_or] at plain
    simp [followed, dots, enter, plain]

/-! ### Paths and queries -/

/-- The segments that a path spells. -/
def ownSegments (path : List Char) : List (List Char) :=
  ((dropSlash path).splitOnP isSlash).map (percentEncode encodedInPath)

theorem readPath_dropSlash (path : List Char) :
    readPath (dropSlash path) = followed (ownSegments path) :=
  resolve_eq [] _

/-- What may follow a host: a path, and perhaps a query and a fragment. -/
structure Reference where
  path : List Char
  query : Option (List Char)
  fragment : Option (List Char)
  path_plain : ∀ c ∈ path, c ≠ '?' ∧ c ≠ '#'
  query_plain : ∀ q ∈ query, '#' ∉ q

def Reference.ending (r : Reference) : List Char :=
  r.query.elim [] ('?' :: ·) ++ r.fragment.elim [] ('#' :: ·)

def Reference.text (r : Reference) : List Char := r.path ++ r.ending

def Reference.segments (r : Reference) : List (List Char) := followed (ownSegments r.path)

def Reference.encodedQuery (r : Reference) : Option (List Char) :=
  r.query.map (percentEncode encodedInQuery)

theorem Reference.head?_ending (r : Reference) : ∀ c ∈ r.ending.head?, c = '?' ∨ c = '#' := by
  obtain ⟨path, query, fragment, _, _⟩ := r
  intro c hc
  cases query with
  | some q =>
      cases hc
      exact .inl rfl
  | none =>
      cases fragment <;> cases hc
      exact .inr rfl

/-- What is left of a reference behind the front of its path. -/
def Reference.behind (r : Reference) {front path : List Char} (h : r.path = front ++ path) :
    Reference :=
  ⟨path, r.query, r.fragment, fun c hc => r.path_plain c (h ▸ List.mem_append_right front hc),
    r.query_plain⟩

theorem Reference.text_eq_behind (r : Reference) {front path : List Char}
    (h : r.path = front ++ path) :
    r.text = front ++ (r.behind h).text := by
  simp [text, ending, behind, h]

/-- Every text is a reference. -/
theorem exists_reference (s : List Char) : ∃ r : Reference, r.text = s := by
  obtain ⟨kept, fragment, sharp, whole⟩ := Text.exists_split '#' s
  obtain ⟨path, query, mark, front⟩ := Text.exists_split '?' kept
  subst front whole
  refine ⟨⟨path, query, fragment, ?_, ?_⟩, (List.append_assoc ..).symm⟩
  · intro c hc
    constructor
    · rintro rfl
      exact mark hc
    · rintro rfl
      exact sharp (List.mem_append_left _ hc)
  · rintro q ⟨⟩ hc
    exact sharp (List.mem_append_right _ (List.mem_cons_of_mem _ hc))

/-- The fragment is left out. -/
theorem Reference.readResource_text (r : Reference) :
    readResource r.text = (r.segments, r.encodedQuery) := by
  obtain ⟨path, query, fragment, path_plain, query_plain⟩ := r
  have kept : ((path ++ query.elim [] ('?' :: ·)) ++ fragment.elim [] ('#' :: ·)).takeWhile
    (· != '#') =
      path ++ query.elim [] ('?' :: ·) := by
    apply Text.takeWhile_append_stop
    · intro c hc
      obtain hc | hc := List.mem_append.mp hc
      · simpa using (path_plain c hc).2
      · cases query with
        | none => cases hc
        | some q =>
            obtain rfl | hc := List.mem_cons.mp hc
            · rfl
            · exact bne_iff_ne.mpr fun sharp => query_plain q rfl (sharp ▸ hc)
    · cases fragment <;> simp
  have parts : (path ++ query.elim [] ('?' :: ·)).span (· != '?') =
    (path, query.elim [] ('?' :: ·)) := by
    apply Text.span_append_stop
    · exact fun c hc => bne_iff_ne.mpr (path_plain c hc).1
    · cases query <;> simp
  simp only [readResource, Reference.text, Reference.ending, ← List.append_assoc, kept, parts]
  cases query with
  | none => simp [segments, encodedQuery, readPath_dropSlash]
  | some q => simp [segments, encodedQuery, readPath_dropSlash]

/-- Path and query as an address keeps them. -/
structure Settled (path : List (List Char)) (query : Option (List Char)) : Prop where
  ne_nil : path ≠ []
  /-- No segment is dots. -/
  straight : ∀ s ∈ path, isDots s = false
  path_plain : ∀ s ∈ path, ∀ c ∈ s, encodedInPath c = false ∧ isSlash c = false
  query_plain : ∀ q ∈ query, ∀ c ∈ q, encodedInQuery c = false

/-- What is read of a reference is kept as it must be. -/
theorem Reference.settled (r : Reference) : Settled r.segments r.encodedQuery where
  ne_nil := followed_ne_nil (by simp [ownSegments, List.splitOnP_ne_nil])
  straight := fun s hs => (mem_followed hs).2
  path_plain := by
    intro s hs c hc
    obtain ⟨own | rfl, -⟩ := mem_followed hs
    · obtain ⟨part, hp, rfl⟩ := List.mem_map.mp own
      exact ⟨encodedInPath_of_mem hc,
        isSlash_of_mem (fun d hd => (Text.mem_of_mem_splitOnP hp d hd).1) hc⟩
    · cases hc
  query_plain := by
    intro q hq c hc
    obtain ⟨own, -, rfl⟩ := Option.map_eq_some_iff.mp hq
    exact encodedInQuery_of_mem hc

/-- A path that is written is split into its segments again. -/
theorem splitOnP_pathText (s : List Char) (rest : List (List Char))
    (h : ∀ t ∈ s :: rest, ∀ c ∈ t, isSlash c = false) :
    (s ++ pathText rest).splitOnP isSlash = s :: rest := by
  have front := h s List.mem_cons_self
  induction rest generalizing s with
  | nil =>
      rw [pathText, List.flatMap_nil, List.append_nil]
      exact List.splitOnP_eq_singleton front
  | cons t rest ih =>
      have behind := fun u hu => h u (List.mem_cons_of_mem _ hu)
      rw [pathText, List.flatMap_cons, List.cons_append,
        List.splitOnP_append_cons_of_forall_mem front '/' rfl]
      exact congrArg (s :: ·) (ih t behind (behind t List.mem_cons_self))

/-- A settled path is spelled by its own text. -/
theorem Settled.ownSegments_pathText {path : List (List Char)} {query : Option (List Char)}
    (h : Settled path query) : ownSegments (pathText path) = path := by
  obtain ⟨s, rest, rfl⟩ := List.exists_cons_of_ne_nil h.ne_nil
  have encoded : ∀ t ∈ s :: rest, percentEncode encodedInPath t = t := fun t ht =>
    percentEncode_of_plain fun c hc => (h.path_plain t ht c hc).1
  calc ownSegments (pathText (s :: rest))
      = ((s ++ pathText rest).splitOnP isSlash).map (percentEncode encodedInPath) := rfl
    _ = (s :: rest).map (percentEncode encodedInPath) := by
        rw [splitOnP_pathText s rest fun t ht c hc => (h.path_plain t ht c hc).2]
    _ = s :: rest := (List.map_congr_left encoded).trans (List.map_id' _)

/-- No character of a settled path could end it. -/
theorem Settled.path_marks {path : List (List Char)} {query : Option (List Char)}
    (h : Settled path query) :
    ∀ c ∈ pathText path, c ≠ '?' ∧ c ≠ '#' := by
  intro c hc
  obtain ⟨s, hs, hc⟩ := List.mem_flatMap.mp hc
  obtain rfl | hc := List.mem_cons.mp hc
  · decide
  · have plain := (h.path_plain s hs c hc).1
    constructor
    · rintro rfl
      cases plain
    · rintro rfl
      cases plain

theorem Settled.query_marks {path : List (List Char)} {query : Option (List Char)}
    (h : Settled path query) :
    ∀ q ∈ query, '#' ∉ q := by
  intro q hq sharp
  cases h.query_plain q hq _ sharp

def Settled.reference {path : List (List Char)} {query : Option (List Char)}
    (h : Settled path query) : Reference :=
  ⟨pathText path, query, none, h.path_marks, h.query_marks⟩

/-- What is kept is read back. -/
theorem Settled.segments_reference {path : List (List Char)} {query : Option (List Char)}
    (h : Settled path query) : h.reference.segments = path := by
  rw [Reference.segments, reference, h.ownSegments_pathText, followed_of_no_dots h.straight]

theorem Settled.encodedQuery_reference {path : List (List Char)} {query : Option (List Char)}
    (h : Settled path query) : h.reference.encodedQuery = query := by
  cases query with
  | none => rfl
  | some q => exact congrArg some (percentEncode_of_plain (h.query_plain q rfl))

theorem toList_resourceText (path : List (List Char)) (query : Option (List Char)) :
    (resourceText path query).toList = pathText path ++ query.elim [] ('?' :: ·) := by
  cases query <;> simp [resourceText]

theorem Settled.text_reference {path : List (List Char)} {query : Option (List Char)}
    (h : Settled path query) :
    h.reference.text = (resourceText path query).toList := by
  simp [reference, toList_resourceText, Reference.text, Reference.ending]

theorem Settled.head?_reference {path : List (List Char)} {query : Option (List Char)}
    (h : Settled path query) :
    h.reference.path.head? = some '/' := by
  obtain ⟨s, rest, rfl⟩ := List.exists_cons_of_ne_nil h.ne_nil
  rfl

/-- Path and query start with a slash. -/
theorem Settled.head?_resourceText {path : List (List Char)} {query : Option (List Char)}
    (h : Settled path query) :
    (resourceText path query).toList.head? = some '/' := by
  have slash : (pathText path).head? = some '/' := h.head?_reference
  rw [toList_resourceText, List.head?_append, slash, Option.some_or]

/-- Path and query hold no fragment. -/
theorem Settled.sharp_notMem {path : List (List Char)} {query : Option (List Char)}
    (h : Settled path query) :
    '#' ∉ (resourceText path query).toList := by
  rw [toList_resourceText]
  intro sharp
  obtain sharp | sharp := List.mem_append.mp sharp
  · exact (h.path_marks '#' sharp).2 rfl
  · cases query with
    | none => cases sharp
    | some q =>
        obtain mark | sharp := List.mem_cons.mp sharp
        · exact absurd mark (by decide)
        · exact h.query_marks q rfl sharp

end Vigil.Url
