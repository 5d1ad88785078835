import Vigil.Proofs.Idna.Mapping
import Vigil.Proofs.Idna.Punycode

/-!
The ASCII form of a domain.
-/

namespace Vigil.Idna

open Vigil.Unicode

/-! ### Labels -/

/-- A text that punycode may stand for: it is not all ASCII, and mapping and composing leave it. -/
structure IsStable (text : List Char) : Prop where
  mapped : text.all isMapped = true
  extended : text.any (128 ≤ ·.toNat) = true
  composed : composed text = text
  valid : isValidLabel text = true

/-- A label that has been mapped, and its forms. -/
inductive Label.Forms : List Char → Label → Prop where
  | code (code text : List Char) (named : code ≠ []) (ended : code.getLast? ≠ some '-')
      (decoded : Punycode.decode? code = some text) (stable : IsStable text) :
      Forms (acePrefix ++ code) ⟨text, acePrefix ++ code⟩
  | ascii (label : List Char) (unmarked : ¬ acePrefix <+: label)
      (plain : label.all (·.toNat < 128) = true) :
      Forms label ⟨label, label⟩
  | encoded (label : List Char) (unmarked : ¬ acePrefix <+: label)
      (extended : label.all (·.toNat < 128) = false) (valid : isValidLabel label = true) :
      Forms label ⟨label, acePrefix ++ Punycode.encode label⟩

section Label

variable {label : List Char} {l : Label}

/-- A label in punycode is decoded, and what comes out must be stable and valid itself. -/
theorem Label.ofMapped?_code (code : List Char) :
    Label.ofMapped? (acePrefix ++ code) =
      if code.isEmpty || code.getLast? == some '-' then none
      else (Punycode.decode? code).bind fun text =>
        if text.all isMapped && text.any (128 ≤ ·.toNat) && composed text == text &&
          isValidLabel text
        then some ⟨text, acePrefix ++ code⟩
        else none := by
  have marked : acePrefix.isPrefixOf (acePrefix ++ code) = true := by simp
  unfold Label.ofMapped?
  rw [if_pos marked]
  rfl

theorem Label.ofMapped?_of_unmarked (unmarked : ¬ acePrefix <+: label) :
    Label.ofMapped? label =
      if label.all (·.toNat < 128) then some ⟨label, label⟩
      else if isValidLabel label then some ⟨label, acePrefix ++ Punycode.encode label⟩
      else none := by
  unfold Label.ofMapped?
  rw [if_neg (by simpa using unmarked)]

/-- A label is accepted in three forms only: punycode of a stable text, plain ASCII, and a valid
text that is then written in punycode. -/
theorem Label.ofMapped?_eq_some : Label.ofMapped? label = some l ↔ Label.Forms label l := by
  constructor
  · intro h
    by_cases marked : acePrefix <+: label
    · obtain ⟨code, rfl⟩ := marked
      rw [Label.ofMapped?_code] at h
      split at h
      · cases h
      · rename_i fit
        simp only [Bool.or_eq_true, not_or, List.isEmpty_iff, beq_iff_eq] at fit
        obtain ⟨text, decoded, h⟩ := Option.bind_eq_some_iff.mp h
        split at h
        · rename_i stable
          cases h
          simp only [Bool.and_eq_true, beq_iff_eq] at stable
          obtain ⟨⟨⟨mapped, extended⟩, composed⟩, valid⟩ := stable
          exact .code code text fit.1 fit.2 decoded ⟨mapped, extended, composed, valid⟩
        · cases h
    · rw [Label.ofMapped?_of_unmarked marked] at h
      split at h
      · rename_i plain
        cases h
        exact .ascii label marked plain
      · rename_i extended
        split at h
        · rename_i valid
          cases h
          exact .encoded label marked (eq_false_of_ne_true extended) valid
        · cases h
  · intro h
    cases h with
    | code code text named ended decoded stable =>
        rw [Label.ofMapped?_code, if_neg (by simp [named, ended]), decoded, Option.bind_some,
          if_pos (by simp [stable.mapped, stable.extended, stable.composed, stable.valid])]
    | ascii label unmarked plain =>
        rw [Label.ofMapped?_of_unmarked unmarked, if_pos plain]
    | encoded label unmarked extended valid =>
        rw [Label.ofMapped?_of_unmarked unmarked, if_neg (ne_true_of_eq_false extended),
          if_pos valid]

/-! ### Characters -/

/-- Whether a character may stand in the ASCII form of a domain. -/
def isPlain (c : Char) : Bool := c.toNat < 128 && isMapped c

theorem isPlain_eq_true {c : Char} : isPlain c = true ↔ c.toNat < 128 ∧ isMapped c = true := by
  simp [isPlain]

theorem isForbidden_of_isPlain {c : Char} (h : isPlain c = true) : isForbidden c = false := by
  obtain ⟨ascii, mapped⟩ := isPlain_eq_true.mp h
  exact ((isMapped_of_ascii ascii).mp mapped).2

theorem isPlain_of_mem_digits {c : Char} (h : c ∈ Punycode.digits) : isPlain c = true := by
  have plain : Punycode.digits.all isPlain = true := by decide
  exact List.all_eq_true.mp plain c h

theorem isPlain_of_mem_acePrefix {c : Char} (h : c ∈ acePrefix) : isPlain c = true := by
  have plain : acePrefix.all isPlain = true := by decide
  exact List.all_eq_true.mp plain c h

/-- A label that has been mapped is written in characters that mapping leaves. -/
theorem Label.Forms.isPlain_of_mem (h : Label.Forms label l)
    (mapped : ∀ c ∈ label, isMapped c = true) :
    ∀ c ∈ l.ascii, isPlain c = true := by
  intro c hc
  cases h with
  | code code text _ _ decoded _ =>
      obtain mark | coded := List.mem_append.mp hc
      · exact isPlain_of_mem_acePrefix mark
      · exact isPlain_eq_true.mpr ⟨Punycode.toNat_lt_of_decode? decoded c coded, mapped c hc⟩
  | ascii _ _ all =>
      exact isPlain_eq_true.mpr ⟨by simpa using List.all_eq_true.mp all c hc, mapped c hc⟩
  | encoded =>
      obtain mark | hc := List.mem_append.mp hc
      · exact isPlain_of_mem_acePrefix mark
      · obtain ⟨hc, ascii⟩ | rfl | hc := Punycode.mem_encode hc
        · exact isPlain_eq_true.mpr ⟨ascii, mapped c hc⟩
        · decide
        · exact isPlain_of_mem_digits hc

/-- A label without a full stop is written without one. -/
theorem Label.Forms.point_notMem (h : Label.Forms label l) (whole : '.' ∉ label) :
    '.' ∉ l.ascii := by
  intro hc
  cases h with
  | code => exact whole hc
  | ascii => exact whole hc
  | encoded =>
      obtain mark | hc := List.mem_append.mp hc
      · exact absurd mark (by decide)
      · obtain ⟨hc, -⟩ | hyphen | hc := Punycode.mem_encode hc
        · exact whole hc
        · exact absurd hyphen (by decide)
        · exact absurd hc (by decide)

/-- What a label is written as has the same forms. -/
theorem Label.Forms.again (h : Label.Forms label l) (mapped : ∀ c ∈ label, isMapped c = true)
    (composed : composed label = label) : Label.Forms l.ascii l := by
  cases h with
  | code code text named ended decoded stable => exact .code code text named ended decoded stable
  | ascii _ unmarked plain => exact .ascii label unmarked plain
  | encoded _ unmarked extended valid =>
      have some : label.any (128 ≤ ·.toNat) = true := by
        rw [List.all_eq_false] at extended
        rw [List.any_eq_true]
        simpa using extended
      obtain ⟨c, digit, last⟩ := Punycode.getLast?_encode some
      refine .code (Punycode.encode label) label ?_ ?_ (Punycode.decode?_encode label)
        ⟨List.all_eq_true.mpr mapped, some, composed, valid⟩
      · rintro none
        rw [none] at last
        cases last
      · rw [last]
        rintro ⟨⟩
        exact absurd digit (by decide)

end Label

/-! ### Domains -/

/-- The labels of a mapped domain; if one of them is written from right to left, each keeps to one
direction. -/
structure Spelling (text : List Char) (labels : List Label) : Prop where
  forms : List.Forall₂ Label.Forms (text.splitOn '.') labels
  directed : isBidirectional (labels.map Label.text) = true →
    (labels.map Label.text).all directionAllowed = true

/-- A domain has an ASCII form if and only if its mapped form is spelled in labels, which then stand
in it one by one. -/
theorem toAscii?_eq_some {domain ascii : List Char} :
    toAscii? domain = some ascii ↔ ∃ text labels, mapped? domain = some text ∧
    Spelling text labels ∧
      ascii = ['.'].intercalate (labels.map Label.ascii) := by
  simp only [toAscii?, Option.bind_eq_bind, Option.bind_eq_some_iff, Text.mapM_eq_some,
    Label.ofMapped?_eq_some]
  constructor
  · rintro ⟨text, mapped, labels, forms, h⟩
    split at h
    · cases h
    · rename_i directed
      cases h
      refine ⟨text, labels, mapped, ⟨forms, fun right => ?_⟩, rfl⟩
      simpa [right] using directed
  · rintro ⟨text, labels, mapped, ⟨forms, directed⟩, rfl⟩
    refine ⟨text, mapped, labels, forms, if_neg ?_⟩
    simp only [Bool.and_eq_true, not_and, Bool.not_eq_true', Bool.not_eq_false]
    exact directed

section Domain

variable {domain name : List Char}

/-- The labels of a mapped domain have been mapped, and they are composed. -/
theorem label_of_mapped? {text label : List Char} (h : mapped? domain = some text)
    (hl : label ∈ text.splitOn '.') :
    (∀ c ∈ label, isMapped c = true) ∧ '.' ∉ label ∧ composed label = label := by
  have parts := splitOn_composed isApart_point text
  rw [composed_of_mapped? h] at parts
  refine ⟨fun c hc => ?_, fun hc => ?_, ?_⟩
  · exact isMapped_of_mem_mapped? h c (Text.mem_of_mem_splitOnP hl c hc).2
  · exact absurd (Text.mem_of_mem_splitOnP hl '.' hc).1 (by decide)
  · exact (List.map_inj_left.mp (parts.symm.trans (List.map_id _).symm) label hl)

theorem isPlain_of_mem_toAscii? (h : toAscii? domain = some name) :
    ∀ c ∈ name, isPlain c = true := by
  obtain ⟨text, labels, mapped, ⟨forms, -⟩, rfl⟩ := toAscii?_eq_some.mp h
  intro c hc
  obtain rfl | ⟨part, written, hc⟩ := Text.mem_intercalate hc
  · decide
  · obtain ⟨l, hl, rfl⟩ := List.mem_map.mp written
    obtain ⟨label, hlabel, forms⟩ := Text.exists_of_forall₂ forms hl
    exact forms.isPlain_of_mem (label_of_mapped? mapped hlabel).1 c hc

/-- The ASCII form of a domain is its own ASCII form. -/
theorem toAscii?_toAscii? (h : toAscii? domain = some name) : toAscii? name = some name := by
  have plain := isPlain_of_mem_toAscii? h
  obtain ⟨text, labels, mapped, ⟨forms, directed⟩, rfl⟩ := toAscii?_eq_some.mp h
  have labelled : ∀ l ∈ labels, ∃ label ∈ text.splitOn '.', Label.Forms label l := fun l hl =>
    Text.exists_of_forall₂ forms hl
  have parts : (['.'].intercalate (labels.map Label.ascii)).splitOn '.' =
    labels.map Label.ascii := by
    refine List.splitOn_intercalate '.' (fun part hp => ?_) ?_
    · obtain ⟨l, hl, rfl⟩ := List.mem_map.mp hp
      obtain ⟨label, hlabel, forms⟩ := labelled l hl
      exact forms.point_notMem (label_of_mapped? mapped hlabel).2.1
    · rintro none
      rw [List.map_eq_nil_iff.mp none, List.forall₂_nil_right_iff] at forms
      exact absurd forms (by simp)
  refine toAscii?_eq_some.mpr ⟨_, labels, mapped?_of_plain fun c hc =>
      isPlain_eq_true.mp (plain c hc),
    ⟨?_, directed⟩, rfl⟩
  rw [parts, List.forall₂_map_left_iff, List.forall₂_same]
  intro l hl
  obtain ⟨label, hlabel, forms⟩ := labelled l hl
  obtain ⟨mapped, -, composed⟩ := label_of_mapped? mapped hlabel
  exact forms.again mapped composed

end Domain

/-! ### Direction -/

/-- Whether a character is written from right to left or is an Arabic digit. -/
def isRightToLeft (c : Char) : Bool :=
  bidiRight.contains c.toNat || bidiArabic.contains c.toNat || bidiArabicNumber.contains c.toNat

theorem bidiClass_of_left {c : Char} (h : isRightToLeft c = false) :
    bidiClass c ≠ .right ∧ bidiClass c ≠ .arabic ∧ bidiClass c ≠ .arabicNumber := by
  simp only [isRightToLeft, Bool.or_eq_false_iff] at h
  simp only [bidiClass, h, Bool.false_eq_true, if_false]
  split_ifs <;> decide

theorem isBidirectional_eq_false {labels : List (List Char)}
    (h : ∀ label ∈ labels, ∀ c ∈ label, isRightToLeft c = false) :
    isBidirectional labels = false := by
  rw [isBidirectional, List.any_eq_false]
  intro label hl
  rw [List.any_eq_true]
  rintro ⟨c, hc, found⟩
  obtain ⟨right, arabic, number⟩ := bidiClass_of_left (h label hl c hc)
  cases direction : bidiClass c <;> simp [direction] at right arabic number found

def avoids (t : RangeTable) (r : Range) : Bool :=
  t.ranges.toList.all fun s => r.last < s.first || s.last < r.first

theorem contains_of_avoids {t : RangeTable} {r : Range} {n : Nat} (h : avoids t r = true)
    (hn : r.contains n = true) :
    t.contains n = false := by
  rw [RangeTable.contains_eq, List.any_eq_false]
  intro s hs
  have apart := List.all_eq_true.mp h s hs
  simp only [Bool.or_eq_true, decide_eq_true_eq] at apart
  rw [Range.contains_eq_true] at hn ⊢
  omega

theorem isRightToLeft_of_range {r : Range}
    (h : (avoids bidiRight r && avoids bidiArabic r && avoids bidiArabicNumber r) = true)
    {c : Char} (hc : r.contains c.toNat = true) : isRightToLeft c = false := by
  simp only [Bool.and_eq_true] at h
  simp only [isRightToLeft, contains_of_avoids h.1.1 hc, contains_of_avoids h.1.2 hc,
    contains_of_avoids h.2 hc,
    Bool.or_false]

theorem isRightToLeft_of_ascii {c : Char} (h : c.toNat < 128) : isRightToLeft c = false := by
  have ascii : (avoids bidiRight ⟨0, 127⟩ && avoids bidiArabic ⟨0, 127⟩ &&
    avoids bidiArabicNumber ⟨0, 127⟩) = true := by
    decide +kernel
  exact isRightToLeft_of_range ascii (Range.contains_eq_true.mpr (by simp only; omega))

/-- A domain that is written in plain ASCII, without punycode, is its own ASCII form. -/
theorem toAscii?_of_plain {s : List Char} (plain : ∀ c ∈ s, isPlain c = true)
    (unmarked : ∀ label ∈ s.splitOn '.', ¬ acePrefix <+: label) : toAscii? s = some s := by
  have ascii : ∀ c ∈ s, c.toNat < 128 := fun c hc => (isPlain_eq_true.mp (plain c hc)).1
  have within : ∀ label ∈ s.splitOn '.', ∀ c ∈ label, c ∈ s := fun label hl c hc =>
    (Text.mem_of_mem_splitOnP hl c hc).2
  refine toAscii?_eq_some.mpr ⟨s, (s.splitOn '.').map fun l => ⟨l, l⟩,
    mapped?_of_plain fun c hc => isPlain_eq_true.mp (plain c hc), ⟨?_, fun right => ?_⟩, ?_⟩
  · rw [List.forall₂_map_right_iff, List.forall₂_same]
    intro label hl
    exact .ascii label (unmarked label hl)
      (by simpa using fun c hc => ascii c (within label hl c hc))
  · rw [isBidirectional_eq_false] at right
    · cases right
    · simpa using fun label hl c hc => isRightToLeft_of_ascii (ascii c (within label hl c hc))
  · simp [Function.comp_def, List.intercalate_splitOn]

end Vigil.Idna
