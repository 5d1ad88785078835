import Vigil.Checker.Ssh
import Vigil.Proofs.Text.Split

/-!
What is read from the line with which an SSH server identifies itself.

The line is cut at the first two dashes and at blanks, and the parts are not looked at any further.
So each identification is read as it should be, but some other lines are read as well. Main
definitions: `SshCheck.Identifies`, the form of an identification; `SshCheck.Names`, the form that
suffices. Main statement: `SshCheck.verdict_of_line`.
-/

namespace Vigil.Checker.SshCheck

open Vigil.Text

/-- A line without the blanks at its end. -/
def banner (line : String) : List Char := trimRight line.toList

/-- A text is `SSH-`, the version of the protocol, a dash, and the software, perhaps with a comment
behind blanks. -/
structure Identifies (s protocol software comment : List Char) : Prop where
  text : s = mark ++ (protocol ++ '-' :: (software ++ comment))
  protocol_ne : protocol ≠ []
  protocol_plain : ∀ c ∈ protocol, isBlank c = false ∧ c ≠ '-'
  word : IsWord software comment

instance (s protocol software comment : List Char) :
    Decidable (Identifies s protocol software comment) :=
  decidable_of_iff (s = mark ++ (protocol ++ '-' :: (software ++ comment)) ∧ protocol ≠ [] ∧
      protocol.all (fun c => !isBlank c && c != '-') = true ∧ IsWord software comment) <| by
    simp only [List.all_eq_true, Bool.and_eq_true, Bool.not_eq_true', bne_iff_ne]
    exact ⟨fun ⟨text, ne, plain, word⟩ => ⟨text, ne, plain, word⟩,
      fun i => ⟨i.text, i.protocol_ne, i.protocol_plain, i.word⟩⟩

/-- The same with anything for the version of the protocol, and perhaps with blanks behind the
dash. -/
structure Names (s protocol gap software comment : List Char) : Prop where
  text : s = mark ++ (protocol ++ '-' :: (gap ++ (software ++ comment)))
  undashed : '-' ∉ protocol
  blank : ∀ c ∈ gap, isBlank c = true
  word : IsWord software comment

instance (s protocol gap software comment : List Char) :
    Decidable (Names s protocol gap software comment) :=
  decidable_of_iff (s = mark ++ (protocol ++ '-' :: (gap ++ (software ++ comment))) ∧
    '-' ∉ protocol ∧
      gap.all isBlank = true ∧ IsWord software comment) <| by
    simp only [List.all_eq_true]
    exact ⟨fun ⟨text, undashed, blank, word⟩ => ⟨text, undashed, blank, word⟩,
      fun n => ⟨n.text, n.undashed, n.blank, n.word⟩⟩

section Parts

variable {s protocol gap software comment : List Char}

theorem Identifies.names (i : Identifies s protocol software comment) :
    Names s protocol [] software comment where
  text := i.text
  undashed dash := (i.protocol_plain _ dash).2 rfl
  blank := List.forall_mem_nil _
  word := i.word

theorem Names.identifies (n : Names s protocol [] software comment) (ne : protocol ≠ [])
    (plain : ∀ c ∈ protocol, isBlank c = false) : Identifies s protocol software comment where
  text := n.text
  protocol_ne := ne
  protocol_plain c hc := ⟨plain c hc, fun dash => n.undashed (dash ▸ hc)⟩
  word := n.word

/-! ### Cutting at the second dash -/

theorem afterSecondDash?_mark (t : List Char) : afterSecondDash? (mark ++ t) =
    match t.dropWhile (· != '-') with
    | [] => none
    | _ :: rest => some rest := rfl

theorem dropWhile_dash (undashed : '-' ∉ protocol) (rest : List Char) :
    (protocol ++ '-' :: rest).dropWhile (· != '-') = '-' :: rest := by
  refine dropWhile_append_stop (fun c hc => ?_) ?_
  · exact bne_iff_ne.mpr fun dash => undashed (dash ▸ hc)
  · rintro _ ⟨⟩
    rfl

theorem afterSecondDash?_append (undashed : '-' ∉ protocol) (rest : List Char) :
    afterSecondDash? (mark ++ (protocol ++ '-' :: rest)) = some rest := by
  rw [afterSecondDash?_mark, dropWhile_dash undashed]

theorem afterSecondDash?_of_undashed (undashed : '-' ∉ protocol) :
    afterSecondDash? (mark ++ protocol) = none := by
  have none : protocol.dropWhile (· != '-') = [] :=
    List.dropWhile_eq_nil_iff.mpr fun c hc => bne_iff_ne.mpr fun dash => undashed (dash ▸ hc)
  rw [afterSecondDash?_mark, none]

/-! ### The software -/

theorem Names.software?_eq (n : Names s protocol gap software comment) :
    software? s = some software := by
  rw [n.text, software?, afterSecondDash?_append n.undashed, Option.bind_some,
    firstWord?_append n.blank n.word]

/-- There is only one way to read a text. -/
theorem Names.eq {protocol' gap' software' comment' : List Char}
    (n : Names s protocol gap software comment)
    (n' : Names s protocol' gap' software' comment') : protocol = protocol' ∧ gap = gap' := by
  have same : protocol ++ '-' :: (gap ++ (software ++ comment)) =
      protocol' ++ '-' :: (gap' ++ (software' ++ comment')) :=
    List.append_cancel_left (n.text.symm.trans n'.text)
  have behind : gap ++ (software ++ comment) = gap' ++ (software' ++ comment') := by
    have cut := congrArg (List.dropWhile (· != '-')) same
    rw [dropWhile_dash n.undashed, dropWhile_dash n'.undashed] at cut
    exact List.tail_eq_of_cons_eq cut
  refine ⟨List.append_cancel_right (behind ▸ same), ?_⟩
  have cut := congrArg (List.takeWhile isBlank) behind
  rw [takeWhile_append_stop n.blank n.word.head?, takeWhile_append_stop n'.blank n'.word.head?]
    at cut
  exact cut

/-- What can be read is an identification exactly if the version of the protocol is there and holds
no blank, and no blank stands behind it. -/
theorem Names.identifies_iff (n : Names s protocol gap software comment) :
    (∃ protocol' software' comment', Identifies s protocol' software' comment') ↔
      protocol ≠ [] ∧ (∀ c ∈ protocol, isBlank c = false) ∧ gap = [] := by
  constructor
  · rintro ⟨protocol', software', comment', i⟩
    obtain ⟨rfl, rfl⟩ := n.eq i.names
    exact ⟨i.protocol_ne, fun c hc => (i.protocol_plain c hc).1, rfl⟩
  · rintro ⟨ne, plain, rfl⟩
    exact ⟨protocol, software, comment, n.identifies ne plain⟩

/-- What ends before its second dash or with it. -/
def IsCutShort (s : List Char) : Prop :=
  ∃ protocol, '-' ∉ protocol ∧ (s = mark ++ protocol ∨ s = mark ++ (protocol ++ ['-']))

theorem IsCutShort.software?_eq (short : IsCutShort s) : software? s = none := by
  obtain ⟨protocol, undashed, rfl | rfl⟩ := short
  · rw [software?, afterSecondDash?_of_undashed undashed]
    rfl
  · rw [software?, afterSecondDash?_append undashed]
    rfl

/-- A text without blanks at its end is cut short, or it can be read. -/
theorem isCutShort_or_names (starts : mark <+: s) (trimmed : ∀ c ∈ s.getLast?, isBlank c = false) :
    IsCutShort s ∨ ∃ protocol gap software comment, Names s protocol gap software comment := by
  obtain ⟨t, rfl⟩ := starts
  obtain ⟨protocol, rest, undashed, rfl⟩ := exists_split '-' t
  cases rest with
  | none => exact .inl ⟨protocol, undashed, .inl (by rw [Option.elim_none, List.append_nil])⟩
  | some rest =>
      cases found : firstWord? rest with
      | some software =>
          obtain ⟨gap, comment, rfl, blank, word⟩ := exists_of_firstWord? found
          exact .inr ⟨protocol, gap, software, comment, rfl, undashed, blank, word⟩
      | none =>
          have blank := firstWord?_eq_none.mp found
          -- a blank behind the dash would be the last character
          cases last : rest.getLast? with
          | none =>
              rw [List.getLast?_eq_none_iff.mp last]
              exact .inl ⟨protocol, undashed, .inr rfl⟩
          | some c =>
              have ends : (mark ++ (protocol ++ '-' :: rest)).getLast? = some c := by
                simp [List.getLast?_append, List.getLast?_cons, last]
              have plain := trimmed c ends
              rw [blank c (List.mem_of_getLast? last)] at plain
              cases plain

end Parts

/-! ### The verdict -/

section Lines

variable {line : String}

/-- Blanks at the end do not matter for how a line starts. -/
theorem mark_prefix_banner : mark <+: banner line ↔ mark <+: line.toList := by
  refine ⟨fun starts => starts.trans (prefix_trimRight _), ?_⟩
  rintro ⟨t, whole⟩
  rw [banner, ← whole, trimRight_append (by simp [mark, isBlank])]
  exact List.prefix_append ..

theorem verdict_of_foreign (foreign : ¬ mark <+: line.toList) :
    verdict line = .ok (.down ("unexpected banner: " ++ quoted (String.ofList (banner line)))) := by
  rw [← mark_prefix_banner, ← List.isPrefixOf_iff_prefix] at foreign
  exact if_pos ((Bool.not_eq_true' _).mpr (eq_false_of_ne_true foreign))

theorem verdict_of_mark (starts : mark <+: line.toList) :
    verdict line = match software? (banner line) with
      | some version =>
        .ok ((Verdict.up (String.ofList (banner line))).withVersion (some (String.ofList version)))
      | none =>
          .error (.protocol ("malformed identification: " ++ String.ofList (banner line))) := by
  rw [← mark_prefix_banner, ← List.isPrefixOf_iff_prefix] at starts
  exact if_neg fun foreign => absurd starts (ne_true_of_eq_false ((Bool.not_eq_true' _).mp foreign))

theorem verdict_of_isCutShort (starts : mark <+: line.toList) (short : IsCutShort (banner line)) :
    verdict line =
      .error (.protocol ("malformed identification: " ++ String.ofList (banner line))) := by
  rw [verdict_of_mark starts, short.software?_eq]

/-- A word is no blank version. -/
theorem version_withVersion {software comment : List Char} (word : IsWord software comment)
    (v : Verdict) :
    (v.withVersion (some (String.ofList software))).version = some (String.ofList software) := by
  have kept : trimmed (String.ofList software) ≠ "" := by
    intro blank
    have nothing := congrArg String.toList blank
    rw [trimmed, String.toList_ofList, String.toList_ofList, trim_of_no_blank word.plain] at nothing
    exact word.ne nothing
  simp [Verdict.withVersion, kept]

theorem Names.starts {protocol gap software comment : List Char}
    (n : Names (banner line) protocol gap software comment) : mark <+: line.toList :=
  mark_prefix_banner.mp (n.text ▸ List.prefix_append ..)

theorem verdict_of_names {protocol gap software comment : List Char}
    (n : Names (banner line) protocol gap software comment) :
    ∃ v, verdict line = .ok v ∧ v.status = .up ∧ v.info = String.ofList (banner line) ∧
      v.version = some (String.ofList software) := by
  refine ⟨_, by rw [verdict_of_mark n.starts, n.software?_eq], rfl, rfl, ?_⟩
  exact version_withVersion n.word _

theorem isCutShort_or_names_banner (starts : mark <+: line.toList) : IsCutShort (banner line) ∨
    ∃ protocol gap software comment, Names (banner line) protocol gap software comment :=
  isCutShort_or_names (mark_prefix_banner.mpr starts) (getLast?_trimRight _)

/-- A service is up if and only if its line names some software. -/
theorem exists_up_iff : (∃ v, verdict line = .ok v ∧ v.status = .up) ↔
    ∃ protocol gap software comment, Names (banner line) protocol gap software comment := by
  constructor
  · rintro ⟨v, done, up⟩
    by_cases starts : mark <+: line.toList
    · rcases isCutShort_or_names_banner starts with short | named
      · rw [verdict_of_isCutShort starts short] at done
        cases done
      · exact named
    · rw [verdict_of_foreign starts] at done
      cases done
      cases up
  · rintro ⟨protocol, gap, software, comment, n⟩
    obtain ⟨v, done, up, -⟩ := verdict_of_names n
    exact ⟨v, done, up⟩

/-- Of the lines with the mark, those are malformed that end before the second dash or with it, and
no others. -/
theorem verdict_eq_error_iff (starts : mark <+: line.toList) {f : CheckFailure} :
    verdict line = .error f ↔
    IsCutShort (banner line) ∧
      f = .protocol ("malformed identification: " ++ String.ofList (banner line)) := by
  constructor
  · intro failed
    rcases isCutShort_or_names_banner starts with short | ⟨protocol, gap, software, comment, n⟩
    · rw [verdict_of_isCutShort starts short] at failed
      exact ⟨short, (Except.error.inj failed).symm⟩
    · obtain ⟨v, done, -⟩ := verdict_of_names n
      cases done.symm.trans failed
  · rintro ⟨short, rfl⟩
    exact verdict_of_isCutShort starts short

end Lines

/-- A line that starts with `SSH-` is refused exactly if, without the blanks at its end, it ends
before its second dash or with it, and any other line means that the service is down. In all other
cases the service is up, and the version is the first word behind the second dash. So each
identification is read as it should be; but what is read is an identification only if the version of
the protocol is there, without a blank, and the software stands right behind the dash. -/
theorem verdict_of_line (line : String) :
    ((∃ v, verdict line = .ok v ∧ v.status = .up) ↔
        ∃ protocol gap software comment, Names (banner line) protocol gap software comment) ∧
      (∀ protocol gap software comment, Names (banner line) protocol gap software comment →
        (∃ v, verdict line = .ok v ∧ v.status = .up ∧ v.info = String.ofList (banner line) ∧
          v.version = some (String.ofList software)) ∧
        ((∃ protocol' software' comment', Identifies (banner line) protocol' software' comment') ↔
          protocol ≠ [] ∧ (∀ c ∈ protocol, isBlank c = false) ∧ gap = [])) ∧
      (∀ protocol software comment, Identifies (banner line) protocol software comment →
        ∃ v, verdict line = .ok v ∧ v.status = .up ∧ v.version = some (String.ofList software)) ∧
      (mark <+: line.toList →
        ((∃ f, verdict line = .error f) ↔ IsCutShort (banner line)) ∧
        ∀ f, verdict line = .error f →
          f = .protocol ("malformed identification: " ++ String.ofList (banner line))) ∧
      (¬ mark <+: line.toList →
        verdict line =
          .ok (.down ("unexpected banner: " ++ quoted (String.ofList (banner line))))) := by
  refine ⟨exists_up_iff, fun protocol gap software comment n =>
      ⟨verdict_of_names n, n.identifies_iff⟩,
    fun protocol software comment i => ?_, fun starts => ⟨?_, fun f failed => ?_⟩,
    verdict_of_foreign⟩
  · obtain ⟨v, done, up, -, version⟩ := verdict_of_names i.names
    exact ⟨v, done, up, version⟩
  · constructor
    · rintro ⟨f, failed⟩
      exact ((verdict_eq_error_iff starts).mp failed).1
    · exact fun short => ⟨_, verdict_of_isCutShort starts short⟩
  · exact ((verdict_eq_error_iff starts).mp failed).2

/-- An identification with a comment. The dash in the comment makes no difference. -/
theorem openSsh_is_read :
    Identifies (banner "SSH-2.0-OpenSSH_9.6 Ubuntu-3ubuntu13\r\n") ['2', '.', '0']
        "OpenSSH_9.6".toList " Ubuntu-3ubuntu13".toList ∧
      ∃ v, verdict "SSH-2.0-OpenSSH_9.6 Ubuntu-3ubuntu13\r\n" = .ok v ∧ v.status = .up ∧
        v.version = some (String.ofList "OpenSSH_9.6".toList) := by
  have identifies : Identifies (banner "SSH-2.0-OpenSSH_9.6 Ubuntu-3ubuntu13\r\n") ['2', '.', '0']
      "OpenSSH_9.6".toList " Ubuntu-3ubuntu13".toList := by
    decide +kernel
  exact ⟨identifies, (verdict_of_line _).2.2.1 _ _ _ identifies⟩

/-- Here nothing stands for the software, and the comment is reported as the version. -/
theorem comment_is_reported :
    (∃ v, verdict "SSH-2.0- Ubuntu-3\r\n" = .ok v ∧ v.status = .up ∧ v.version = some "Ubuntu-3") ∧
      ¬ ∃ protocol software comment,
        Identifies (banner "SSH-2.0- Ubuntu-3\r\n") protocol software comment := by
  have named : Names (banner "SSH-2.0- Ubuntu-3\r\n") ['2', '.', '0']
    [' '] "Ubuntu-3".toList [] := by
    decide +kernel
  obtain ⟨v, done, up, -, version⟩ := verdict_of_names named
  refine ⟨⟨v, done, up, version⟩, ?_⟩
  rw [named.identifies_iff]
  rintro ⟨-, -, ⟨⟩⟩

end Vigil.Checker.SshCheck
