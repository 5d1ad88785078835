import Mathlib.Data.List.Infix
import Vigil.Checker.Failure

/-!
What the one line for a failure and its causes says.

Main definitions: `Diagnosis.upTo`, a failure with the first of its causes alone, so that its line
is what has been said before the next one; `Diagnosis.without`, one cause left out. Main statement:
`Diagnosis.line_says_all`.
-/

namespace Vigil

namespace Diagnosis

/-- All texts, from the failure to the root. -/
def texts (d : Diagnosis) : List String := d.text :: d.causes

def root (d : Diagnosis) : String := d.causes.getLastD d.text

/-- The failure with the first `n` of its causes. -/
def upTo (d : Diagnosis) (n : Nat) : Diagnosis := ⟨d.text, d.causes.take n⟩

/-- The failure without one of its causes. -/
def without (d : Diagnosis) (n : Nat) : Diagnosis := ⟨d.text, d.causes.eraseIdx n⟩

@[simp] theorem endsWith_eq_true {said cause : String} :
    endsWith said cause = true ↔ cause.toList <:+ said.toList := List.isSuffixOf_iff_suffix

/-! ### One cause -/

section Cause

variable {said cause : String}

theorem addCause_of_suffix (quoted : cause.toList <:+ said.toList) : addCause said cause = said :=
  if_pos (endsWith_eq_true.mpr quoted)

theorem addCause_of_not_suffix (new : ¬ cause.toList <:+ said.toList) :
    addCause said cause = said ++ ": " ++ cause :=
  if_neg (mt endsWith_eq_true.mp new)

variable (said cause)

theorem prefix_addCause : said.toList <+: (addCause said cause).toList := by
  by_cases quoted : cause.toList <:+ said.toList
  · rw [addCause_of_suffix quoted]
  · rw [addCause_of_not_suffix quoted, String.toList_append, String.toList_append,
      List.append_assoc]
    exact List.prefix_append ..

theorem suffix_addCause : cause.toList <:+ (addCause said cause).toList := by
  by_cases quoted : cause.toList <:+ said.toList
  · rw [addCause_of_suffix quoted]
    exact quoted
  · rw [addCause_of_not_suffix quoted, String.toList_append]
    exact List.suffix_append ..

end Cause

/-! ### All causes -/

theorem prefix_foldl_addCause (causes : List String) (said : String) :
    said.toList <+: (causes.foldl addCause said).toList := by
  induction causes generalizing said with
  | nil => exact List.prefix_rfl
  | cons cause rest ih => exact (prefix_addCause said cause).trans (ih (addCause said cause))

section Line

variable (d : Diagnosis)

theorem line_eq_foldl (n : Nat) : d.line = (d.causes.drop n).foldl addCause (d.upTo n).line := by
  rw [line, line, upTo, ← List.foldl_append, List.take_append_drop]

theorem upTo_upTo {i j : Nat} (le : i ≤ j) : (d.upTo j).upTo i = d.upTo i := by
  rw [upTo, upTo, upTo, List.take_take, Nat.min_eq_left le]

theorem upTo_length : d.upTo d.causes.length = d := by
  rw [upTo, List.take_length]

/-- What has been said so far stands at the beginning of the line. -/
theorem prefix_line_upTo (n : Nat) : (d.upTo n).line.toList <+: d.line.toList := by
  rw [d.line_eq_foldl n]
  exact prefix_foldl_addCause ..

theorem line_upTo_succ {n : Nat} {cause : String} (here : d.causes[n]? = some cause) :
    (d.upTo (n + 1)).line = addCause (d.upTo n).line cause := by
  obtain ⟨inside, rfl⟩ := List.getElem?_eq_some_iff.mp here
  rw [line, line, upTo, upTo, List.take_succ_eq_append_getElem inside, List.foldl_append]
  rfl

/-- Each text ends what has been said when its turn is over. -/
theorem suffix_line_upTo {n : Nat} {text : String} (here : d.texts[n]? = some text) :
    text.toList <:+ (d.upTo n).line.toList := by
  cases n with
  | zero =>
      cases here
      exact List.suffix_rfl
  | succ n =>
      rw [d.line_upTo_succ here]
      exact suffix_addCause ..

theorem getElem?_texts_length : d.texts[d.causes.length]? = some d.root := by
  rw [root, List.getLastD_eq_getLast?, ← List.getLast?_cons, List.getLast?_eq_getElem?]
  rfl

/-- A cause that ends what has been said before it may as well be left out. -/
theorem line_without {n : Nat} {cause : String} (here : d.causes[n]? = some cause)
    (quoted : cause.toList <:+ (d.upTo n).line.toList) : (d.without n).line = d.line := by
  have next := d.line_upTo_succ here
  rw [addCause_of_suffix quoted] at next
  rw [d.line_eq_foldl (n + 1), next, line, line, without, upTo, List.eraseIdx_eq_take_drop_succ,
    List.foldl_append]

end Line

/-- The line begins with the failure and ends with its root. What it has said after each text is a
beginning of it that ends with that text. A cause is said unless what has been said before ends with
it, and one that the text right before it ends with makes no difference to the line. -/
theorem line_says_all (d : Diagnosis) :
    d.text.toList <+: d.line.toList ∧ d.root.toList <:+ d.line.toList ∧
      (d.upTo 0).line = d.text ∧ (d.upTo d.causes.length).line = d.line ∧
      (∀ i text, d.texts[i]? = some text → text.toList <:+ (d.upTo i).line.toList) ∧
      (∀ i j, i ≤ j → (d.upTo i).line.toList <+: (d.upTo j).line.toList ∧
        (d.upTo j).line.toList <+: d.line.toList) ∧
      (∀ i cause, d.causes[i]? = some cause →
        (cause.toList <:+ (d.upTo i).line.toList → (d.upTo (i + 1)).line = (d.upTo i).line) ∧
        (¬ cause.toList <:+ (d.upTo i).line.toList →
          (d.upTo (i + 1)).line = (d.upTo i).line ++ ": " ++ cause)) ∧
      ∀ i text cause, d.texts[i]? = some text → d.causes[i]? = some cause →
        cause.toList <:+ text.toList → (d.without i).line = d.line := by
  refine ⟨d.prefix_line_upTo 0, ?_, rfl, by rw [upTo_length], fun i text => d.suffix_line_upTo,
    fun i j le => ?_, fun i cause here => ?_, fun i text cause above here quoted => ?_⟩
  · have last := d.suffix_line_upTo d.getElem?_texts_length
    rw [upTo_length] at last
    exact last
  · have earlier := (d.upTo j).prefix_line_upTo i
    rw [upTo_upTo d le] at earlier
    exact ⟨earlier, d.prefix_line_upTo j⟩
  · rw [d.line_upTo_succ here]
    exact ⟨addCause_of_suffix, addCause_of_not_suffix⟩
  · exact d.line_without here (quoted.trans (d.suffix_line_upTo above))

end Diagnosis

end Vigil
