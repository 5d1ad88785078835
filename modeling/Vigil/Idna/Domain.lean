import Vigil.Unicode.BidiClass
import Vigil.Unicode.IdnaMapping
import Vigil.Unicode.JoiningType
import Vigil.Unicode.Mark
import Vigil.Unicode.Normal
import Vigil.Idna.Punycode

/-!
Internationalised domain names in their ASCII form. Characters are mapped and composed, each label
is checked, and a label with characters above ASCII is written `xn--` and punycode. Hyphens are
free, lengths are not limited, and the characters that no domain may hold are those of the URL
standard.
-/

namespace Vigil.Idna

open Vigil.Unicode

/-- ASCII characters that no domain may hold: controls, the space, and what delimits in a URL. -/
def isForbidden (c : Char) : Bool :=
  c.toNat ≤ 0x20 || c.toNat == 0x7F ||
    ['#', '/', ':', '<', '>', '?', '@', '[', '\\', ']', '^', '|', '%'].contains c

/-- What a character is mapped to: ASCII to its lower case. -/
def mapChar? (c : Char) : Option (List Char) :=
  if c.toNat < 128 then some [c.toLower]
  else match idnaStatus c with
    | .valid => some [c]
    | .ignored => some []
    | .mapped image => some (image.map Char.ofNat)
    | .disallowed => none

/-- Whether a character may stand in a label that has been mapped. -/
def isMapped (c : Char) : Bool :=
  if c.toNat < 128 then !c.isUpper && !isForbidden c else idnaStatus c == .valid

/-! ### Checks on a label -/

/-- The text before a joiner ends with a virama. -/
def afterVirama (before : List Char) : Bool :=
  match before with
  | c :: _ => combiningClass c == 9
  | [] => false

/-- A non-joiner may separate two characters that would join across it. -/
def betweenJoining (before after : List Char) : Bool :=
  let skip := fun (l : List Char) => l.dropWhile fun c => joinTransparent.contains c.toNat
  match skip before, skip after with
  | l :: _, r :: _ =>
    (joinsLeft.contains l.toNat || joinsBoth.contains l.toNat) &&
      (joinsRight.contains r.toNat || joinsBoth.contains r.toNat)
  | _, _ => false

/-- Zero-width joiners and non-joiners stand only where a script needs them; `before` is the text
already passed, last character first. -/
def joinersAllowed (before : List Char) : List Char → Bool
  | [] => true
  | c :: rest =>
    (if c.toNat == 0x200C then afterVirama before || betweenJoining before rest
     else if c.toNat == 0x200D then afterVirama before
     else true) && joinersAllowed (c :: before) rest

/-- A label does not start with a mark, and its joiners are allowed. -/
def isValidLabel (label : List Char) : Bool :=
  (match label with
    | c :: _ => !isMark c
    | [] => true) && joinersAllowed [] label

/-! ### Direction -/

/-- A domain is bidirectional if any character is written from right to left or is an Arabic
digit. -/
def isBidirectional (labels : List (List Char)) : Bool :=
  labels.any (·.any fun c => match bidiClass c with
    | .right | .arabic | .arabicNumber => true
    | _ => false)

/-- The rule for a label of a bidirectional domain: it is all in one direction, starts with a
letter, and ends with a letter or digit apart from marks. -/
def directionAllowed (label : List Char) : Bool :=
  let classes := label.map bidiClass
  match classes with
  | [] => true
  | first :: _ =>
    let last := (classes.reverse.dropWhile (· == .nonspacing)).head?
    match first with
    | .left =>
      classes.all (fun b => b == .left || b == .europeanNumber || b == .neutral ||
        b == .nonspacing) &&
        (last == some .left || last == some .europeanNumber)
    | .right | .arabic =>
      classes.all (fun b => b != .left && b != .other) &&
        (match last with
          | some .right | some .arabic | some .europeanNumber | some .arabicNumber => true
          | _ => false) &&
        !(classes.contains .europeanNumber && classes.contains .arabicNumber)
    | _ => false

/-! ### Labels and domains -/

/-- A label as it is checked and as it is written. -/
structure Label where
  text : List Char
  ascii : List Char
deriving Repr

/-- What marks a label as punycode. -/
def acePrefix : List Char := ['x', 'n', '-', '-']

/-- A mapped label in both forms. A label in punycode stands for a text that is not all ASCII and
that mapping and composing leave as it is. -/
def Label.ofMapped? (label : List Char) : Option Label :=
  if acePrefix.isPrefixOf label then
    let code := label.drop 4
    if code.isEmpty || code.getLast? == some '-' then none
    else do
      let text ← Punycode.decode? code
      if text.all isMapped && text.any (128 ≤ ·.toNat) && composed text == text && isValidLabel text
      then some ⟨text, label⟩
      else none
  else if label.all (·.toNat < 128) then some ⟨label, label⟩
  else if isValidLabel label then some ⟨label, acePrefix ++ Punycode.encode label⟩
  else none

def mapped? (domain : List Char) : Option (List Char) := do
  let chars ← domain.mapM mapChar?
  let text := composed chars.flatten
  if text.any (fun c => c.toNat < 128 && isForbidden c) then none else some text

def toAscii? (domain : List Char) : Option (List Char) := do
  let text ← mapped? domain
  let labels ← (text.splitOn '.').mapM Label.ofMapped?
  let texts := labels.map Label.text
  if isBidirectional texts && !texts.all directionAllowed then none
  else some (['.'].intercalate (labels.map Label.ascii))

end Vigil.Idna
