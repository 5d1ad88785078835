import Vigil.Toml.Scalar
import Vigil.Toml.Table

/-!
Reading TOML documents. Arrays and tables in braces are nested less than eighty deep, and dotted
keys have fewer than eighty parts.
-/

namespace Vigil.Toml

open Vigil.Text

/-- The bound on nesting and on parts of a key. -/
def depthLimit : Nat := 80

/-! ### Keys -/

/-- Whether a character may stand in a key without quotes. -/
def isBareChar (c : Char) : Bool := c.isAlphanum || c == '_' || c == '-'

def takePart? (s : List Char) : Option (String × List Char) :=
  match s with
  | [] => none
  | c :: rest =>
    if c == '"' || c == '\'' then takeLine? c rest
    else
      let (name, rest) := s.span isBareChar
      if name.isEmpty then none else some (String.ofList name, rest)

/-- The parts of a key with points between, blanks around them aside. -/
def readParts (s : List Char) : Option (List String × Rest s) := do
  let (part, r) ← takePart? (s.dropWhile isBlankChar)
  let r ← Rest.of? s r
  match skipWhile isBlankChar r.1 with
  | ⟨[], _⟩ => some ([part], r)
  | ⟨c :: rest, h⟩ =>
    have h : rest.length < s.length := Nat.lt_trans h r.2
    if c == '.' then
      let (parts, r') ← readParts rest
      some (part :: parts, r'.within (Nat.le_of_lt h))
    else some ([part], ⟨c :: rest, Nat.lt_of_le_of_lt ‹_› r.2⟩)
termination_by s.length
decreasing_by omega

def readKey (s : List Char) : Option (List String × Rest s) :=
  (readParts s).filter fun p => p.1.length < depthLimit

/-! ### Comments -/

/-- What follows a comment on a line, if there is one. -/
def skipComment (s : List Char) : List Char :=
  match s with
  | '#' :: rest => rest.dropWhile isTextChar
  | _ => s

/-- What follows the end of a line; a comment may stand in front of it, and the text may end. -/
def lineEnd? (s : List Char) : Option (List Char) :=
  let rest := skipComment (s.dropWhile isBlankChar)
  if rest.isEmpty then some [] else takeNewline? rest

/-- What follows blanks, line ends, and comments that a line end follows. -/
def readGap (s : List Char) : Option { r : List Char // r.length ≤ s.length } :=
  match skipWhile isBlankChar s with
  | ⟨[], _⟩ => some ⟨[], Nat.zero_le _⟩
  | ⟨c :: rest, h⟩ =>
    if c == '#' || c == '\n' || c == '\r' then do
      let r ← takeNewline? (skipComment (c :: rest))
      let r ← Rest.of? s r
      let ⟨r', h'⟩ ← readGap r.1
      some ⟨r', Nat.le_of_lt (Nat.lt_of_le_of_lt h' r.2)⟩
    else some ⟨c :: rest, h⟩
termination_by s.length
decreasing_by exact r.2

/-! ### Values -/

mutual

/-- A value that holds arrays and tables at most `depth` deep. -/
def readValue (depth : Nat) (s : List Char) : Option (Value × Rest s) :=
  match s with
  | [] => none
  | c :: rest =>
    if c == '[' then
      match depth with
      | 0 => none
      | depth + 1 => (readItems depth rest).map fun (vs, r) => (.array vs, r.behind)
    else if c == '\x7b' then
      match depth with
      | 0 => none
      | depth + 1 => do
        match skipWhile isBlankChar rest with
        | ⟨[], _⟩ => none
        | ⟨d :: rest', h⟩ =>
          if d == '\x7d' then some (.table .braces [], ⟨rest', Nat.lt_succ_of_lt h⟩)
          else
            let (es, r) ← readEntries depth rest
            some (← tableOf .braces [] es, r.behind)
    else do
      let (v, r) ← takeScalar? (c :: rest)
      some (v, ← Rest.of? _ r)
termination_by (depth, s.length, 0)
decreasing_by
  · left; omega
  · left; omega

/-- The items of an array up to its closing bracket. A comma may follow the last one. -/
def readItems (depth : Nat) (s : List Char) : Option (List Value × Rest s) := do
  match ← readGap s with
  | ⟨[], _⟩ => none
  | ⟨c :: rest, h⟩ =>
    if c == ']' then some ([], ⟨rest, h⟩)
    else
      let (v, r) ← readValue depth (c :: rest)
      match ← readGap r.1 with
      | ⟨[], _⟩ => none
      | ⟨d :: rest', h'⟩ =>
        have h' : rest'.length < s.length := Nat.lt_of_lt_of_le (Nat.lt_trans h' r.2) h
        if d == ',' then
          let (vs, r') ← readItems depth rest'
          some (v :: vs, r'.within (Nat.le_of_lt h'))
        else if d == ']' then some ([v], ⟨rest', h'⟩)
        else none
termination_by (depth, s.length, 1)
decreasing_by
  · right
    rcases Nat.lt_or_eq_of_le h with h | h
    · left; simpa using h
    · rw [h]; right; omega
  · right; left; omega

def readEntries (depth : Nat) (s : List Char) : Option (List (List String × Value) × Rest s) := do
  let (key, r) ← readKey s
  match skipWhile isBlankChar r.1 with
  | ⟨[], _⟩ => none
  | ⟨c :: rest, h⟩ =>
    have h : rest.length < s.length := Nat.lt_trans h r.2
    if c != '=' then none
    else
      have blanks := (skipWhile isBlankChar rest).2
      let (v, r') ← readValue depth (skipWhile isBlankChar rest).1
      match skipWhile isBlankChar r'.1 with
      | ⟨[], _⟩ => none
      | ⟨d :: rest', h'⟩ =>
        have h' : rest'.length < s.length :=
          Nat.lt_trans (Nat.lt_of_lt_of_le (Nat.lt_trans h' r'.2) blanks) h
        if d == ',' then
          let (es, r'') ← readEntries depth rest'
          some ((key, v) :: es, r''.within (Nat.le_of_lt h'))
        else if d == '\x7d' then some ([(key, v)], ⟨rest', h'⟩)
        else none
termination_by (depth, s.length, 1)
decreasing_by
  · right; left; omega
  · right; left; omega

end

/-! ### Documents -/

/-- A line of a document that says something. -/
inductive Line where
  | entry (key : List String) (value : Value)
  | header (path : List String) (isItem : Bool)

def takeHeader? (isItem : Bool) (s : List Char) : Option (Line × List Char) := do
  let (path, r) ← readKey s
  let rest ← takeChar? ']' (r.1.dropWhile isBlankChar)
  let rest ← if isItem then takeChar? ']' rest else some rest
  some (.header path isItem, rest)

def takeEntry? (s : List Char) : Option (Line × List Char) := do
  let (key, r) ← readKey s
  let rest ← takeChar? '=' (r.1.dropWhile isBlankChar)
  let (v, r) ← readValue (depthLimit - 1) (rest.dropWhile isBlankChar)
  some (.entry key v, r.1)

def takeLineBody? (s : List Char) : Option (Line × List Char) :=
  match s with
  | '[' :: '[' :: rest => takeHeader? true rest
  | '[' :: rest => takeHeader? false rest
  | _ => takeEntry? s

def readDocument (s : List Char) : Option (List Line) :=
  match skipWhile isBlankChar s with
  | ⟨[], _⟩ => some []
  | ⟨c :: rest, _⟩ =>
    if c == '#' || c == '\n' || c == '\r' then do
      let r ← Rest.of? s (← lineEnd? (c :: rest))
      readDocument r.1
    else do
      let (line, r) ← takeLineBody? (c :: rest)
      let r ← Rest.of? s (← lineEnd? r)
      (readDocument r.1).map (line :: ·)
termination_by s.length
decreasing_by all_goals exact r.2

/-- Lines as the entries in front of all headers, and the sections. -/
def sectionsOf : List Line → List (List String × Value) × List Section
  | [] => ([], [])
  | .entry key v :: rest => let (front, sections) := sectionsOf rest; ((key, v) :: front, sections)
  | .header path isItem :: rest =>
    let (items, sections) := sectionsOf rest
    ([], ⟨path, isItem, items⟩ :: sections)

/-- Read a document; a byte order mark in front does not count. -/
def read? (s : String) : Option Value := do
  let text := match s.toList with
    | '\ufeff' :: rest => rest
    | text => text
  let (front, sections) := sectionsOf (← readDocument text)
  ofSections front sections

end Vigil.Toml
