import Vigil.Files.Failure
import Vigil.Files.Path
import Vigil.Keyed

/-!
A file system. Names lead to files, and a file that has been opened stays what it is when its name
goes or comes to lead elsewhere. A lock belongs to the file, not to a name of it.
-/

namespace Vigil

/-- What a name leads to. -/
inductive FileNode where
  /-- The file of a number. -/
  | file (id : Nat)
  | directory
deriving DecidableEq, Repr

/-- A file system as one process sees it. -/
structure Files where
  /-- What each path leads to: names from the root on, with slashes between them. -/
  nodes : Keyed String FileNode
  /-- What stands in each file, also in those without a name. -/
  contents : Keyed Nat (List UInt8)
  /-- The number of the next file. -/
  next : Nat
  /-- The files that are locked. -/
  locked : List Nat
  /-- Where relative paths start. -/
  home : List String
deriving DecidableEq, Repr

namespace Files

/-- A file system with one directory, in which relative paths start. -/
def ofHome (name : String) : Files :=
  ⟨Keyed.empty.insert name .directory, .empty, 0, [], [name]⟩

instance : Inhabited Files := ⟨ofHome "home"⟩

/-! ### Names -/

def key (names : List String) : String := "/".intercalate names

/-- What names lead to. -/
def node? (fs : Files) (names : List String) : Option FileNode :=
  if names.isEmpty then some .directory else fs.nodes.get? (key names)

/-- Where a path leads: the names from the root on. -/
structure Place where
  names : List String
  /-- Whether there has to be a directory, since the path ends in a slash. -/
  asDirectory : Bool
deriving DecidableEq, Repr

/-- Go from a directory by one name; `..` goes up. -/
def descend (fs : Files) (names : List String) (name : String) : Except FileFailure (List String) :=
  match fs.node? names with
  | none => .error .missing
  | some (.file _) => .error .notDirectory
  | some .directory =>
    if name == "" || name == "." then .ok names
    else if name == ".." then .ok names.dropLast
    else .ok (names ++ [name])

/-- Follow a path. All but its last name must lead to directories. -/
def place (fs : Files) (path : String) : Except FileFailure Place := do
  let start := if Path.isAbsolute path then [] else fs.home
  let names ← (Path.names path).foldlM fs.descend start
  return ⟨names, path.toList.getLast? == some '/'⟩

def find (fs : Files) (path : String) : Except FileFailure FileNode := do
  if path == "" then throw .missing
  let p ← fs.place path
  match fs.node? p.names with
  | none => throw .missing
  | some (.file id) => if p.asDirectory then throw .notDirectory else return .file id
  | some .directory => return .directory

def exists? (fs : Files) (path : String) : Bool := (fs.find path).toOption.isSome

def isDirectory (fs : Files) (path : String) : Bool := (fs.find path).toOption == some .directory

/-! ### Files -/

def content (fs : Files) (id : Nat) : List UInt8 := (fs.contents.get? id).getD []

def setContent (fs : Files) (id : Nat) (bytes : List UInt8) : Files :=
  { fs with contents := fs.contents.insert id bytes }

def append (fs : Files) (id : Nat) (bytes : List UInt8) : Files :=
  fs.setContent id (fs.content id ++ bytes)

/-- Open the file at a path for writing, and make it if it is missing. Nothing in it is changed. -/
def openOrCreate (fs : Files) (path : String) : Except FileFailure (Nat × Files) := do
  if path == "" then throw .missing
  let p ← fs.place path
  if p.asDirectory then throw .isDirectory
  match fs.node? p.names with
  | some .directory => throw .isDirectory
  | some (.file id) => return (id, fs)
  | none => return (fs.next, { fs with
      nodes := fs.nodes.insert (key p.names) (.file fs.next)
      contents := fs.contents.insert fs.next []
      next := fs.next + 1 })

def decode? (bytes : List UInt8) : Option String := String.fromUTF8? ⟨bytes.toArray⟩

def encode (s : String) : List UInt8 := s.toUTF8.data.toList

def read (fs : Files) (path : String) : Except FileFailure (List UInt8) := do
  match ← fs.find path with
  | .directory => throw .isDirectory
  | .file id => return fs.content id

def readText (fs : Files) (path : String) : Except FileFailure String := do
  match decode? (← fs.read path) with
  | some s => return s
  | none => throw .notText

/-- Write the file at a path anew. -/
def write (fs : Files) (path : String) (bytes : List UInt8) : Except FileFailure Files := do
  let (id, fs) ← fs.openOrCreate path
  return fs.setContent id bytes

def remove (fs : Files) (path : String) : Except FileFailure Files := do
  match ← fs.find path with
  | .directory => throw .isDirectory
  | .file _ => return { fs with nodes := fs.nodes.erase (key (← fs.place path).names) }

/-! ### Directories -/

def makeDirectory (fs : Files) (path : String) : Except FileFailure Files := do
  if path == "" then throw .missing
  let p ← fs.place path
  match fs.node? p.names with
  | some _ => throw .taken
  | none => return { fs with nodes := fs.nodes.insert (key p.names) .directory }

/-- Make a directory and all directories above it that are missing. -/
def makeDirectories : (depth : Nat) → Files → String → Except FileFailure Files
  | 0, _, _ => .error .missing
  | depth + 1, fs, path =>
    if path == "" then .ok fs
    else match fs.makeDirectory path with
      | .ok fs => .ok fs
      | .error .missing => do
        let fs ← match Path.parent? path with
          | some above => makeDirectories depth fs above
          | none => throw .missing
        match fs.makeDirectory path with
        | .ok fs => return fs
        | .error f => if fs.isDirectory path then return fs else throw f
      | .error f => if fs.isDirectory path then .ok fs else .error f

def ensureDirectory (fs : Files) (path : String) : Except FileFailure Files :=
  makeDirectories (path.length + 1) fs path

def isBelow (path above : String) : Bool := (above ++ "/").toList.isPrefixOf path.toList

def removeTree (fs : Files) (path : String) : Except FileFailure Files := do
  match ← fs.find path with
  | .file _ => throw .notDirectory
  | .directory =>
    let top := key (← fs.place path).names
    return { fs with nodes := fs.nodes.filter fun k _ => k != top && !isBelow k top }

/-- The path under which something is found after a directory has been renamed. -/
def movedKey (source target k : String) : String :=
  target ++ String.ofList (k.toList.drop source.length)

/-- Rename a file or a directory. A file in the way is replaced, and an empty directory by
another. -/
def rename (fs : Files) (source target : String) : Except FileFailure Files := do
  let what ← fs.find source
  let old := key (← fs.place source).names
  let p ← fs.place target
  let new := key p.names
  if old == new then return fs
  if isBelow new old then throw .intoItself
  if isBelow old new then throw .notEmpty
  match what, fs.node? p.names with
  | .file _, some .directory => throw .isDirectory
  | .directory, some (.file _) => throw .notDirectory
  | .directory, some .directory =>
    if fs.nodes.keys.any fun k => isBelow k new then throw .notEmpty
  | .file _, _ => if p.asDirectory then throw .notDirectory
  | _, _ => pure ()
  let moves (k : String) : Bool := k == old || isBelow k old
  let stay := fs.nodes.entries.filter fun (k, _) => k != new && !moves k
  let moved :=
    (fs.nodes.entries.filter fun (k, _) => moves k).map fun (k, n) => (movedKey old new k, n)
  return { fs with nodes := .ofList (stay ++ moved) }

/-! ### Locks -/

def isLocked (fs : Files) (id : Nat) : Bool := fs.locked.contains id

def lock (fs : Files) (id : Nat) : Files := { fs with locked := id :: fs.locked }

def unlock (fs : Files) (id : Nat) : Files := { fs with locked := fs.locked.erase id }

/-! ### Listing -/

/-- All paths below the directory in which relative paths start, with a slash after directories, and
what stands in the files. -/
def listing (fs : Files) : List (String × Option (List UInt8)) :=
  let top := key fs.home
  let below := fs.nodes.entries.filterMap fun (k, n) =>
    if isBelow k top then
      let path := String.ofList (k.toList.drop (top.length + 1))
      some (match n with
        | .directory => (path ++ "/", none)
        | .file id => (path, some (fs.content id)))
    else none
  below.mergeSort fun a b => !(b.1 < a.1)

end Files

end Vigil
