import NativeBindings.Failure

/-!
# File trees

A case-sensitive tree of files and directories without links. A place is the list of names that
leads to an entry from the root, which is always a directory. The operations fail with the fault
that the system reports; those that can stop half-way return the tree as they leave it. What the
tree allows may still be refused by the disk that holds it.
-/

namespace NativeBindings

/-- The names that lead to an entry. -/
abbrev Place := List String

/-- What stands at a place. -/
inductive Entry
  | file (content : List UInt8) (executable : Bool)
  | directory
  deriving DecidableEq, Repr

/-- Files and directories by their places. -/
structure FileTree where
  entries : List (Place × Entry)
  deriving DecidableEq, Repr

/-- A change to a tree that takes room or permission. -/
inductive Change
  | makeDirectory (place : Place)
  | makeScratchFile (directory : Place)
  /-- Everything written to a file so far is brought to the disk. -/
  | flush (file : Place)
  | move (source target : Place)
  deriving DecidableEq, Repr

/-- The changes that the system refuses although the tree allows them, and with which fault. -/
abbrev Disk := Change → Option IoFault

/-- A disk with room and permission for every change. -/
def Disk.willing : Disk :=
  fun _ => none

namespace FileTree

/-- A tree with nothing in it. -/
def empty : FileTree :=
  ⟨[]⟩

/-- What stands at a place. -/
def get? (tree : FileTree) (place : Place) : Option Entry :=
  if place = [] then some .directory else (tree.entries.find? (·.1 == place)).map (·.2)

/-- Put an entry at a place, instead of what stood there. -/
def put (tree : FileTree) (place : Place) (entry : Entry) : FileTree :=
  ⟨tree.entries.filter (·.1 != place) ++ [(place, entry)]⟩

/-- Take the entry at a place away. -/
def erase (tree : FileTree) (place : Place) : FileTree :=
  ⟨tree.entries.filter (·.1 != place)⟩

/-- Leaving out one place does not change what is found at another. -/
theorem find?_without (entries : List (Place × Entry)) {place other : Place}
    (h : other ≠ place) :
    (entries.filter (·.1 != place)).find? (·.1 == other) = entries.find? (·.1 == other) := by
  rw [List.find?_filter]
  congr 1
  funext entry
  by_cases hentry : entry.1 = other
  · simp [hentry, h]
  · simp [hentry]

/-- The root is a directory. -/
@[simp]
theorem get?_nil (tree : FileTree) : tree.get? [] = some .directory := by
  simp [get?]

/-- After an entry is put at a place, it stands there, and everything else is as before. -/
theorem get?_put (tree : FileTree) {place : Place} (hplace : place ≠ []) (entry : Entry)
    (other : Place) :
    (tree.put place entry).get? other = if other = place then some entry else tree.get? other := by
  by_cases hnil : other = []
  · subst hnil
    simp [get?, hplace.symm]
  · by_cases hsame : other = place
    · subst hsame
      have hnone : List.find? (fun e : Place × Entry => e.1 == other)
          (tree.entries.filter (·.1 != other)) = none := by
        simp
      simp [get?, put, hnil, List.find?_append, hnone]
    · simp [get?, put, hnil, hsame, List.find?_append, find?_without tree.entries hsame,
        Ne.symm hsame]

/-- After the entry at a place is taken away, nothing stands there, and everything else is as
before. -/
theorem get?_erase (tree : FileTree) {place : Place} (hplace : place ≠ []) (other : Place) :
    (tree.erase place).get? other = if other = place then none else tree.get? other := by
  by_cases hnil : other = []
  · subst hnil
    simp [get?, hplace.symm]
  · by_cases hsame : other = place
    · subst hsame
      simp [get?, erase, hnil]
    · simp [get?, erase, hnil, hsame, find?_without tree.entries hsame]

/-- A name takes at most 255 bytes. -/
def isTooLong (name : String) : Bool :=
  name.utf8ByteSize > 255

/-- What is wrong with the text of a path, whatever stands in the tree. A path takes at most 4095
bytes. -/
def textFault? (path : Path) : Option IoFault :=
  if '\x00' ∈ path.text.toList then some .nullInPath
  else if path.text.utf8ByteSize > 4095 then some .nameTooLong
  else none

/-- The place that segments lead to from another place. All but the last have to lead to
directories; nothing need stand at the last. An empty segment and a dot stay in a directory, and
two dots lead one level up. -/
def walk (tree : FileTree) : Place → List String → Except IoFault Place
  | place, [] => .ok place
  | place, name :: rest =>
    match tree.get? place with
    | none => .error .notFound
    | some (.file _ _) => .error .notADirectory
    | some .directory =>
      if name = "" ∨ name = "." then tree.walk place rest
      else if name = ".." then tree.walk place.dropLast rest
      else if isTooLong name then .error .nameTooLong
      else tree.walk (place ++ [name]) rest

/-- The place of a path. -/
def locate (tree : FileTree) (path : Path) : Except IoFault Place :=
  match textFault? path with
  | some fault => .error fault
  | none => tree.walk [] path.segments

/-- What stands at the place of a path. -/
def lookup (tree : FileTree) (path : Path) : Except IoFault Entry := do
  match tree.get? (← tree.locate path) with
  | none => throw .notFound
  | some entry => return entry

/-- The content of a file. -/
def read (tree : FileTree) (path : Path) : Except IoFault (List UInt8) := do
  match ← tree.lookup path with
  | .file content _ => return content
  | .directory => throw .isADirectory

/-- Replace the content of a file, or make one that is not executable. -/
def write (tree : FileTree) (path : Path) (content : List UInt8) : Except IoFault FileTree := do
  let place ← tree.locate path
  match tree.get? place with
  | some .directory => throw .isADirectory
  | some (.file _ executable) => return tree.put place (.file content executable)
  | none => return tree.put place (.file content false)

/-- Make a directory at a place, if there is none. A file that stands there is in the way; the fault
says whether more was to come below it. -/
def makeDirectory (disk : Disk) (tree : FileTree) (place : Place) (isLast : Bool) :
    FileTree × Option IoFault :=
  match tree.get? place with
  | some .directory => (tree, none)
  | some (.file _ _) => (tree, some (if isLast then .alreadyPresent else .notADirectory))
  | none =>
    match disk (.makeDirectory place) with
    | some fault => (tree, some fault)
    | none => (tree.put place .directory, none)

/-- Make every directory that is missing on the way from a place along names. Those made before a
fault stay. -/
def makeDirectories (disk : Disk) (tree : FileTree) :
    Place → List String → FileTree × Option IoFault
  | _, [] => (tree, none)
  | place, name :: rest =>
    if name = ".." then tree.makeDirectories disk place.dropLast rest
    else if isTooLong name then (tree, some .nameTooLong)
    else
      match tree.makeDirectory disk (place ++ [name]) rest.isEmpty with
      | (tree, some fault) => (tree, some fault)
      | (tree, none) => tree.makeDirectories disk (place ++ [name]) rest

/-- Make a directory with all its parents; one that is there already is fine. -/
def createDirectories (tree : FileTree) (path : Path) (disk : Disk := .willing) :
    FileTree × Option IoFault :=
  match textFault? path with
  | some fault => (tree, some fault)
  | none => tree.makeDirectories disk [] path.parts

/-- A name for a scratch file in a directory, taken by nothing there. -/
def scratchName (tree : FileTree) (directory : Place) : String :=
  let names := (List.range (tree.entries.length + 1)).map fun n => ".tmp" ++ toString n
  (names.find? fun name => (tree.get? (directory ++ [name])).isNone).getD ".tmp"

/-- Make an empty scratch file in a directory: the tree with it, and its place. -/
def createScratch (tree : FileTree) (path : Path) (disk : Disk := .willing) :
    Except IoFault (FileTree × Place) := do
  let directory ← tree.locate path
  match tree.get? directory, disk (.makeScratchFile directory) with
  | none, _ => throw .notFound
  | some (.file _ _), _ => throw .notADirectory
  | some .directory, some fault => throw fault
  | some .directory, none =>
    let place := directory ++ [tree.scratchName directory]
    return (tree.put place (.file [] false), place)

/-- Move a file to a path, over the file that may be there. All or nothing happens. -/
def rename (tree : FileTree) (source : Place) (path : Path) (disk : Disk := .willing) :
    Except IoFault FileTree := do
  let target ← tree.locate path
  match tree.get? source, tree.get? target, disk (.move source target) with
  | none, _, _ => throw .notFound
  | _, some .directory, _ => throw .isADirectory
  | _, _, some fault => throw fault
  | some entry, _, none => return (tree.erase source).put target entry

end FileTree

end NativeBindings
