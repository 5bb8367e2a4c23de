import NativeBindings.Emission
import NativeBindings.Formatter
import NativeBindings.NativeClass

/-!
# Backends

A backend turns a class into the content of one file. The file is written under a scratch name and
moved into place when it is complete, so a run that fails leaves no part of a file behind.
-/

namespace NativeBindings

/-- A way to turn a class into a file. -/
structure Backend where
  /-- The name of the backend itself. -/
  name : String
  /-- Where the file of a class stands, relative to the output directory. -/
  outputPath : NativeClass → Path
  /-- What is written for a class. -/
  emit : NativeClass → Emission
  /-- What is done to the finished file; problems are reported and stop nothing. -/
  finish : Path → FileTree → FileTree × Option ToolWarning

/-- A file that has been generated. -/
structure GeneratedFile where
  /-- The class that the file was generated for. -/
  className : String
  path : Path
  warning : Option ToolWarning
  deriving DecidableEq, Repr

/-- Write an emission to a scratch file and move that to a path: the tree, and what kept the file
from being there. The scratch file is gone in any case. -/
def Emission.place (disk : Disk) (emission : Emission) (scratch : Place) (path : Path)
    (tree : FileTree) : FileTree × Option Failure :=
  let written := tree.put scratch (.file emission.bytes false)
  match emission.outcome with
  | .error failure => (written.erase scratch, some failure)
  | .ok () =>
    match disk (.flush scratch) with
    | some fault => (written.erase scratch, some (.inputOutput (.flushing path) fault))
    | none =>
      match written.rename scratch path disk with
      | .error fault => (written.erase scratch, some (.inputOutput (.writing path) fault))
      | .ok tree => (tree, none)

/-- The directory that the file at a path stands in. A path without parts leaves the one that the
file was asked for under. -/
def directoryOf (base path : Path) : Path :=
  path.parent?.getD base

/-- Bring an emission to a path, and make the directories that it needs: the tree, and what kept the
file from being there. -/
def Emission.deliver (emission : Emission) (base path : Path) (tree : FileTree)
    (disk : Disk := .willing) : FileTree × Option Failure :=
  let directory := directoryOf base path
  match tree.createDirectories directory disk with
  | (tree, some fault) => (tree, some (.inputOutput (.creatingDirectory directory) fault))
  | (tree, none) =>
    match tree.createScratch directory disk with
    | .error fault => (tree, some (.inputOutput (.creatingScratchFile directory) fault))
    | .ok (tree, scratch) => emission.place disk scratch path tree

/-- Generate the file of a class under a directory. -/
def Backend.generate (backend : Backend) (base : Path) (c : NativeClass) (tree : FileTree)
    (disk : Disk := .willing) : FileTree × Except Failure GeneratedFile :=
  let path := base.join (backend.outputPath c)
  match (backend.emit c).deliver base path tree disk with
  | (tree, some failure) => (tree, .error failure)
  | (tree, none) =>
    let (tree, warning) := backend.finish path tree
    (tree, .ok ⟨c.name.qualified, path, warning⟩)

end NativeBindings
