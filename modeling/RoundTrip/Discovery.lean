import RoundTrip.Artifact
import RoundTrip.Files.Tree

/-!
# Discovering artifacts

A walk comes upon the directories below a path, each before its subdirectories and the
subdirectories in the order of their names (`Node.folders`). A link is no directory, whatever it
leads to, so a walk never leaves the tree and never runs in circles. A directory whose path is too
long cannot be listed; the walk passes it by with all that it holds.

The artifacts below a path are those of its directories, in the order of the walk, and within a
directory those of its entries that are no directories, in the order of their names. A root that is
no directory has no artifacts.
-/

namespace RoundTrip

/-- Whether the first of two names comes first, byte by byte. -/
def Name.le (a b : Name) : Bool := decide (a ≤ b)

/-- The names of the entries that are no directories, in order. -/
def Node.fileNames (entries : List (Name × Node)) : List Name :=
  ((entries.filter fun e => !e.2.isDir).map Prod.fst).mergeSort Name.le

/-- The artifacts among some entries of a directory, in the order of the entries. -/
def Artifact.ofNames (dir : Path) (names : List Name) : List Artifact :=
  names.filterMap fun name => ofPath? (dir.join ⟨name⟩)

/-- Joins what the entries of a directory hold, in the order of their names. -/
def inNameOrder {α : Type} (rows : List (Name × List α)) : List α :=
  (rows.mergeSort fun a b => Name.le a.1 b.1).flatMap Prod.snd

/-- The path of a place below a path. -/
def Path.below (p : Path) (place : Place) : Path := place.foldl (fun p name => p.join ⟨name⟩) p

/-- A directory that a walk comes upon. -/
structure Folder where
  /-- Its place below the root of the walk. -/
  place : Place
  /-- Its entries. -/
  entries : List (Name × Node)

namespace Folder

/-- The path of a directory in a walk from a root. -/
def path (root : Path) (f : Folder) : Path := root.below f.place

/-- Why a directory cannot be listed. -/
def refusal? (root : Path) (f : Folder) : Option Reason := FileTree.refusal? (f.path root)

/-- The artifacts in a directory. -/
def artifacts (root : Path) (f : Folder) : List Artifact :=
  if (f.refusal? root).isSome then [] else Artifact.ofNames (f.path root) (Node.fileNames f.entries)

end Folder

namespace Node

mutual

/-- The directories that a walk from a root comes upon at a place and below it. -/
def folders (root : Path) (place : Place) : Node → List Folder
  | .dir entries =>
    ⟨place, entries⟩ ::
      if (FileTree.refusal? (root.below place)).isSome then []
      else inNameOrder (entryFolders root place entries)
  | _ => []
termination_by structural n => n

/-- The directories at and below each entry of a directory. -/
def entryFolders (root : Path) (place : Place) : List (Name × Node) → List (Name × List Folder)
  | [] => []
  | e :: rest => entryFolder root place e :: entryFolders root place rest
termination_by structural entries => entries

/-- The directories at and below an entry of a directory. -/
def entryFolder (root : Path) (place : Place) : Name × Node → Name × List Folder
  | (name, n) => (name, folders root (place ++ [name]) n)
termination_by structural e => e

end

end Node

namespace FileTree

/-- The directories that a walk from a path comes upon, or nothing if it leads to no directory. -/
def folders? (t : FileTree) (root : Path) : Option (List Folder) :=
  match t.node? root with
  | some (.dir entries) => some (Node.folders root [] (.dir entries))
  | _ => none

/-- The artifacts below a path, or nothing if it leads to no directory. -/
def artifacts? (t : FileTree) (root : Path) : Option (List Artifact) :=
  (t.folders? root).map (·.flatMap (·.artifacts root))

end FileTree

end RoundTrip
