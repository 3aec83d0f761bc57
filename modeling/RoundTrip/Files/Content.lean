import RoundTrip.Files.Tree
import RoundTrip.Failure

/-!
# Reading and changing files

Files are read and written whole. A file that is written keeps its permissions, a new one gets the
plain ones, and a path that ends in a slash cannot be written to. Directories are made together
with those above them that are missing.
-/

namespace RoundTrip.FileTree

/-- The content of the file that a path leads to. -/
def read (t : FileTree) (p : Path) : Except Reason Bytes :=
  match t.node p with
  | .ok (.file content _) => .ok content
  | .ok .null => .ok []
  | .ok _ => .error (.errno .isDirectory)
  | .error r => .error r

/-- The content of the file that a path leads to, as a text. -/
def readText (t : FileTree) (p : Path) : Except Reason String := do
  match Utf8.decode? (← t.read p) with
  | some text => .ok text
  | none => .error .notText

/-- The tree with a node at a place. -/
def put (t : FileTree) (place : Place) (n : Node) : FileTree :=
  { t with root := Node.put n place t.root }

/-- Where a path leads that is to be written to, through at most `links` links. A slash at the end
of the path, or of the target of a link at its end, asks for a directory, which cannot be written
to. -/
def landToWrite (root : Node) : Nat → Bool → Place → List Bytes → Except Errno Landing
  | links, slashed, here, pieces =>
    if slashed then
      (land root true links here (pieces.dropLast.dropLast ++ [Path.dot])).bind fun _ =>
        .error .isDirectory
    else
      match walk root true here pieces with
      | .landed l => .ok l
      | .refused e => .error e
      | .linked dir target rest =>
        match links with
        | 0 => .error .tooManyLinks
        | links + 1 =>
          if target.isEmpty then .error .noEntry
          else
            landToWrite root links (rest.isEmpty && target.bytes.getLast? == some Path.slash)
              (if target.isAbsolute then [] else dir) (hops target ++ rest)

/-- Writes a file; `change` makes the new content of the old one, and `mode` are the permissions of
a new file. -/
def updateAs (t : FileTree) (mode : Nat) (p : Path) (change : Bytes → Bytes) :
    Except Reason FileTree :=
  match refusal? p with
  | some r => .error r
  | none =>
    let pieces := hops p
    let slashed := pieces ≠ [] ∧ p.bytes.getLast? = some Path.slash
    match landToWrite t.root linkLimit slashed (if p.isAbsolute then [] else t.cwd) pieces with
    | .ok (.found place (.file content mode)) => .ok (t.put place (.file (change content) mode))
    | .ok (.found _ .null) => .ok t
    | .ok (.found _ _) => .error (.errno .isDirectory)
    | .ok (.vacant dir name) => .ok (t.put (dir ++ [name]) (.file (change []) mode))
    | .error e => .error (.errno e)

/-- Writes a file; `change` makes the new content of the old one. -/
def update (t : FileTree) (p : Path) (change : Bytes → Bytes) : Except Reason FileTree :=
  t.updateAs Node.plainMode p change

/-- Writes a file. -/
def write (t : FileTree) (p : Path) (content : Bytes) : Except Reason FileTree :=
  t.update p fun _ => content

/-- Makes a directory. -/
def makeDir (t : FileTree) (p : Path) : Except Reason FileTree :=
  match refusal? p with
  | some r => .error r
  | none =>
    let pieces := (Path.cut p.bytes).filter (!·.isEmpty)
    match t.landOn false p.isAbsolute pieces with
    | .ok (.found _ _) => .error (.errno .fileExists)
    | .ok (.vacant dir name) => .ok (t.put (dir ++ [name]) (.dir []))
    | .error r => .error r

/-- What became of files that were to be changed: the files behind it, and whether all went
well. -/
abbrev Attempted := FileTree × Except Reason Unit

/-- Makes a directory unless it is there. -/
def ensureDir (t : FileTree) (p : Path) : Attempted :=
  match t.makeDir p with
  | .ok t => (t, .ok ())
  | .error r => (t, if t.isDir p then .ok () else .error r)

/-- Makes a directory and those above it that are missing, for a path of at most `length` bytes.
Directories that were made stay, even if one below them cannot be made. -/
def makeDirsUpTo (t : FileTree) : Nat → Path → Attempted
  | 0, _ => (t, .ok ())
  | length + 1, p =>
    if p.isEmpty then (t, .ok ())
    else
      match t.makeDir p with
      | .ok t => (t, .ok ())
      | .error (.errno .noEntry) =>
        match p.parent? with
        | none => (t, .error (.stated "failed to create whole tree"))
        | some parent =>
          match t.makeDirsUpTo length parent with
          | (t, .ok ()) => t.ensureDir p
          | (t, .error r) => (t, .error r)
      | .error r => (t, if t.isDir p then .ok () else .error r)

/-- Makes a directory and those above it that are missing. -/
def makeDirs (t : FileTree) (p : Path) : Attempted := t.makeDirsUpTo (p.bytes.length + 1) p

/-- Makes a symbolic link. -/
def makeLink (t : FileTree) (p target : Path) : Except Reason FileTree :=
  match t.landing false p with
  | .ok (.found _ _) => .error (.errno .fileExists)
  | .ok (.vacant dir name) => .ok (t.put (dir ++ [name]) (.link target))
  | .error r => .error r

/-- Sets the permissions of the file that a path leads to. -/
def setMode (t : FileTree) (p : Path) (mode : Nat) : Except Reason FileTree :=
  match t.landing true p with
  | .ok (.found place (.file content _)) => .ok (t.put place (.file content mode))
  | .ok (.found _ _) => .ok t
  | .ok (.vacant _ _) => .error (.errno .noEntry)
  | .error r => .error r

/-- Removes the entry that a path leads to, with all that it holds. A link is removed itself. -/
def remove (t : FileTree) (p : Path) : Except Reason FileTree :=
  match t.landing false p with
  | .ok (.found place _) => .ok { t with root := Node.remove place t.root }
  | .ok (.vacant _ _) => .error (.errno .noEntry)
  | .error r => .error r

end RoundTrip.FileTree
