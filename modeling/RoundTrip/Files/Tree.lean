import RoundTrip.Files.Node
import RoundTrip.Reason

/-!
# Finding files by their paths

A path is followed from the root or from the working directory, one piece at a time. A symbolic
link on the way is replaced by its target, at most 40 times; a link at the end is followed unless
the caller wants the link itself. A piece that is too long, a file where a directory is needed and
a missing entry that is not the last piece end the walk. A missing entry that is the last piece
leads to a vacant place, where an entry can be made.
-/

namespace RoundTrip

/-- A file tree and the working directory in it. -/
structure FileTree where
  /-- The tree. -/
  root : Node
  /-- The working directory. -/
  cwd : Place := []
  deriving Inhabited

namespace FileTree

/-- Where a path leads. -/
inductive Landing where
  /-- To a node that exists. -/
  | found (place : Place) (node : Node)
  /-- To an entry that does not exist, of a directory that does. -/
  | vacant (dir : Place) (name : Name)

/-- The end of a walk that has met no link or one. -/
inductive Walk where
  /-- The walk is over. -/
  | landed (l : Landing)
  /-- A link in a directory is to be replaced by its target, with some pieces still to follow. -/
  | linked (dir : Place) (target : Path) (rest : List Bytes)
  /-- The walk cannot go on. -/
  | refused (e : Errno)

/-- The longest name of an entry. -/
def nameLimit : Nat := 255

/-- The longest path. -/
def pathLimit : Nat := 4095

/-- How many links a path may lead through. -/
def linkLimit : Nat := 40

/-- The pieces of a path that are followed; a slash at the end asks for a directory. -/
def hops (p : Path) : List Bytes :=
  let pieces := Path.cut p.bytes
  let named := pieces.filter (!·.isEmpty)
  if named.isEmpty || !(pieces.getLastD []).isEmpty then named else named ++ [Path.dot]

/-- Follows pieces from a place, up to the first link that has to be replaced. -/
def walk (root : Node) (follow : Bool) : Place → List Bytes → Walk
  | here, [] =>
    match root.at? here with
    | some n => .landed (.found here n)
    | none => .refused .noEntry
  | here, piece :: rest =>
    match root.at? here with
    | some (.dir entries) =>
      if piece = Path.dot then walk root follow here rest
      else if piece = Path.dotDot then walk root follow here.dropLast rest
      else if nameLimit < piece.length then .refused .nameTooLong
      else
        match entries.lookup piece with
        | some (.link target) =>
          if rest.isEmpty && !follow then .landed (.found (here ++ [piece]) (.link target))
          else .linked here target rest
        | some _ => walk root follow (here ++ [piece]) rest
        | none => if rest.isEmpty then .landed (.vacant here piece) else .refused .noEntry
    | some _ => .refused .notDirectory
    | none => .refused .noEntry

/-- Without pieces, a walk ends where it begins. -/
theorem walk_nil (root : Node) (follow : Bool) (here : Place) :
    walk root follow here [] = match root.at? here with
      | some n => .landed (.found here n)
      | none => .refused .noEntry := by
  rw [walk]

/-- Follows pieces from a place through at most `links` links. -/
def land (root : Node) (follow : Bool) : Nat → Place → List Bytes → Except Errno Landing
  | links, here, pieces =>
    match walk root follow here pieces with
    | .landed l => .ok l
    | .refused e => .error e
    | .linked dir target rest =>
      match links with
      | 0 => .error .tooManyLinks
      | links + 1 =>
        if target.isEmpty then .error .noEntry
        else land root follow links (if target.isAbsolute then [] else dir) (hops target ++ rest)

/-- Why a path cannot be followed, whatever the tree is. -/
def refusal? (p : Path) : Option Reason :=
  if p.bytes.contains 0 then some .zeroInFileName
  else if p.isEmpty then some (.errno .noEntry)
  else if pathLimit < p.bytes.length then some (.errno .nameTooLong)
  else none

/-- Where pieces lead, from the root or from the working directory. -/
def landOn (t : FileTree) (follow absolute : Bool) (pieces : List Bytes) :
    Except Reason Landing :=
  match land t.root follow linkLimit (if absolute then [] else t.cwd) pieces with
  | .ok l => .ok l
  | .error e => .error (.errno e)

/-- Where a path leads; `follow` says whether a link at its end is followed. -/
def landing (t : FileTree) (follow : Bool) (p : Path) : Except Reason Landing :=
  match refusal? p with
  | some r => .error r
  | none => t.landOn follow p.isAbsolute (hops p)

/-- The node that a path leads to. -/
def node (t : FileTree) (p : Path) : Except Reason Node :=
  match t.landing true p with
  | .ok (.found _ n) => .ok n
  | .ok (.vacant _ _) => .error (.errno .noEntry)
  | .error r => .error r

/-- The node that a path leads to, if there is one. -/
def node? (t : FileTree) (p : Path) : Option Node := (t.node p).toOption

/-- Whether a path leads to a directory. -/
def isDir (t : FileTree) (p : Path) : Bool := (t.node? p).any Node.isDir

/-- Whether a path leads to a file. -/
def isFile (t : FileTree) (p : Path) : Bool := (t.node? p).any Node.isFile

/-- Whether a path leads to a file that somebody may execute. -/
def isExecutable (t : FileTree) (p : Path) : Bool := (t.node? p).any Node.isExecutable

/-- The path of the working directory. -/
def here (t : FileTree) : Path := ⟨Path.slash :: Path.glue t.cwd⟩

end FileTree

end RoundTrip
