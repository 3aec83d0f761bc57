import RoundTrip.Path

/-!
# File trees

A tree of directories, files and symbolic links. A place in a tree is a list of names from the
root, without links and points; `Node.at?` looks a place up, and `Node.put` and `Node.remove`
change one. The entries of a directory stand in no order that means anything.
-/

namespace RoundTrip

/-- The name of an entry of a directory. -/
abbrev Name := Bytes

/-- A place in a tree: the names on the way to it from the root. -/
abbrev Place := List Name

/-- A file tree. -/
inductive Node where
  /-- A file, with its permissions. -/
  | file (content : Bytes) (mode : Nat)
  /-- A symbolic link. -/
  | link (target : Path)
  /-- The null device, which reads as empty and swallows what is written to it. -/
  | null
  /-- A directory. -/
  | dir (entries : List (Name × Node))
  deriving Inhabited

namespace Node

/-- The permissions of a file that nobody chose. -/
def plainMode : Nat := 0o644

/-- Whether a node is a directory. -/
def isDir : Node → Bool
  | .dir _ => true
  | _ => false

/-- Whether a node is a file. -/
def isFile : Node → Bool
  | .file _ _ => true
  | _ => false

/-- Whether a node is a file that somebody may execute. -/
def isExecutable : Node → Bool
  | .file _ mode => mode &&& 0o111 != 0
  | _ => false

/-- The entries of a directory; other nodes have none. -/
def entries : Node → List (Name × Node)
  | .dir entries => entries
  | _ => []

/-- The entry of a directory that has a name. -/
def entry? (n : Node) (name : Name) : Option Node := n.entries.lookup name

/-- The node at a place. -/
def at? : Node → Place → Option Node
  | n, [] => some n
  | n, name :: place => (n.entry? name).bind (·.at? place)
termination_by structural _ place => place

/-- Entries with a node under a name, in the place of the one that was there. -/
def putEntry (name : Name) (node : Node) : List (Name × Node) → List (Name × Node)
  | [] => [(name, node)]
  | e :: rest => if e.1 = name then (name, node) :: rest else e :: putEntry name node rest

/-- The tree with a node at a place. Directories on the way that are missing are made; a node on
the way that is none stays as it is. -/
def put (new : Node) : Place → Node → Node
  | [], _ => new
  | name :: place, .dir entries =>
    .dir (putEntry name (put new place ((entries.lookup name).getD (.dir []))) entries)
  | _ :: _, n => n

/-- The tree without the node at a place. -/
def remove : Place → Node → Node
  | [name], .dir entries => .dir (entries.filter (·.1 != name))
  | name :: place, .dir entries =>
    match entries.lookup name with
    | some n => .dir (putEntry name (remove place n) entries)
    | none => .dir entries
  | _, n => n

/-- After a node is put under a name, it is found there and all else is found where it was. -/
theorem lookup_putEntry (name other : Name) (node : Node) (entries : List (Name × Node)) :
    (putEntry name node entries).lookup other =
      if other = name then some node else entries.lookup other := by
  induction entries with
  | nil =>
    by_cases h : other = name
    · simp [putEntry, h]
    · have : (other == name) = false := by simpa using h
      simp [putEntry, List.lookup_cons, h, this]
  | cons e rest ih =>
    obtain ⟨m, x⟩ := e
    simp only [putEntry]
    by_cases hm : m = name
    · subst hm
      by_cases h : other = m
      · simp [h]
      · have : (other == m) = false := by simpa using h
        simp [List.lookup_cons, h, this]
    · simp only [hm, if_false, List.lookup_cons]
      by_cases h : other = m
      · subst h; simp [hm]
      · have : (other == m) = false := by simpa using h
        simp [this, ih]

end Node

end RoundTrip
