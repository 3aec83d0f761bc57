import RoundTrip.Files.Tree

/-!
# The places of a tree

What a file that is written changes in a tree. A node is seen without what it holds
(`Node.outline`), so the directories above the file look as they did before, and
`outline_at?_put` says that the place of the file is the only one that looks different. What a
file holds (`Node.contentAt`) and where the directories are (`Node.dirAt`) are read off outlines.

`Node.WellFormed` is what a file system sees to: the entries of a directory have different names,
and no name is empty, too long, a point or two, or holds a slash. `Node.LinkFree` says that a tree
consists of directories and files.
-/

namespace RoundTrip

namespace Node

/-- Induction over a tree, from what is no directory to the directories that hold it. -/
theorem induct {P : Node → Prop} (leaf : ∀ n : Node, n.isDir = false → P n)
    (dir : ∀ entries : List (Name × Node), (∀ e ∈ entries, P e.2) → P (.dir entries)) (n : Node) :
    P n :=
  @Node.rec P (fun entries => ∀ e ∈ entries, P e.2) (fun e => P e.2)
    (fun _ _ => leaf _ rfl) (fun _ => leaf _ rfl) (leaf _ rfl) dir
    (fun _ h => nomatch h) (fun _ _ h ih => List.forall_mem_cons.2 ⟨h, ih⟩) (fun _ _ h => h) n

/-! ## Places -/

/-- A place in a subtree is a place in the tree. -/
theorem at?_append (n : Node) (p q : Place) : n.at? (p ++ q) = (n.at? p).bind (·.at? q) := by
  induction p generalizing n with
  | nil => rfl
  | cons name p ih =>
    simp only [List.cons_append, at?]
    cases n.entry? name with
    | none => rfl
    | some m => exact ih m

/-- The place of an entry. -/
theorem at?_concat {n : Node} {dir : Place} {entries : List (Name × Node)}
    (h : n.at? dir = some (.dir entries)) (name : Name) :
    n.at? (dir ++ [name]) = entries.lookup name := by
  rw [at?_append, h]
  simp only [Option.bind_some, at?, entry?, Node.entries]
  cases entries.lookup name <;> rfl

/-- What is no directory has no place but its own. -/
theorem at?_cons_of_isDir_eq_false {n : Node} (h : n.isDir = false) (name : Name) (place : Place) :
    n.at? (name :: place) = none := by
  cases n with
  | dir => simp [isDir] at h
  | file | link | null => rfl

/-- A node that has a place within is a directory. -/
theorem exists_entries {n m : Node} {name : Name} {place : Place}
    (h : n.at? (name :: place) = some m) : ∃ entries, n = .dir entries := by
  cases n with
  | dir entries => exact ⟨entries, rfl⟩
  | file | link | null => simp [at?, entry?, Node.entries] at h

/-- The node that an association list gives for a name is an entry. -/
theorem mem_of_lookup {entries : List (Name × Node)} {name : Name} {n : Node}
    (h : entries.lookup name = some n) : (name, n) ∈ entries := by
  obtain ⟨l₁, l₂, rfl, -⟩ := List.lookup_eq_some_iff.1 h
  simp

/-- Where names are different, an entry is found by its name. -/
theorem lookup_of_mem {entries : List (Name × Node)} (hnodup : (entries.map Prod.fst).Nodup)
    {e : Name × Node} (h : e ∈ entries) : entries.lookup e.1 = some e.2 := by
  obtain ⟨l₁, l₂, rfl⟩ := List.mem_iff_append.1 h
  refine List.lookup_eq_some_iff.2 ⟨l₁, l₂, rfl, fun p hp => ?_⟩
  rw [List.map_append, List.map_cons, List.nodup_append] at hnodup
  simpa using fun he => hnodup.2.2 p.1 (List.mem_map_of_mem hp) e.1 (by simp) he.symm

/-! ## Outlines -/

/-- A node without what it holds, if it is a directory. -/
def outline : Node → Node
  | .dir _ => .dir []
  | n => n

/-- What a node holds, if it is a file. -/
def content? : Node → Option Bytes
  | .file content _ => some content
  | _ => none

@[simp] theorem isDir_outline (n : Node) : n.outline.isDir = n.isDir := by cases n <;> rfl

@[simp] theorem isFile_outline (n : Node) : n.outline.isFile = n.isFile := by cases n <;> rfl

@[simp] theorem content?_outline (n : Node) : n.outline.content? = n.content? := by cases n <;> rfl

/-- Putting the node under a name that is there changes nothing. -/
theorem putEntry_of_lookup {entries : List (Name × Node)} {name : Name} {n : Node}
    (h : entries.lookup name = some n) : putEntry name n entries = entries := by
  induction entries with
  | nil => cases h
  | cons e rest ih =>
    rw [putEntry]
    split
    · next he =>
      have hname : (name == e.1) = true := by simp [he]
      rw [List.lookup_cons, hname] at h
      obtain rfl := Option.some.inj h
      rw [← he]
    · next he =>
      have hname : (name == e.1) = false := by simpa using Ne.symm he
      rw [List.lookup_cons, hname] at h
      rw [ih h]

/-- Putting the node at a place that is there changes nothing. -/
theorem put_of_at? {root n : Node} {place : Place} (h : root.at? place = some n) :
    put n place root = root := by
  induction place generalizing root with
  | nil => exact (Option.some.inj h).symm
  | cons name place ih =>
    obtain ⟨entries, rfl⟩ := exists_entries h
    obtain ⟨m, hm, h⟩ := Option.bind_eq_some_iff.1 h
    have hm : entries.lookup name = some m := hm
    rw [put, hm, Option.getD_some, ih h, putEntry_of_lookup hm]

/-- An entry of a directory with a node under a name is this one or was there before. -/
theorem mem_putEntry {entries : List (Name × Node)} {name : Name} {node : Node} {e : Name × Node}
    (h : e ∈ putEntry name node entries) : e = (name, node) ∨ e ∈ entries := by
  induction entries with
  | nil => exact .inl (List.mem_singleton.1 h)
  | cons x rest ih =>
    rw [putEntry] at h
    split at h
    · exact (List.mem_cons.1 h).imp_right (List.mem_cons_of_mem _)
    · obtain rfl | h := List.mem_cons.1 h
      · exact .inr (List.mem_cons_self ..)
      · exact (ih h).imp_right (List.mem_cons_of_mem _)

/-- Putting a node under a name adds no name but this one. -/
theorem nodup_putEntry {entries : List (Name × Node)} (hnodup : (entries.map Prod.fst).Nodup)
    (name : Name) (node : Node) : ((putEntry name node entries).map Prod.fst).Nodup := by
  induction entries with
  | nil => simp [putEntry]
  | cons x rest ih =>
    rw [List.map_cons, List.nodup_cons] at hnodup
    rw [putEntry]
    split
    · next hx =>
      rw [List.map_cons, List.nodup_cons, ← hx]
      exact hnodup
    · next hx =>
      rw [List.map_cons, List.nodup_cons]
      refine ⟨fun hmem => ?_, ih hnodup.2⟩
      obtain ⟨e, he, hfst⟩ := List.mem_map.1 hmem
      obtain rfl | he := mem_putEntry he
      · exact hx hfst.symm
      · exact hnodup.1 (hfst ▸ List.mem_map_of_mem he)

/-- An outline tells whether there is a node that is no directory. -/
theorem exists_file_congr {n? m? : Option Node} (h : m?.map outline = n?.map outline) :
    (∃ m, m? = some m ∧ m.isDir = false) ↔ ∃ n, n? = some n ∧ n.isDir = false := by
  have hfile (n? : Option Node) : (∃ n, n? = some n ∧ n.isDir = false) ↔
      ∃ n, n?.map outline = some n ∧ n.isDir = false := by
    cases n? <;> simp
  rw [hfile, hfile n?, h]

/-- Behind a node that is put under a name, all else is where it was. -/
theorem at?_putEntry (name : Name) (node : Node) (entries : List (Name × Node)) (other : Name)
    (place : Place) : (Node.dir (putEntry name node entries)).at? (other :: place) =
      if other = name then node.at? place else (Node.dir entries).at? (other :: place) := by
  simp only [at?, entry?, Node.entries, lookup_putEntry]
  split <;> rfl

/-- A node that holds nothing, put where there is no directory, changes the outline of its place
alone. -/
theorem outline_at?_put_bare {root new : Node} {dir : Place} {entries : List (Name × Node)}
    {name : Name} (hnew : new.entries = []) (h : root.at? dir = some (.dir entries))
    (hn : ∀ n, root.at? (dir ++ [name]) = some n → n.isDir = false) (place : Place) :
    ((put new (dir ++ [name]) root).at? place).map outline =
      if place = dir ++ [name] then some new.outline else (root.at? place).map outline := by
  induction dir generalizing root place with
  | nil =>
    obtain rfl : root = .dir entries := Option.some.inj h
    cases place with
    | nil => simp [put, at?, outline]
    | cons other place =>
      rw [List.nil_append, put, put, at?_putEntry]
      by_cases ho : other = name
      · subst ho
        rw [if_pos rfl]
        cases place with
        | nil => simp [at?]
        | cons below place =>
          -- neither the node nor what was there before it has a place within
          have hold : (Node.dir entries).at? (other :: below :: place) = none := by
            rw [← List.singleton_append, at?_append]
            cases hx : (Node.dir entries).at? [other] with
            | none => rfl
            | some n => exact at?_cons_of_isDir_eq_false (hn n hx) below place
          have hwithin : new.at? (below :: place) = none := by
            simp [at?, entry?, hnew]
          rw [hold, hwithin]
          simp
      · simp [ho]
  | cons first dir ih =>
    obtain ⟨es, rfl⟩ := exists_entries h
    obtain ⟨n, hl, h⟩ := Option.bind_eq_some_iff.1 h
    have hl : es.lookup first = some n := hl
    have hat (place : Place) : (Node.dir es).at? (first :: place) = n.at? place := by
      simp [at?, entry?, Node.entries, hl]
    rw [List.cons_append, put, hl, Option.getD_some]
    rw [List.cons_append, hat] at hn
    cases place with
    | nil => simp [at?, outline]
    | cons other place =>
      rw [at?_putEntry]
      by_cases ho : other = first
      · rw [if_pos ho, ho, hat, ih h hn place]
        simp
      · simp [ho]

/-- Writing a file where there is no directory changes the outline of its place alone. -/
theorem outline_at?_put {root : Node} {dir : Place} {entries : List (Name × Node)} {name : Name}
    (h : root.at? dir = some (.dir entries))
    (hn : ∀ n, root.at? (dir ++ [name]) = some n → n.isDir = false) (content : Bytes) (mode : Nat)
    (place : Place) :
    ((put (.file content mode) (dir ++ [name]) root).at? place).map outline =
      if place = dir ++ [name] then some (.file content mode)
      else (root.at? place).map outline :=
  outline_at?_put_bare rfl h hn place

/-- Whether there is a directory at a place. -/
def dirAt (n : Node) (place : Place) : Bool := (n.at? place).any isDir

/-- What the file at a place holds. -/
def contentAt (n : Node) (place : Place) : Option Bytes := (n.at? place).bind content?

/-- An outline tells whether there is a directory. -/
theorem dirAt_eq (n : Node) (place : Place) :
    n.dirAt place = ((n.at? place).map outline).any isDir := by
  simp [dirAt, Option.any_map]

/-- An outline tells what a file holds. -/
theorem contentAt_eq (n : Node) (place : Place) :
    n.contentAt place = ((n.at? place).map outline).bind content? := by
  cases hx : n.at? place with
  | none => simp [contentAt, hx]
  | some m => simp [contentAt, hx]

/-- Where there is a directory, it has entries. -/
theorem dirAt_iff {n : Node} {place : Place} :
    n.dirAt place = true ↔ ∃ entries, n.at? place = some (.dir entries) := by
  unfold dirAt
  match n.at? place with
  | none | some (.file ..) | some (.link _) | some .null => simp [isDir]
  | some (.dir entries) => simp [isDir]

/-- Below what is no directory there is none. -/
theorem dirAt_of_dirAt_append {n : Node} {p q : Place} (h : n.dirAt (p ++ q) = true) :
    n.dirAt p = true := by
  obtain ⟨entries, h⟩ := dirAt_iff.1 h
  rw [at?_append] at h
  obtain ⟨m, hm, hq⟩ := Option.bind_eq_some_iff.1 h
  cases q with
  | nil => exact dirAt_iff.2 ⟨entries, hm.trans hq⟩
  | cons name q =>
    obtain ⟨es, rfl⟩ := exists_entries hq
    exact dirAt_iff.2 ⟨es, hm⟩

/-- Whether a tree consists of directories and files. -/
def LinkFree (root : Node) : Prop :=
  ∀ place n, root.at? place = some n → n.isDir = true ∨ n.isFile = true

section Put

variable {root : Node} {dir : Place} {name : Name}

/-- Writing a file where there is no directory changes the outline of its place alone. -/
theorem outline_at?_put_of_dirAt (h : root.dirAt dir = true)
    (hn : root.dirAt (dir ++ [name]) = false) (content : Bytes) (mode : Nat) (place : Place) :
    ((put (.file content mode) (dir ++ [name]) root).at? place).map outline =
      if place = dir ++ [name] then some (.file content mode)
      else (root.at? place).map outline := by
  obtain ⟨entries, h⟩ := dirAt_iff.1 h
  exact outline_at?_put h (fun n hx => by simpa [dirAt, hx] using hn) content mode place

/-- Writing a file makes no directory and removes none. -/
theorem dirAt_put (h : root.dirAt dir = true) (hn : root.dirAt (dir ++ [name]) = false)
    (content : Bytes) (mode : Nat) (place : Place) :
    (put (.file content mode) (dir ++ [name]) root).dirAt place = root.dirAt place := by
  rw [dirAt_eq, outline_at?_put_of_dirAt h hn]
  by_cases hp : place = dir ++ [name]
  · rw [if_pos hp, hp, hn]
    rfl
  · rw [if_neg hp, dirAt_eq]

/-- A file that is written holds what was written, and all others hold what they held. -/
theorem contentAt_put (h : root.dirAt dir = true) (hn : root.dirAt (dir ++ [name]) = false)
    (content : Bytes) (mode : Nat) (place : Place) :
    (put (.file content mode) (dir ++ [name]) root).contentAt place =
      if place = dir ++ [name] then some content else root.contentAt place := by
  rw [contentAt_eq, outline_at?_put_of_dirAt h hn, contentAt_eq]
  split <;> rfl

/-- Writing a file makes no link. -/
theorem LinkFree.put (hf : root.LinkFree) (h : root.dirAt dir = true)
    (hn : root.dirAt (dir ++ [name]) = false) (content : Bytes) (mode : Nat) :
    (Node.put (.file content mode) (dir ++ [name]) root).LinkFree := by
  intro place n hx
  have ho := outline_at?_put_of_dirAt h hn content mode place
  rw [hx, Option.map_some] at ho
  rw [← isDir_outline, ← isFile_outline]
  split at ho
  · obtain ho := Option.some.inj ho
    exact .inr (by rw [ho]; rfl)
  · obtain ⟨m, hm, ho⟩ := Option.map_eq_some_iff.1 ho.symm
    rw [← ho, isDir_outline, isFile_outline]
    exact hf place m hm

end Put

end Node

/-! ## Well-formed trees -/

/-- What the name of an entry has to be: not empty, neither a point nor two, without a slash and not
too long. -/
structure Name.IsProper (name : Name) : Prop where
  ne_nil : name ≠ []
  ne_dot : name ≠ Path.dot
  ne_dotDot : name ≠ Path.dotDot
  slash_notMem : Path.slash ∉ name
  length_le : name.length ≤ FileTree.nameLimit

instance (name : Name) : Decidable name.IsProper :=
  decidable_of_iff (name ≠ [] ∧ name ≠ Path.dot ∧ name ≠ Path.dotDot ∧ Path.slash ∉ name ∧
    name.length ≤ FileTree.nameLimit)
    ⟨fun ⟨h₁, h₂, h₃, h₄, h₅⟩ => ⟨h₁, h₂, h₃, h₄, h₅⟩,
      fun ⟨h₁, h₂, h₃, h₄, h₅⟩ => ⟨h₁, h₂, h₃, h₄, h₅⟩⟩

namespace Node

/-- What a file system sees to: the entries of each directory have proper names, and no two of them
the same. -/
def WellFormed (root : Node) : Prop :=
  ∀ place entries, root.at? place = some (.dir entries) →
    (entries.map Prod.fst).Nodup ∧ ∀ e ∈ entries, Name.IsProper e.1

/-- The subtrees of a well-formed tree are well-formed. -/
theorem WellFormed.at? {root n : Node} {place : Place} (hw : root.WellFormed)
    (h : root.at? place = some n) : n.WellFormed := by
  intro below entries hb
  exact hw (place ++ below) entries (by rw [at?_append, h]; exact hb)

/-- The entries of a well-formed tree have proper names. -/
theorem WellFormed.isProper {root n : Node} {dir : Place} {name : Name} (hw : root.WellFormed)
    (h : root.at? (dir ++ [name]) = some n) : name.IsProper := by
  rw [at?_append] at h
  obtain ⟨m, hm, hname⟩ := Option.bind_eq_some_iff.1 h
  obtain ⟨entries, rfl⟩ := exists_entries hname
  simp only [Node.at?, entry?, Node.entries, Option.bind_fun_some] at hname
  exact (hw dir entries hm).2 _ (mem_of_lookup hname)

/-- The entries of a well-formed directory are well-formed. -/
theorem WellFormed.of_mem {entries : List (Name × Node)} (hw : (Node.dir entries).WellFormed)
    {e : Name × Node} (he : e ∈ entries) : e.2.WellFormed := by
  have hnodup := (hw [] entries rfl).1
  have h : (Node.dir entries).at? [e.1] = some e.2 := by
    simp [Node.at?, entry?, Node.entries, lookup_of_mem hnodup he]
  exact hw.at? h

/-- A directory with well-formed entries is well-formed if their names are different and proper. -/
theorem WellFormed.dir {entries : List (Name × Node)} (hnodup : (entries.map Prod.fst).Nodup)
    (hproper : ∀ e ∈ entries, Name.IsProper e.1) (hentries : ∀ e ∈ entries, e.2.WellFormed) :
    (Node.dir entries).WellFormed := by
  intro place es h
  cases place with
  | nil =>
    obtain rfl := Node.dir.inj (Option.some.inj h)
    exact ⟨hnodup, hproper⟩
  | cons name place =>
    obtain ⟨m, hm, h⟩ := Option.bind_eq_some_iff.1 h
    exact hentries _ (mem_of_lookup hm) place es h

/-- A well-formed node may be put under a proper name. -/
theorem WellFormed.putEntry {entries : List (Name × Node)} (hw : (Node.dir entries).WellFormed)
    {name : Name} (hn : name.IsProper) {node : Node} (hnode : node.WellFormed) :
    (Node.dir (Node.putEntry name node entries)).WellFormed := by
  obtain ⟨hnodup, hproper⟩ := hw [] entries rfl
  refine .dir (nodup_putEntry hnodup name node) (fun e he => ?_) fun e he => ?_
  · obtain rfl | he := mem_putEntry he
    · exact hn
    · exact hproper e he
  · obtain rfl | he := mem_putEntry he
    · exact hnode
    · exact hw.of_mem he

/-- A well-formed node may be put in a directory under a proper name. -/
theorem WellFormed.put {root : Node} (hw : root.WellFormed) {place : Place}
    (hdir : root.dirAt place = true) {name : Name} (hn : name.IsProper) {node : Node}
    (hnode : node.WellFormed) : (Node.put node (place ++ [name]) root).WellFormed := by
  obtain ⟨entries, hat⟩ := dirAt_iff.1 hdir
  clear hdir
  induction place generalizing root with
  | nil =>
    obtain rfl : root = .dir entries := Option.some.inj hat
    exact hw.putEntry hn hnode
  | cons first place ih =>
    obtain ⟨es, rfl⟩ := exists_entries hat
    obtain ⟨m, hm, hat⟩ := Option.bind_eq_some_iff.1 hat
    have hmem : (first, m) ∈ es := mem_of_lookup hm
    rw [List.cons_append, Node.put, show es.lookup first = some m from hm, Option.getD_some]
    exact hw.putEntry ((hw [] es rfl).2 _ hmem) (ih (hw.of_mem hmem) hat)

/-- What is no directory is well-formed. -/
theorem WellFormed.leaf {n : Node} (h : n.isDir = false) : n.WellFormed := by
  intro place es hx
  cases place with
  | nil =>
    obtain rfl := Option.some.inj hx
    cases h
  | cons name place =>
    rw [at?_cons_of_isDir_eq_false h] at hx
    cases hx

end Node

end RoundTrip
