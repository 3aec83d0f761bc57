import RoundTrip.Files.Content
import RoundTrip.Proofs.Files.Pieces

/-!
# Where paths lead

Pieces lead to a directory (`FileTree.LeadsTo`) through directories alone, so where they lead
depends on nothing but where the directories of the tree are (`leadsTo_congr`). A path lies in a
directory under a name (`FileTree.Lies`) if its last piece is the name and the others lead to the
directory. What a path leads to, links included, is in the tree (`landing_of_node?`). In a tree
without links a path is read, looked up and written to at its place (`Lies.node_eq`,
`Lies.content?_eq`, `Lies.write_eq`), unless the path itself is refused.
-/

namespace RoundTrip.FileTree

/-- Pieces that are followed from a place lead to a directory, through no link. -/
def LeadsTo (root : Node) (here : Place) (pieces : List Bytes) (dir : Place) : Prop :=
  ∃ entries, walk root true here pieces = .landed (.found dir (.dir entries))

section LeadsTo

variable {root : Node} {here dir : Place} {piece : Bytes} {pieces : List Bytes}

/-- No piece leads away. -/
theorem leadsTo_nil : LeadsTo root here [] dir ↔ here = dir ∧ root.dirAt dir = true := by
  simp only [LeadsTo, walk_nil, Node.dirAt_iff]
  constructor
  · rintro ⟨entries, h⟩
    split at h
    · next hx => cases h; exact ⟨rfl, entries, hx⟩
    · cases h
  · rintro ⟨rfl, entries, hx⟩
    exact ⟨entries, by rw [hx]⟩

/-- Pieces are followed only from a directory. -/
theorem LeadsTo.dirAt_here (h : LeadsTo root here pieces dir) : root.dirAt here = true := by
  cases pieces with
  | nil => obtain ⟨rfl, hdir⟩ := leadsTo_nil.1 h; exact hdir
  | cons piece rest =>
    obtain ⟨entries, h⟩ := h
    rw [walk] at h
    split at h
    · next es hx => exact Node.dirAt_iff.2 ⟨es, hx⟩
    · cases h
    · cases h

/-- A point leads nowhere. -/
theorem leadsTo_dot :
    LeadsTo root here (Path.dot :: pieces) dir ↔ LeadsTo root here pieces dir := by
  constructor
  · intro h
    obtain ⟨es, hx⟩ := Node.dirAt_iff.1 h.dirAt_here
    simpa [LeadsTo, walk, hx] using h
  · intro h
    obtain ⟨es, hx⟩ := Node.dirAt_iff.1 h.dirAt_here
    simpa [LeadsTo, walk, hx] using h

/-- Two points lead to the directory above. -/
theorem leadsTo_dotDot : LeadsTo root here (Path.dotDot :: pieces) dir ↔
    root.dirAt here = true ∧ LeadsTo root here.dropLast pieces dir := by
  have hne : Path.dotDot ≠ Path.dot := by decide
  constructor
  · intro h
    refine ⟨h.dirAt_here, ?_⟩
    obtain ⟨es, hx⟩ := Node.dirAt_iff.1 h.dirAt_here
    simpa [LeadsTo, walk, hx, hne] using h
  · rintro ⟨hhere, h⟩
    obtain ⟨es, hx⟩ := Node.dirAt_iff.1 hhere
    simpa [LeadsTo, walk, hx, hne] using h

/-- A name leads to the directory that has it. -/
theorem leadsTo_name (hdot : piece ≠ Path.dot) (hdotDot : piece ≠ Path.dotDot) :
    LeadsTo root here (piece :: pieces) dir ↔ root.dirAt here = true ∧
      piece.length ≤ nameLimit ∧ LeadsTo root (here ++ [piece]) pieces dir := by
  constructor
  · intro h
    refine ⟨h.dirAt_here, ?_⟩
    obtain ⟨es, hx⟩ := Node.dirAt_iff.1 h.dirAt_here
    obtain ⟨entries, h⟩ := h
    rw [walk, hx] at h
    simp only [hdot, hdotDot, if_false] at h
    split at h
    · cases h
    · next hlength =>
      refine ⟨Nat.le_of_not_lt hlength, entries, ?_⟩
      split at h
      · simp at h
      · exact h
      · split at h <;> cases h
  · rintro ⟨hhere, hlength, h⟩
    obtain ⟨es, hx⟩ := Node.dirAt_iff.1 hhere
    obtain ⟨below, hb⟩ := Node.dirAt_iff.1 h.dirAt_here
    rw [Node.at?_concat hx] at hb
    simpa [LeadsTo, walk, hx, hdot, hdotDot, Nat.not_lt.2 hlength, hb] using h

/-- Where pieces lead, there is a directory. -/
theorem LeadsTo.dirAt (h : LeadsTo root here pieces dir) : root.dirAt dir = true := by
  induction pieces generalizing here with
  | nil => exact (leadsTo_nil.1 h).2
  | cons piece rest ih =>
    by_cases hdot : piece = Path.dot
    · exact ih (leadsTo_dot.1 (hdot ▸ h))
    · by_cases hdotDot : piece = Path.dotDot
      · exact ih (leadsTo_dotDot.1 (hdotDot ▸ h)).2
      · exact ih ((leadsTo_name hdot hdotDot).1 h).2.2

/-- Where pieces lead depends on where the directories are. -/
theorem leadsTo_congr {root' : Node} (hroot : ∀ place, root'.dirAt place = root.dirAt place) :
    LeadsTo root' here pieces dir ↔ LeadsTo root here pieces dir := by
  induction pieces generalizing here with
  | nil => rw [leadsTo_nil, leadsTo_nil, hroot]
  | cons piece rest ih =>
    by_cases hdot : piece = Path.dot
    · rw [hdot, leadsTo_dot, leadsTo_dot, ih]
    · by_cases hdotDot : piece = Path.dotDot
      · rw [hdotDot, leadsTo_dotDot, leadsTo_dotDot, ih, hroot]
      · rw [leadsTo_name hdot hdotDot, leadsTo_name hdot hdotDot, ih, hroot]

/-- Points may be left out. -/
theorem leadsTo_filter_dot :
    LeadsTo root here (pieces.filter (· ≠ Path.dot)) dir ↔ LeadsTo root here pieces dir := by
  induction pieces generalizing here with
  | nil => rfl
  | cons piece rest ih =>
    by_cases hdot : piece = Path.dot
    · rw [hdot, leadsTo_dot, List.filter_cons_of_neg (by simp), ih]
    · rw [List.filter_cons_of_pos (by simpa using hdot)]
      by_cases hdotDot : piece = Path.dotDot
      · rw [hdotDot, leadsTo_dotDot, leadsTo_dotDot, ih]
      · rw [leadsTo_name hdot hdotDot, leadsTo_name hdot hdotDot, ih]

/-- Pieces behind others are followed from where the others lead. -/
theorem LeadsTo.walk_append (h : LeadsTo root here pieces dir) (back : List Bytes) :
    walk root true here (pieces ++ back) = walk root true dir back := by
  induction pieces generalizing here with
  | nil =>
    obtain ⟨rfl, -⟩ := leadsTo_nil.1 h
    rfl
  | cons piece rest ih =>
    obtain ⟨es, hx⟩ := Node.dirAt_iff.1 h.dirAt_here
    by_cases hdot : piece = Path.dot
    · subst hdot
      rw [← ih (leadsTo_dot.1 h)]
      simp [walk, hx]
    · by_cases hdotDot : piece = Path.dotDot
      · subst hdotDot
        rw [← ih (leadsTo_dotDot.1 h).2]
        simp [walk, hx, hdot]
      · obtain ⟨-, hlength, h⟩ := (leadsTo_name hdot hdotDot).1 h
        obtain ⟨below, hb⟩ := Node.dirAt_iff.1 h.dirAt_here
        rw [Node.at?_concat hx] at hb
        rw [← ih h]
        simp [walk, hx, hdot, hdotDot, Nat.not_lt.2 hlength, hb]

/-- Where pieces behind others lead. -/
theorem LeadsTo.append_iff (h : LeadsTo root here pieces dir) {back : List Bytes} {other : Place} :
    LeadsTo root here (pieces ++ back) other ↔ LeadsTo root dir back other := by
  rw [LeadsTo, LeadsTo, h.walk_append]

/-- A proper name in a directory leads to its entry. -/
theorem walk_name (hdir : root.dirAt dir = true) (hf : root.LinkFree) {name : Name}
    (hn : name.IsProper) :
    walk root true dir [name] = .landed (match root.at? (dir ++ [name]) with
      | some n => .found (dir ++ [name]) n
      | none => .vacant dir name) := by
  obtain ⟨es, hx⟩ := Node.dirAt_iff.1 hdir
  have hplace := Node.at?_concat hx name
  rw [walk, hx]
  simp only [hn.ne_dot, hn.ne_dotDot, Nat.not_lt.2 hn.length_le, if_false]
  cases hl : es.lookup name with
  | none => simp [hplace, hl]
  | some n =>
    rw [hl] at hplace
    cases n with
    | link target => simpa [Node.isDir, Node.isFile] using hf _ _ hplace
    | file | null | dir => simp [walk, hplace]

/-- Two directories to which the same pieces lead are the same. -/
theorem LeadsTo.det {other : Place} (h : LeadsTo root here pieces dir)
    (h' : LeadsTo root here pieces other) : dir = other := by
  obtain ⟨es, h⟩ := h
  obtain ⟨es', h'⟩ := h'
  rw [h] at h'
  injection h' with h'
  injection h' with h'

/-- Where pieces lead, the directory is found that is there. -/
theorem LeadsTo.walk_eq {entries : List (Name × Node)} (h : LeadsTo root here pieces dir)
    (hdir : root.at? dir = some (.dir entries)) :
    walk root true here pieces = .landed (.found dir (.dir entries)) := by
  have hend := h.walk_append []
  rw [List.append_nil] at hend
  rw [hend, walk_nil, hdir]

/-- In a tree without links, following pieces meets none. -/
theorem walk_ne_linked (hf : root.LinkFree) (target : Path) (rest : List Bytes) :
    walk root true here pieces ≠ .linked dir target rest := by
  intro h
  induction pieces generalizing here with
  | nil =>
    rw [walk_nil] at h
    split at h <;> cases h
  | cons piece pieces ih =>
    rw [walk] at h
    split at h
    · next es hx =>
      split at h
      · exact ih h
      split at h
      · exact ih h
      split at h
      · cases h
      split at h
      · next target hl =>
        have := hf _ _ ((Node.at?_concat hx piece).trans hl)
        simp [Node.isDir, Node.isFile] at this
      · exact ih h
      · split at h <;> cases h
    · cases h
    · cases h

/-- In a tree without links, pieces land where they are followed to. -/
theorem land_eq (hf : root.LinkFree) (links : Nat) {l : Landing} :
    land root true links here pieces = .ok l ↔ walk root true here pieces = .landed l := by
  rw [land.eq_def]
  cases hw : walk root true here pieces with
  | landed l' => simp [hw]
  | refused e => simp [hw]
  | linked dir target rest => exact absurd hw (walk_ne_linked hf target rest)

/-- What is written lands where the pieces are followed to. -/
theorem landToWrite_eq (links : Nat) {l : Landing}
    (h : walk root true here pieces = .landed l) :
    landToWrite root links false here pieces = .ok l := by
  rw [landToWrite.eq_def]
  simp [h]

end LeadsTo

/-! ## Paths that lie in a directory -/

/-- The place from which the pieces of a path are followed. -/
def origin (t : FileTree) (absolute : Bool) : Place := if absolute then [] else t.cwd

/-- A path lies in a directory under a name: the name is its last piece, and the others lead to the
directory. -/
structure Lies (t : FileTree) (p : Path) (dir : Place) (name : Name) : Prop where
  proper : name.IsProper
  leads : ∃ pre, Path.cut p.bytes = pre ++ [name] ∧
    LeadsTo t.root (t.origin p.isAbsolute) (Path.solidOf pre) dir

/-- What the file that a path leads to holds, if it can be read. -/
def content? (t : FileTree) (p : Path) : Option Bytes := (t.read p).toOption

variable {t : FileTree} {p : Path} {dir : Place} {name : Name}

/-- The path of an entry lies in the directory to which the pieces of the path of the directory
lead. -/
theorem lies_join {q : Path} (h : LeadsTo t.root (t.origin q.isAbsolute) q.solid dir)
    (hn : name.IsProper) : t.Lies (q.join ⟨name⟩) dir name := by
  obtain ⟨pre, hsolid, hcut⟩ := Path.cut_join q
  refine ⟨hn, pre, hcut hn, ?_⟩
  rwa [Path.isAbsolute_join q hn, hsolid]

/-- The pieces of the path of a subdirectory lead to it. -/
theorem leadsTo_join {q : Path} (h : LeadsTo t.root (t.origin q.isAbsolute) q.solid dir)
    (hn : name.IsProper) (hdir : t.root.dirAt (dir ++ [name]) = true) :
    LeadsTo t.root (t.origin (q.join ⟨name⟩).isAbsolute) (q.join ⟨name⟩).solid
      (dir ++ [name]) := by
  obtain ⟨pre, hsolid, hcut⟩ := Path.cut_join q
  rw [Path.isAbsolute_join q hn, Path.solid_eq_concat hn (hcut hn), hsolid, h.append_iff,
    leadsTo_name hn.ne_dot hn.ne_dotDot, leadsTo_nil]
  exact ⟨h.dirAt, hn.length_le, rfl, hdir⟩

/-- A path with another name lies in the same directory. -/
theorem Lies.withFileName (h : t.Lies p dir name) {other : Name} (ho : other.IsProper) :
    t.Lies (p.withFileName other) dir other := by
  obtain ⟨hn, pre, hcut, hleads⟩ := h
  obtain ⟨pre', hcut', hsolid⟩ := Path.cut_withFileName hn hcut ho
  refine ⟨ho, pre', hcut', ?_⟩
  rwa [Path.isAbsolute_withFileName hn hcut ho, hsolid]

/-- A path lies in one directory, under one name. -/
theorem Lies.det {dir' : Place} {name' : Name} (h : t.Lies p dir name)
    (h' : t.Lies p dir' name') : dir = dir' ∧ name = name' := by
  obtain ⟨-, pre, hcut, hleads⟩ := h
  obtain ⟨-, pre', hcut', hleads'⟩ := h'
  obtain ⟨rfl, hname⟩ := List.append_inj' (hcut.symm.trans hcut') rfl
  exact ⟨hleads.det hleads', (List.cons.inj hname).1⟩

/-- A directory in which a path lies is there. -/
theorem Lies.dirAt (h : t.Lies p dir name) : t.root.dirAt dir = true := by
  obtain ⟨-, pre, -, hleads⟩ := h
  exact hleads.dirAt

/-- Where a path lies depends on where the directories are. -/
theorem Lies.congr {t' : FileTree} (h : t.Lies p dir name) (hcwd : t'.cwd = t.cwd)
    (hroot : ∀ place, t'.root.dirAt place = t.root.dirAt place) : t'.Lies p dir name := by
  obtain ⟨hn, pre, hcut, hleads⟩ := h
  refine ⟨hn, pre, hcut, ?_⟩
  rw [leadsTo_congr hroot, origin, hcwd]
  exact hleads

/-- The pieces of a path that ends in a name are followed to the name. -/
theorem hops_eq {pre : List Bytes} (hn : name.IsProper) (h : Path.cut p.bytes = pre ++ [name]) :
    hops p = pre.filter (!·.isEmpty) ++ [name] := by
  simp [hops, h, hn.ne_nil]

/-- Of the pieces that are followed, those that lead somewhere are no points. -/
theorem filter_dot_named (pieces : List Bytes) :
    (pieces.filter (!·.isEmpty)).filter (· ≠ Path.dot) = Path.solidOf pieces := by
  rw [Path.solidOf, List.filter_filter]
  congr 1
  funext q
  by_cases hdot : q = Path.dot <;> simp [Path.isTrivial, hdot]

/-- The pieces that are followed are those that lead somewhere, and points. -/
theorem filter_dot_hops (p : Path) : (hops p).filter (· ≠ Path.dot) = p.solid := by
  simp only [hops]
  split
  · exact filter_dot_named _
  · rw [List.filter_append, filter_dot_named]
    simp [Path.solid]

/-- A path that leads to a node is not refused. -/
theorem refusal?_of_node? {n : Node} (h : t.node? p = some n) : refusal? p = none := by
  cases hr : refusal? p with
  | none => rfl
  | some r => simp [node?, node, landing, hr, Except.toOption] at h

/-! ## What is found is there -/

/-- What a walk finds is at the place where it finds it. -/
theorem walk_found {root : Node} {follow : Bool} {here place : Place} {pieces : List Bytes}
    {n : Node} (h : walk root follow here pieces = .landed (.found place n)) :
    root.at? place = some n := by
  induction pieces generalizing here with
  | nil =>
    rw [walk_nil] at h
    split at h
    · next m hm => cases h; exact hm
    · cases h
  | cons piece rest ih =>
    rw [walk] at h
    split at h
    · next es hx =>
      split at h
      · exact ih h
      split at h
      · exact ih h
      split at h
      · cases h
      split at h
      · next target hl =>
        split at h
        · cases h
          rw [Node.at?_concat hx, hl]
        · cases h
      · exact ih h
      · split at h <;> cases h
    · cases h
    · cases h

/-- A walk that ends at a vacant place ends in a directory without an entry there. -/
theorem walk_vacant {root : Node} {follow : Bool} {here dir : Place} {pieces : List Bytes}
    {name : Name} (h : walk root follow here pieces = .landed (.vacant dir name)) :
    ∃ entries, root.at? dir = some (.dir entries) ∧ entries.lookup name = none := by
  induction pieces generalizing here with
  | nil =>
    rw [walk_nil] at h
    split at h <;> cases h
  | cons piece rest ih =>
    rw [walk] at h
    split at h
    · next es hx =>
      split at h
      · exact ih h
      split at h
      · exact ih h
      split at h
      · cases h
      split at h
      · split at h <;> cases h
      · exact ih h
      · next hl =>
        split at h
        · cases h
          exact ⟨es, hx, hl⟩
        · cases h
    · cases h
    · cases h

section
variable {root : Node} {follow : Bool} {links : Nat} {here : Place} {pieces : List Bytes}

/-- Pieces land where a walk lands. -/
theorem land_of_landed {l : Landing} (hw : walk root follow here pieces = .landed l) :
    land root follow links here pieces = .ok l := by
  rw [land.eq_def]
  dsimp only
  rw [hw]

/-- Pieces with a link on the way land where its target and the pieces behind it land. -/
theorem land_of_linked {dir : Place} {target : Path} {rest : List Bytes}
    (hw : walk root follow here pieces = .linked dir target rest) (htarget : ¬target.isEmpty) :
    land root follow (links + 1) here pieces =
      land root follow links (if target.isAbsolute then [] else dir) (hops target ++ rest) := by
  rw [land.eq_def]
  dsimp only
  rw [hw]
  exact if_neg htarget

/-- Where pieces land, a walk lands, or it meets a link from which they go on. -/
theorem land_cases {l : Landing} (h : land root follow links here pieces = .ok l) :
    walk root follow here pieces = .landed l ∨
      ∃ dir target rest left, walk root follow here pieces = .linked dir target rest ∧
        links = left + 1 ∧ ¬target.isEmpty ∧
        land root follow left (if target.isAbsolute then [] else dir) (hops target ++ rest) =
          .ok l := by
  rw [land.eq_def] at h
  dsimp only at h
  cases hw : walk root follow here pieces with
  | landed l' =>
    rw [hw] at h
    exact .inl (congrArg Walk.landed (Except.ok.inj h))
  | refused => rw [hw] at h; cases h
  | linked dir target rest =>
    rw [hw] at h
    dsimp only at h
    cases links with
    | zero => cases h
    | succ left =>
      dsimp only at h
      split at h
      · cases h
      · next htarget => exact .inr ⟨dir, target, rest, left, rfl, rfl, htarget, h⟩

end

/-- Pieces that land with links in between end in a walk that lands there. -/
theorem exists_walk_of_land {root : Node} {follow : Bool} {links : Nat} {here : Place}
    {pieces : List Bytes} {l : Landing} (h : land root follow links here pieces = .ok l) :
    ∃ start rest, walk root follow start rest = .landed l := by
  induction links generalizing here pieces with
  | zero =>
    obtain hw | ⟨_, _, _, _, _, hlinks, _⟩ := land_cases h
    · exact ⟨here, pieces, hw⟩
    · cases hlinks
  | succ links ih =>
    obtain hw | ⟨_, _, _, _, _, hlinks, _, h⟩ := land_cases h
    · exact ⟨here, pieces, hw⟩
    · obtain rfl := Nat.succ.inj hlinks
      exact ih h

/-- What is found with links in between is at the place where it is found. -/
theorem land_found {root : Node} {follow : Bool} {links : Nat} {here place : Place}
    {pieces : List Bytes} {n : Node}
    (h : land root follow links here pieces = .ok (.found place n)) : root.at? place = some n := by
  obtain ⟨_, _, hw⟩ := exists_walk_of_land h
  exact walk_found hw

/-- A vacant place that is found with links in between is one of a directory. -/
theorem land_vacant {root : Node} {follow : Bool} {links : Nat} {here dir : Place}
    {pieces : List Bytes} {name : Name}
    (h : land root follow links here pieces = .ok (.vacant dir name)) :
    ∃ entries, root.at? dir = some (.dir entries) ∧ entries.lookup name = none := by
  obtain ⟨_, _, hw⟩ := exists_walk_of_land h
  exact walk_vacant hw

/-- A path leads to the node that its pieces lead to. -/
theorem node_of_land {t : FileTree} {p : Path} {place : Place} {n : Node}
    (hr : refusal? p = none)
    (h : land t.root true linkLimit (if p.isAbsolute then [] else t.cwd) (hops p) =
      .ok (.found place n)) : t.node p = .ok n := by
  rw [node, landing, hr]
  dsimp only [landOn]
  rw [h]

/-- A path that leads to a node lands there. -/
theorem landing_of_node? {t : FileTree} {p : Path} {n : Node} (h : t.node? p = some n) :
    ∃ place, t.landing true p = .ok (.found place n) ∧ t.root.at? place = some n := by
  have hland : ∃ place, t.landing true p = .ok (.found place n) := by
    unfold node? node at h
    split at h <;> simp_all [Except.toOption]
  obtain ⟨place, hland⟩ := hland
  refine ⟨place, hland, ?_⟩
  unfold landing landOn at hland
  split at hland
  · cases hland
  · split at hland
    · next l hl => cases hland; exact land_found hl
    · cases hland

/-- In a tree without links, the pieces of a path that leads to a directory lead there. -/
theorem exists_leadsTo (hf : t.root.LinkFree) {entries : List (Name × Node)}
    (h : t.node? p = some (.dir entries)) :
    ∃ dir, LeadsTo t.root (t.origin p.isAbsolute) p.solid dir ∧
      t.root.at? dir = some (.dir entries) := by
  obtain ⟨dir, hland, hat⟩ := landing_of_node? h
  have hwalk : walk t.root true (t.origin p.isAbsolute) (hops p) =
      .landed (.found dir (.dir entries)) := by
    rw [← land_eq hf linkLimit, origin]
    unfold landing landOn at hland
    split at hland
    · cases hland
    · split at hland
      · next hl => cases hland; exact hl
      · cases hland
  have hleads : LeadsTo t.root (t.origin p.isAbsolute) (hops p) dir := ⟨entries, hwalk⟩
  exact ⟨dir, by rwa [← filter_dot_hops, leadsTo_filter_dot], hat⟩

/-- A path whose pieces lead to a directory leads there, unless the path itself is refused. -/
theorem node?_of_leadsTo {entries : List (Name × Node)}
    (h : LeadsTo t.root (t.origin p.isAbsolute) p.solid dir) (hr : refusal? p = none)
    (hdir : t.root.at? dir = some (.dir entries)) : t.node? p = some (.dir entries) := by
  have hleads : LeadsTo t.root (t.origin p.isAbsolute) (hops p) dir := by
    rwa [← leadsTo_filter_dot, filter_dot_hops]
  have hland : land t.root true linkLimit (t.origin p.isAbsolute) (hops p) =
      .ok (.found dir (.dir entries)) := by
    rw [land.eq_def]
    simp only [hleads.walk_eq hdir]
  rw [origin] at hland
  simp [node?, node, landing, hr, landOn, hland, Except.toOption]

variable (h : t.Lies p dir name) (hf : t.root.LinkFree)

include h hf

/-- In a tree without links, following a path that lies in a directory ends at its entry. -/
theorem Lies.walk_eq :
    walk t.root true (t.origin p.isAbsolute) (hops p) =
      .landed (match t.root.at? (dir ++ [name]) with
        | some n => .found (dir ++ [name]) n
        | none => .vacant dir name) := by
  obtain ⟨hn, pre, hcut, hleads⟩ := h
  have hnamed : LeadsTo t.root (t.origin p.isAbsolute) (pre.filter (!·.isEmpty)) dir := by
    rwa [← leadsTo_filter_dot, filter_dot_named]
  rw [hops_eq hn hcut, hnamed.walk_append, walk_name hnamed.dirAt hf hn]

/-- The node of a path that lies in a directory. -/
theorem Lies.node_eq (hr : refusal? p = none) :
    t.node p = match t.root.at? (dir ++ [name]) with
      | some n => .ok n
      | none => .error (.errno .noEntry) := by
  have hland := (land_eq hf linkLimit).2 (h.walk_eq hf)
  rw [origin] at hland
  simp only [node, landing, hr, landOn, hland]
  cases t.root.at? (dir ++ [name]) <;> rfl

/-- What the file of a path that lies in a directory holds. -/
theorem Lies.content?_eq :
    t.content? p = if (refusal? p).isSome then none else t.root.contentAt (dir ++ [name]) := by
  cases hr : refusal? p with
  | some r =>
    have hnode : t.node p = .error r := by simp only [node, landing, hr]
    simp only [content?, read, hnode]
    rfl
  | none =>
    simp only [content?, read, h.node_eq hf hr, Node.contentAt]
    cases hx : t.root.at? (dir ++ [name]) with
    | none => rfl
    | some n =>
      cases n with
      | null => simpa [Node.isDir, Node.isFile] using hf _ _ hx
      | file | link | dir => rfl

/-- A path that lies in a directory leads to a file just if it can be read. -/
theorem Lies.isFile_eq : t.isFile p = (t.content? p).isSome := by
  cases hr : refusal? p with
  | some r =>
    have hnode : t.node p = .error r := by simp only [node, landing, hr]
    simp only [isFile, node?, content?, read, hnode]
    rfl
  | none =>
    rw [h.content?_eq hf, hr]
    simp only [isFile, node?, h.node_eq hf hr, Node.contentAt]
    cases hx : t.root.at? (dir ++ [name]) with
    | none => rfl
    | some n => cases n <;> rfl

/-- Writing to a path that lies in a directory changes the file at its place or makes one. -/
theorem Lies.write_at? (hr : refusal? p = none) (content : Bytes) :
    t.write p content = match t.root.at? (dir ++ [name]) with
      | some (.file _ mode) => .ok (t.put (dir ++ [name]) (.file content mode))
      | some _ => .error (.errno .isDirectory)
      | none => .ok (t.put (dir ++ [name]) (.file content Node.plainMode)) := by
  have hslash : p.bytes.getLast? ≠ some Path.slash := by
    obtain ⟨hn, pre, hcut, -⟩ := h
    obtain ⟨front, hfront⟩ := Path.glue_concat pre name
    rw [← Path.glue_cut p.bytes, hcut, hfront, List.getLast?_append,
      List.getLast?_eq_some_getLast hn.ne_nil]
    exact fun hlast => hn.slash_notMem (Option.some.inj hlast ▸ List.getLast_mem hn.ne_nil)
  have hland := landToWrite_eq linkLimit (h.walk_eq hf)
  rw [origin] at hland
  simp only [write, update, updateAs, hr, hslash, and_false, decide_false, hland]
  cases hx : t.root.at? (dir ++ [name]) with
  | none => rfl
  | some n =>
    cases n with
    | file | dir => rfl
    | null | link => exact absurd (hf _ _ hx) (by simp [Node.isDir, Node.isFile])

/-- Writing to a path that lies in a directory, and that leads to no directory, puts a file at its
place, unless the path is refused. -/
theorem Lies.write_eq (hplace : t.root.dirAt (dir ++ [name]) = false) (content : Bytes) :
    (∃ r, refusal? p = some r ∧ t.write p content = .error r) ∨
      refusal? p = none ∧
        ∃ mode, t.write p content = .ok (t.put (dir ++ [name]) (.file content mode)) := by
  cases hr : refusal? p with
  | some r => exact .inl ⟨r, rfl, by simp only [write, update, updateAs, hr]⟩
  | none =>
    refine .inr ⟨rfl, ?_⟩
    rw [h.write_at? hf hr]
    cases hx : t.root.at? (dir ++ [name]) with
    | none => exact ⟨_, rfl⟩
    | some n =>
      cases n with
      | file old mode => exact ⟨mode, rfl⟩
      | dir => simp [Node.dirAt, hx, Node.isDir] at hplace
      | null | link => simpa [Node.isDir, Node.isFile] using hf _ _ hx

/-- Writing what a file holds changes nothing. -/
theorem Lies.write_content? {content : Bytes} (hcontent : t.content? p = some content) :
    t.write p content = .ok t := by
  rw [h.content?_eq hf] at hcontent
  cases hr : refusal? p with
  | some r => simp [hr] at hcontent
  | none =>
    obtain ⟨n, hn, hcontent⟩ : ∃ n, t.root.at? (dir ++ [name]) = some n ∧
        n.content? = some content := by
      simpa [hr, Node.contentAt, Option.bind_eq_some_iff] using hcontent
    rw [h.write_at? hf hr, hn]
    cases n with
    | dir | link | null => cases hcontent
    | file old mode =>
      obtain rfl := Option.some.inj hcontent
      simp only [put, Node.put_of_at? hn]

end RoundTrip.FileTree
