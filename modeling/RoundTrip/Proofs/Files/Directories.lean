import RoundTrip.Files.Content
import RoundTrip.Proofs.Files.Listing

/-!
# Making directories

Making a directory puts an empty one at a vacant place, and nothing else looks different
(`FileTree.Grown`): a file, a link or a device is neither made nor changed nor removed, whatever
directories are made and wherever the making of them stops (`makeDirs_grown`). What a path leads to
is there as before, links included (`Grown.landing`), so every file that could be read is read as
before (`Grown.read`).
-/

namespace RoundTrip

namespace Node

/-- Every place of a tree looks as it did, or it was vacant and holds a directory now. -/
def Grown (root root' : Node) : Prop :=
  ∀ place, (root'.at? place).map outline = (root.at? place).map outline ∨
    root.at? place = none ∧ root'.dirAt place = true

namespace Grown

variable {root root' root'' : Node}

theorem refl (root : Node) : root.Grown root := fun _ => .inl rfl

/-- What is there looks as it did. -/
theorem exists_at? (h : root.Grown root') {place : Place} {n : Node}
    (hn : root.at? place = some n) : ∃ n', root'.at? place = some n' ∧ n'.outline = n.outline := by
  obtain hsame | ⟨hnone, -⟩ := h place
  · rwa [hn, Option.map_some, Option.map_eq_some_iff] at hsame
  · cases hn.symm.trans hnone

/-- A directory is there as before. -/
theorem exists_dir (h : root.Grown root') {place : Place} {entries : List (Name × Node)}
    (hn : root.at? place = some (.dir entries)) :
    ∃ entries', root'.at? place = some (.dir entries') := by
  obtain ⟨n', hn', hout⟩ := h.exists_at? hn
  cases n' with
  | dir entries' => exact ⟨entries', hn'⟩
  | file | link | null => cases hout

/-- What is no directory is the same in both trees. -/
theorem at?_iff (h : root.Grown root') {place : Place} {n : Node} (hdir : n.isDir = false) :
    root'.at? place = some n ↔ root.at? place = some n := by
  constructor
  · intro hn
    obtain hsame | ⟨-, hnow⟩ := h place
    · rw [hn, Option.map_some, eq_comm, Option.map_eq_some_iff] at hsame
      obtain ⟨m, hm, hout⟩ := hsame
      obtain ⟨_, _, rfl, -⟩ | ⟨-, rfl⟩ := outline_eq_cases hout
      · cases hdir
      · exact hm
    · obtain ⟨entries, hentries⟩ := dirAt_iff.1 hnow
      obtain rfl := Option.some.inj (hn.symm.trans hentries)
      cases hdir
  · intro hn
    obtain ⟨n', hn', hout⟩ := h.exists_at? hn
    obtain ⟨_, _, rfl, -⟩ | ⟨-, rfl⟩ := outline_eq_cases hout
    · cases hdir
    · exact hn'

theorem trans (h : root.Grown root') (h' : root'.Grown root'') : root.Grown root'' := by
  intro place
  obtain hsame | ⟨hnone, hdir⟩ := h place
  · obtain hsame' | ⟨hnone', hdir'⟩ := h' place
    · exact .inl (hsame'.trans hsame)
    · rw [hnone', Option.map_none, eq_comm, Option.map_eq_none_iff] at hsame
      exact .inr ⟨hsame, hdir'⟩
  · obtain ⟨entries, hentries⟩ := dirAt_iff.1 hdir
    exact .inr ⟨hnone, dirAt_iff.2 (h'.exists_dir hentries)⟩

/-- A directory that is put at a vacant place. -/
theorem put {dir : Place} {entries : List (Name × Node)} {name : Name}
    (h : root.at? dir = some (.dir entries)) (hname : entries.lookup name = none) :
    root.Grown (Node.put (.dir []) (dir ++ [name]) root) := by
  intro place
  have hvacant : root.at? (dir ++ [name]) = none := (at?_concat h name).trans hname
  have hput := outline_at?_put_bare (rfl : (Node.dir []).entries = []) h
    (fun n hn => by rw [hvacant] at hn; cases hn) place
  by_cases hplace : place = dir ++ [name]
  · rw [if_pos hplace] at hput
    refine .inr ⟨hplace ▸ hvacant, ?_⟩
    rw [dirAt_eq, hput]
    rfl
  · rw [if_neg hplace] at hput
    exact .inl hput

end Grown

end Node

namespace FileTree

/-! ## Making one directory -/

/-- The files behind some are those before, but for directories that were made. -/
structure Grown (t t' : FileTree) : Prop where
  cwd : t'.cwd = t.cwd
  root : t.root.Grown t'.root

namespace Grown

variable {t t' t'' : FileTree}

theorem refl (t : FileTree) : t.Grown t := ⟨rfl, .refl _⟩

theorem trans (h : t.Grown t') (h' : t'.Grown t'') : t.Grown t'' :=
  ⟨h'.cwd.trans h.cwd, h.root.trans h'.root⟩

end Grown

variable {t t' : FileTree}

/-- Making a directory makes nothing else. -/
theorem makeDir_grown {p : Path} (h : t.makeDir p = .ok t') : t.Grown t' := by
  rw [makeDir] at h
  split at h
  · cases h
  dsimp only at h
  split at h
  · cases h
  · next dir name hland =>
    obtain rfl := Except.ok.inj h
    rw [landOn] at hland
    split at hland
    · next l hl =>
      obtain rfl := Except.ok.inj hland
      obtain ⟨entries, hentries, hname⟩ := land_vacant hl
      exact ⟨rfl, .put hentries hname⟩
    · cases hland
  · cases h

/-- Making sure of a directory makes nothing else. -/
theorem ensureDir_grown (t : FileTree) (p : Path) : t.Grown (t.ensureDir p).1 := by
  rw [ensureDir]
  split
  · next h => exact makeDir_grown h
  · exact .refl t

/-- Making a directory and those above it makes nothing else, wherever it stops. -/
theorem makeDirsUpTo_grown (t : FileTree) (length : Nat) (p : Path) :
    t.Grown (t.makeDirsUpTo length p).1 := by
  induction length generalizing p with
  | zero => exact .refl t
  | succ length ih =>
    rw [makeDirsUpTo]
    split
    · exact .refl t
    split
    · next h => exact makeDir_grown h
    · split
      · exact .refl t
      · next parent _ =>
        have hparent := ih parent
        split
        · next front h =>
          rw [h] at hparent
          exact hparent.trans (front.ensureDir_grown p)
        · next front reason h =>
          rw [h] at hparent
          exact hparent
    · exact .refl t

/-- The same without a bound. -/
theorem makeDirs_grown (t : FileTree) (p : Path) : t.Grown (t.makeDirs p).1 :=
  t.makeDirsUpTo_grown _ p

/-! ## Following paths -/

/-- Whether a walk ends neither for want of an entry nor at a vacant place. -/
def Walk.goesOn : Walk → Bool
  | .landed (.found _ _) | .linked _ _ _ => true
  | .landed (.vacant _ _) | .refused _ => false

section
variable {root root' : Node} (h : root.Grown root') {follow : Bool} {here place : Place}
  {pieces : List Bytes} {n : Node}

include h

/-- A walk that ends neither for want of an entry nor at a vacant place goes the same way when there
are more directories. -/
theorem walk_grown (hw : (walk root follow here pieces).goesOn = true) :
    (walk root' follow here pieces).outline = (walk root follow here pieces).outline := by
  induction pieces generalizing here with
  | nil =>
    rw [walk_nil] at hw
    rw [walk_nil, walk_nil]
    cases hn : root.at? here with
    | none => rw [hn] at hw; cases hw
    | some n =>
      obtain ⟨n', hn', hout⟩ := h.exists_at? hn
      rw [hn']
      exact congrArg (fun n => Walk.landed (.found here n)) hout
  | cons piece rest ih =>
    rw [walk] at hw
    rw [walk, walk]
    cases hn : root.at? here with
    | none => rw [hn] at hw; cases hw
    | some n =>
    cases n with
    | file | link | null => rw [hn] at hw; cases hw
    | dir entries =>
      obtain ⟨entries', hn'⟩ := h.exists_dir hn
      rw [hn] at hw
      rw [hn']
      dsimp only at hw ⊢
      -- the entry under the piece is there before, so it looks the same behind
      have hentry := fun m hm => h.exists_at? (n := m) ((Node.at?_concat hn piece).trans hm)
      rw [Node.at?_concat hn'] at hentry
      split
      · next hdot =>
        rw [if_pos hdot] at hw
        exact ih hw
      next hdot =>
      rw [if_neg hdot] at hw
      split
      · next hup =>
        rw [if_pos hup] at hw
        exact ih hw
      next hup =>
      rw [if_neg hup] at hw
      split
      · rfl
      next hlong =>
      rw [if_neg hlong] at hw
      cases hm : entries.lookup piece with
      | none =>
        rw [hm] at hw
        dsimp only at hw
        split at hw <;> cases hw
      | some m =>
        obtain ⟨m', hm', hout⟩ := hentry m hm
        rw [hm] at hw
        rw [hm']
        obtain ⟨_, _, rfl, rfl⟩ | ⟨hdir, rfl⟩ := Node.outline_eq_cases hout
        · exact ih hw
        · cases m' with
          | dir => cases hdir
          | link => rfl
          | file | null => exact ih hw

/-- What a walk finds is found when there are more directories, and looks the same. -/
theorem walk_found_grown (hw : walk root follow here pieces = .landed (.found place n)) :
    ∃ n', walk root' follow here pieces = .landed (.found place n') ∧
      n'.outline = n.outline := by
  have hout := walk_grown h (hw ▸ rfl : (walk root follow here pieces).goesOn = true)
  rw [hw] at hout
  cases hw' : walk root' follow here pieces with
  | landed l' =>
    rw [hw'] at hout
    injection hout with hout
    cases l' with
    | found place' n' =>
      injection hout with hplace hnode
      exact ⟨n', hplace ▸ rfl, hnode⟩
    | vacant => cases hout
  | linked | refused => rw [hw'] at hout; cases hout

/-- A link that a walk meets is met when there are more directories. -/
theorem walk_linked_grown {target : Path} {rest : List Bytes}
    (hw : walk root follow here pieces = .linked place target rest) :
    walk root' follow here pieces = .linked place target rest := by
  have hout := walk_grown h (hw ▸ rfl : (walk root follow here pieces).goesOn = true)
  obtain ⟨_, _, hl, -⟩ | hsame := Walk.outline_eq_cases hout
  · cases hw.symm.trans hl
  · exact hsame.trans hw

/-- What is found with links in between is found when there are more directories. -/
theorem land_found_grown {links : Nat}
    (hland : land root follow links here pieces = .ok (.found place n)) :
    ∃ n', land root' follow links here pieces = .ok (.found place n') ∧
      n'.outline = n.outline := by
  induction links generalizing here pieces with
  | zero =>
    obtain hw | ⟨_, _, _, _, _, hlinks, _⟩ := land_cases hland
    · obtain ⟨n', hw', hout⟩ := walk_found_grown h hw
      exact ⟨n', land_of_landed hw', hout⟩
    · cases hlinks
  | succ links ih =>
    obtain hw | ⟨_, _, _, _, hw, hlinks, htarget, hland⟩ := land_cases hland
    · obtain ⟨n', hw', hout⟩ := walk_found_grown h hw
      exact ⟨n', land_of_landed hw', hout⟩
    · obtain rfl := Nat.succ.inj hlinks
      rw [land_of_linked (walk_linked_grown h hw) htarget]
      exact ih hland

end

/-- What a path leads to is there when there are more directories, and looks the same. -/
theorem Grown.exists_node (h : t.Grown t') {p : Path} {n : Node} (hn : t.node p = .ok n) :
    ∃ n', t'.node p = .ok n' ∧ n'.outline = n.outline := by
  have hnode : t.node? p = some n := by
    rw [node?, hn]
    rfl
  obtain ⟨place, hland, -⟩ := landing_of_node? hnode
  have hl : land t.root true linkLimit (if p.isAbsolute then [] else t.cwd) (hops p) =
      .ok (.found place n) := by
    rw [landing, refusal?_of_node? hnode] at hland
    dsimp only [landOn] at hland
    split at hland
    · next l hl => rw [hl, Except.ok.inj hland]
    · cases hland
  obtain ⟨n', hl', hout⟩ := land_found_grown h.root hl
  exact ⟨n', node_of_land (refusal?_of_node? hnode) (h.cwd ▸ hl'), hout⟩

/-- A file that can be read is read as before when there are more directories. -/
theorem Grown.read (h : t.Grown t') {p : Path} {content : Bytes} (hp : t.read p = .ok content) :
    t'.read p = .ok content := by
  cases hn : t.node p with
  | error r => rw [FileTree.read, hn] at hp; cases hp
  | ok n =>
    obtain ⟨n', hn', hout⟩ := h.exists_node hn
    rw [FileTree.read, hn] at hp
    rw [FileTree.read, hn']
    obtain ⟨_, _, rfl, -⟩ | ⟨-, rfl⟩ := Node.outline_eq_cases hout
    · cases hp
    · exact hp

end FileTree

end RoundTrip
