import RoundTrip.Proofs.Files.Walking

/-!
# The order in which directories are listed

The entries of a directory stand in no order that means anything. Well-formed trees with the same
nodes at the same places (`Node.SameNodes`) differ in that order alone. A path that is followed
through both leads to the same place, links included (`walk_outline`, `land_outline`), so what is
found there has again the same nodes at the same places (`SameNodes.exists_node?`).
-/

namespace RoundTrip

/-- Two trees have the same nodes at the same places, so they differ at most in the order in which
their directories are listed. -/
def Node.SameNodes (root root' : Node) : Prop :=
  ∀ place, (root'.at? place).map outline = (root.at? place).map outline

namespace Node

/-- Nodes with the same outline are both directories, or they are the same. -/
theorem outline_eq_cases {n n' : Node} (h : n'.outline = n.outline) :
    (∃ entries entries', n = .dir entries ∧ n' = .dir entries') ∨ n.isDir = false ∧ n' = n := by
  cases n <;> cases n' <;> simp_all [outline, isDir]

namespace SameNodes

variable {root root' : Node}

theorem symm (h : root.SameNodes root') : root'.SameNodes root := fun place => (h place).symm

/-- The subtrees at a place have the same nodes at the same places. -/
theorem at? (h : root.SameNodes root') {place : Place} {n n' : Node}
    (hn : root.at? place = some n) (hn' : root'.at? place = some n') : n.SameNodes n' := by
  intro below
  have hbelow := h (place ++ below)
  rwa [at?_append, at?_append, hn, hn', Option.bind_some, Option.bind_some] at hbelow

/-- At each place is nothing in both trees, or there are nodes with the same outline. -/
theorem at?_cases (h : root.SameNodes root') (place : Place) :
    root.at? place = none ∧ root'.at? place = none ∨
      ∃ n n', root.at? place = some n ∧ root'.at? place = some n' ∧ n'.outline = n.outline := by
  have hplace := h place
  cases hn : root.at? place with
  | none =>
    rw [hn, Option.map_none, Option.map_eq_none_iff] at hplace
    exact .inl ⟨rfl, hplace⟩
  | some n =>
    rw [hn, Option.map_some, Option.map_eq_some_iff] at hplace
    obtain ⟨n', hn', hout⟩ := hplace
    exact .inr ⟨n, n', rfl, hn', hout⟩

end SameNodes

end Node

namespace FileTree

/-- A landing without what a directory holds. -/
def Landing.outline : Landing → Landing
  | .found place n => .found place n.outline
  | .vacant dir name => .vacant dir name

/-- A walk without what the directory at its end holds. -/
def Walk.outline : Walk → Walk
  | .landed l => .landed l.outline
  | .linked dir target rest => .linked dir target rest
  | .refused e => .refused e

/-- Walks with the same outline have landed in the same place, or they are the same. -/
theorem Walk.outline_eq_cases {w w' : Walk} (h : w'.outline = w.outline) :
    (∃ l l', w = .landed l ∧ w' = .landed l' ∧ l'.outline = l.outline) ∨ w' = w := by
  cases w <;> cases w' <;> simp_all [outline]

section Congr

variable {root root' : Node} (h : root.SameNodes root')

include h

/-- Pieces that are followed through two trees with the same nodes lead to the same place. -/
theorem walk_outline (follow : Bool) (here : Place) (pieces : List Bytes) :
    (walk root' follow here pieces).outline = (walk root follow here pieces).outline := by
  induction pieces generalizing here with
  | nil =>
    obtain ⟨hn, hn'⟩ | ⟨n, n', hn, hn', hout⟩ := h.at?_cases here
    · rw [walk_nil, walk_nil, hn, hn']
    · rw [walk_nil, walk_nil, hn, hn']
      simp [Walk.outline, Landing.outline, hout]
  | cons piece rest ih =>
    rw [walk, walk]
    obtain ⟨hn, hn'⟩ | ⟨n, n', hn, hn', hout⟩ := h.at?_cases here
    · rw [hn, hn']
    · rw [hn, hn']
      obtain ⟨es, es', rfl, rfl⟩ | ⟨hdir, rfl⟩ := Node.outline_eq_cases hout
      · -- the entries of both directories under the piece have the same outline
        have hentry := h.at?_cases (here ++ [piece])
        rw [Node.at?_concat hn, Node.at?_concat hn'] at hentry
        dsimp only
        split
        · exact ih here
        split
        · exact ih here.dropLast
        split
        · rfl
        obtain ⟨he, he'⟩ | ⟨m, m', he, he', hout'⟩ := hentry
        · rw [he, he']
        · rw [he, he']
          obtain ⟨_, _, rfl, rfl⟩ | ⟨hm, rfl⟩ := Node.outline_eq_cases hout'
          · exact ih (here ++ [piece])
          · cases m' with
            | dir => simp [Node.isDir] at hm
            | link target => rfl
            | file | null => exact ih (here ++ [piece])
      · cases n' with
        | dir => simp [Node.isDir] at hdir
        | file | link | null => rfl

/-- The same holds with links in between. -/
theorem land_outline (follow : Bool) (links : Nat) (here : Place) (pieces : List Bytes) :
    (land root' follow links here pieces).map Landing.outline =
      (land root follow links here pieces).map Landing.outline := by
  induction links generalizing here pieces with
  | zero =>
    rw [land.eq_def, land.eq_def]
    dsimp only
    obtain ⟨l, l', hl, hl', hout⟩ | hw := Walk.outline_eq_cases (walk_outline h follow here pieces)
    · simp only [hl, hl', Except.map, hout]
    · rw [hw]
  | succ links ih =>
    rw [land.eq_def, land.eq_def]
    dsimp only
    obtain ⟨l, l', hl, hl', hout⟩ | hw := Walk.outline_eq_cases (walk_outline h follow here pieces)
    · simp only [hl, hl', Except.map, hout]
    · rw [hw]
      cases walk root follow here pieces with
      | landed | refused => rfl
      | linked dir target rest =>
        dsimp only
        split
        · rfl
        · exact ih _ _

end Congr

/-! ## Landings -/

/-- In trees with the same nodes a path lands in the same place. -/
theorem landing_outline {t t' : FileTree} (h : t.root.SameNodes t'.root) (hcwd : t'.cwd = t.cwd)
    (follow : Bool) (p : Path) :
    (t'.landing follow p).map Landing.outline = (t.landing follow p).map Landing.outline := by
  unfold landing
  split
  · rfl
  · have hland := land_outline h follow linkLimit (if p.isAbsolute then [] else t.cwd) (hops p)
    rw [landOn, landOn, hcwd]
    cases hx : land t.root follow linkLimit (if p.isAbsolute then [] else t.cwd) (hops p) <;>
      cases hx' : land t'.root follow linkLimit (if p.isAbsolute then [] else t.cwd) (hops p) <;>
      simp_all [Except.map]

end FileTree

/-- In trees with the same nodes a path leads to nodes that have the same nodes below them. -/
theorem Node.SameNodes.exists_node? {t t' : FileTree} (h : t.root.SameNodes t'.root)
    (hcwd : t'.cwd = t.cwd) {p : Path} {n : Node} (hn : t.node? p = some n) :
    ∃ n', t'.node? p = some n' ∧ n'.outline = n.outline ∧ n.SameNodes n' := by
  obtain ⟨place, hland, hat⟩ := FileTree.landing_of_node? hn
  have hout := FileTree.landing_outline h hcwd true p
  rw [hland] at hout
  obtain ⟨n', hland', hout'⟩ : ∃ n', t'.landing true p = .ok (.found place n') ∧
      n'.outline = n.outline := by
    cases hx : t'.landing true p with
    | error r => simp [hx, Except.map] at hout
    | ok l =>
      cases l <;> simp_all [Except.map, FileTree.Landing.outline]
  have hnode : t'.node? p = some n' := by
    simp [FileTree.node?, FileTree.node, hland', Except.toOption]
  obtain ⟨place', hland'', hat'⟩ := FileTree.landing_of_node? hnode
  obtain ⟨rfl, -⟩ : place' = place ∧ n' = n' := by simp_all
  exact ⟨n', hnode, hout', h.at? hat hat'⟩

end RoundTrip
