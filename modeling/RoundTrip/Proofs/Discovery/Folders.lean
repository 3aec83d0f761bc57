import RoundTrip.Discovery
import RoundTrip.Proofs.Files.Walking

/-!
# The directories that a walk comes upon

A walk comes upon each directory of a well-formed tree, at its place, unless one above it cannot be
listed (`mem_folders_iff`), and the places come in their order (`pairwise_place_folders`). So those
that it cannot list are told by the tree and by their paths (`mem_refusals`). In a tree without
links the path of each leads to it (`leadsTo_below`).
-/

namespace RoundTrip

/-! ## The order of names -/

theorem Name.le_trans {a b c : Name} (hab : Name.le a b = true) (hbc : Name.le b c = true) :
    Name.le a c = true := by
  simp only [Name.le, decide_eq_true_eq] at *
  exact List.le_trans hab hbc

theorem Name.le_total (a b : Name) : (Name.le a b || Name.le b a) = true := by
  simp only [Name.le, Bool.or_eq_true, decide_eq_true_eq]
  exact List.le_total a b

/-- Different names that stand in order stand in strict order. -/
theorem Name.lt_of_le_of_ne {a b : Name} (h : Name.le a b = true) (hne : a ≠ b) : a < b := by
  simp only [Name.le, decide_eq_true_eq] at h
  exact Std.lt_of_le_of_ne h hne

/-- What is joined in the order of names is what the entries hold. -/
theorem mem_inNameOrder {α : Type} {rows : List (Name × List α)} {x : α} :
    x ∈ inNameOrder rows ↔ ∃ r ∈ rows, x ∈ r.2 := by
  simp [inNameOrder, List.mem_mergeSort]

/-- A relation holds in the order of names if it holds of what each entry holds, and between what an
entry holds and what one with a later name holds. -/
theorem pairwise_inNameOrder {α : Type} {R : α → α → Prop} {rows : List (Name × List α)}
    (hnodup : (rows.map Prod.fst).Nodup) (hin : ∀ r ∈ rows, r.2.Pairwise R)
    (hout : ∀ r ∈ rows, ∀ q ∈ rows, r.1 < q.1 → ∀ x ∈ r.2, ∀ y ∈ q.2, R x y) :
    (inNameOrder rows).Pairwise R := by
  have hperm := List.mergeSort_perm rows fun a b => Name.le a.1 b.1
  have hle : (rows.mergeSort fun a b => Name.le a.1 b.1).Pairwise fun r q =>
      Name.le r.1 q.1 = true :=
    @List.pairwise_mergeSort _ (fun r q => Name.le r.1 q.1) (fun _ _ _ => Name.le_trans)
      (fun _ _ => Name.le_total _ _) rows
  have hne : (rows.mergeSort fun a b => Name.le a.1 b.1).Pairwise fun r q => r.1 ≠ q.1 :=
    List.pairwise_map.1 ((hperm.map Prod.fst).nodup_iff.2 hnodup)
  refine List.pairwise_flatMap.2 ⟨fun r hr => hin r (hperm.mem_iff.1 hr), ?_⟩
  refine (hle.and hne).imp_of_mem fun hr hq ⟨hle, hne⟩ => ?_
  exact hout _ (hperm.mem_iff.1 hr) _ (hperm.mem_iff.1 hq) (Name.lt_of_le_of_ne hle hne)

namespace Node

/-- The names of the entries that are no directories. -/
theorem mem_fileNames {entries : List (Name × Node)} {name : Name} :
    name ∈ fileNames entries ↔ ∃ n, (name, n) ∈ entries ∧ n.isDir = false := by
  simp [fileNames, List.mem_mergeSort]

/-- They stand in order. -/
theorem pairwise_fileNames (entries : List (Name × Node)) :
    (fileNames entries).Pairwise fun a b => Name.le a b = true :=
  @List.pairwise_mergeSort _ Name.le (fun _ _ _ => Name.le_trans) Name.le_total _

/-- Entries that stand in order already keep it. -/
theorem fileNames_of_pairwise {entries : List (Name × Node)}
    (h : (entries.map Prod.fst).Pairwise fun a b => Name.le a b = true)
    (hfiles : ∀ e ∈ entries, e.2.isDir = false) : fileNames entries = entries.map Prod.fst := by
  have hall : entries.filter (fun e => !e.2.isDir) = entries :=
    List.filter_eq_self.2 fun e he => by simp [hfiles e he]
  rw [fileNames, hall, List.mergeSort_of_pairwise h]

/-! ## Directories -/

/-- The directories at and below the entries of a directory. -/
theorem entryFolders_eq (root : Path) (place : Place) (entries : List (Name × Node)) :
    entryFolders root place entries =
      entries.map fun e => (e.1, folders root (place ++ [e.1]) e.2) := by
  induction entries with
  | nil => rfl
  | cons e rest ih =>
    obtain ⟨name, n⟩ := e
    rw [entryFolders, ih, entryFolder, List.map_cons]

/-- Behind a directory, a walk comes upon what it comes upon from its entries, if it can list
them. -/
theorem mem_subfolders {root : Path} {place : Place} {entries : List (Name × Node)} {f : Folder} :
    f ∈ (if (FileTree.refusal? (root.below place)).isSome then []
        else inNameOrder (entryFolders root place entries)) ↔
      FileTree.refusal? (root.below place) = none ∧
        ∃ e ∈ entries, f ∈ folders root (place ++ [e.1]) e.2 := by
  have hentries : f ∈ inNameOrder (entryFolders root place entries) ↔
      ∃ e ∈ entries, f ∈ folders root (place ++ [e.1]) e.2 := by
    simp only [mem_inNameOrder, entryFolders_eq, List.mem_map]
    constructor
    · rintro ⟨r, ⟨e, he, rfl⟩, hf⟩
      exact ⟨e, he, hf⟩
    · rintro ⟨e, he, hf⟩
      exact ⟨_, ⟨e, he, rfl⟩, hf⟩
  cases hr : FileTree.refusal? (root.below place) with
  | none => simp [hentries]
  | some e => simp

/-- A directory without subdirectories is the only one that a walk from it comes upon. -/
theorem folders_of_files {root : Path} {place : Place} {entries : List (Name × Node)}
    (hfiles : ∀ e ∈ entries, e.2.isDir = false) :
    folders root place (.dir entries) = [⟨place, entries⟩] := by
  rw [folders, List.cons_eq_cons]
  refine ⟨rfl, List.eq_nil_iff_forall_not_mem.2 fun f hf => ?_⟩
  obtain ⟨-, e, he, hf⟩ := mem_subfolders.1 hf
  have hfile := hfiles e he
  revert hf hfile
  cases e.2 <;> simp [folders, isDir]

/-- A walk comes upon the directories to which the directories above them lead, if these can be
listed. -/
theorem mem_folders_iff {root : Path} {place : Place} {n : Node} (hw : n.WellFormed) {f : Folder} :
    f ∈ folders root place n ↔ ∃ below, f.place = place ++ below ∧
      n.at? below = some (.dir f.entries) ∧
      ∀ dir, dir <+: below → dir ≠ below →
        FileTree.refusal? (root.below (place ++ dir)) = none := by
  induction n using Node.induct generalizing place with
  | leaf n hn =>
    constructor
    · intro h
      cases n with
      | dir => simp [isDir] at hn
      | file | link | null => cases h
    · rintro ⟨below, -, hat, -⟩
      cases below with
      | nil => obtain rfl := Option.some.inj hat; cases hn
      | cons name below => rw [at?_cons_of_isDir_eq_false hn] at hat; cases hat
  | dir entries ih =>
    have hnodup := (hw [] entries rfl).1
    have hat {e : Name × Node} (he : e ∈ entries) (below : Place) :
        (Node.dir entries).at? (e.1 :: below) = e.2.at? below := by
      rw [at?, entry?, Node.entries, lookup_of_mem hnodup he]
      rfl
    rw [folders, List.mem_cons]
    constructor
    · rintro (rfl | hf)
      · refine ⟨[], by simp, rfl, fun dir hdir hne => ?_⟩
        exact absurd (List.prefix_nil.1 hdir) hne
      · obtain ⟨hr, e, he, hf⟩ := mem_subfolders.1 hf
        obtain ⟨below, hplace, hbelow, hlisted⟩ := (ih e he (hw.of_mem he)).1 hf
        refine ⟨e.1 :: below, by simp [hplace], (hat he below).trans hbelow, fun dir hdir hne => ?_⟩
        cases dir with
        | nil => simpa using hr
        | cons name dir =>
          obtain ⟨rfl, habove⟩ := List.cons_prefix_cons.1 hdir
          have := hlisted dir habove (by simpa using hne)
          simpa using this
    · rintro ⟨below, hplace, hbelow, hlisted⟩
      cases below with
      | nil =>
        refine .inl ?_
        obtain ⟨p, es⟩ := f
        obtain rfl : entries = es := by simpa [at?] using hbelow
        simpa using hplace
      | cons name below =>
        refine .inr ?_
        obtain ⟨m, hm, hbelow'⟩ := Option.bind_eq_some_iff.1 hbelow
        have he : (name, m) ∈ entries := mem_of_lookup hm
        have hr := hlisted [] (List.nil_prefix) (by simp)
        rw [List.append_nil] at hr
        refine mem_subfolders.2 ⟨hr, _, he, (ih _ he (hw.of_mem he)).2 ?_⟩
        refine ⟨below, by simp [hplace], hbelow', fun dir hdir hne => ?_⟩
        have := hlisted (name :: dir) (List.cons_prefix_cons.2 ⟨rfl, hdir⟩) (by simpa using hne)
        simpa using this

/-- A walk through a well-formed tree comes upon directories that are there. -/
theorem mem_folders {root : Path} {place : Place} {n : Node} (hw : n.WellFormed) {f : Folder}
    (h : f ∈ folders root place n) :
    ∃ below, f.place = place ++ below ∧ n.at? below = some (.dir f.entries) :=
  let ⟨below, hplace, hat, _⟩ := (mem_folders_iff hw).1 h
  ⟨below, hplace, hat⟩

/-- A walk comes upon the directories of a well-formed tree in the order of their places, name by
name. -/
theorem pairwise_place_folders (root : Path) (place : Place) {n : Node} (hw : n.WellFormed) :
    (folders root place n).Pairwise fun f g => f.place < g.place := by
  induction n using Node.induct generalizing place with
  | leaf n hn =>
    cases n with
    | dir => simp [isDir] at hn
    | file | link | null => exact .nil
  | dir entries ih =>
    have hplace {e : Name × Node} (he : e ∈ entries) {f : Folder}
        (hf : f ∈ folders root (place ++ [e.1]) e.2) :
        ∃ below, f.place = place ++ e.1 :: below := by
      obtain ⟨below, hbelow, -⟩ := mem_folders (hw.of_mem he) hf
      exact ⟨below, by simpa using hbelow⟩
    rw [folders]
    refine List.pairwise_cons.2 ⟨fun f hf => ?_, ?_⟩
    · -- a subdirectory lies below the directory
      obtain ⟨-, e, he, hf⟩ := mem_subfolders.1 hf
      obtain ⟨below, hbelow⟩ := hplace he hf
      have hlt : place ++ [] < place ++ e.1 :: below :=
        List.append_left_lt (List.nil_lt_cons ..)
      rwa [List.append_nil, ← hbelow] at hlt
    · split
      · exact .nil
      · rw [entryFolders_eq]
        refine pairwise_inNameOrder ?_ ?_ ?_
        · simpa [Function.comp_def] using (hw [] entries rfl).1
        · intro r hr
          obtain ⟨e, he, rfl⟩ := List.mem_map.1 hr
          exact ih e he _ (hw.of_mem he)
        · -- of the directories below two entries the names of these decide
          intro r hr r' hr' hlt f hf g hg
          obtain ⟨d, hd, rfl⟩ := List.mem_map.1 hr
          obtain ⟨e, he, rfl⟩ := List.mem_map.1 hr'
          obtain ⟨x, hx⟩ := hplace hd hf
          obtain ⟨y, hy⟩ := hplace he hg
          rw [hx, hy]
          exact List.append_left_lt (List.cons_lt_cons_iff.2 (.inl hlt))

/-! ## Directories that cannot be listed -/

/-- The places of the directories that a walk comes upon and cannot list, in order, each with the
reason why it cannot. -/
def refusals (root : Path) (n : Node) : List (Place × Reason) :=
  (folders root [] n).filterMap fun f => (f.refusal? root).map (f.place, ·)

/-- They stand in the order of their places. -/
theorem pairwise_refusals (root : Path) {n : Node} (hw : n.WellFormed) :
    (n.refusals root).Pairwise fun x y => x.1 < y.1 := by
  refine List.pairwise_filterMap.2 ((pairwise_place_folders root [] hw).imp ?_)
  intro f g hlt x hx y hy
  obtain ⟨_, -, rfl⟩ := Option.map_eq_some_iff.1 hx
  obtain ⟨_, -, rfl⟩ := Option.map_eq_some_iff.1 hy
  exact hlt

/-- They are the directories whose paths are refused while those of the directories above them are
not. -/
theorem mem_refusals {root : Path} {n : Node} (hw : n.WellFormed) {dir : Place} {reason : Reason} :
    (dir, reason) ∈ n.refusals root ↔ (∃ entries, n.at? dir = some (.dir entries)) ∧
      FileTree.refusal? (root.below dir) = some reason ∧
      ∀ above, above <+: dir → above ≠ dir → FileTree.refusal? (root.below above) = none := by
  simp only [refusals, List.mem_filterMap, Option.map_eq_some_iff, mem_folders_iff hw,
    List.nil_append]
  constructor
  · rintro ⟨f, ⟨_, rfl, hat, hlisted⟩, _, hr, heq⟩
    obtain ⟨rfl, rfl⟩ := Prod.mk.inj heq
    exact ⟨⟨_, hat⟩, hr, hlisted⟩
  · rintro ⟨⟨entries, hat⟩, hr, hlisted⟩
    exact ⟨⟨dir, entries⟩, ⟨dir, rfl, hat, hlisted⟩, reason, hr, rfl⟩

end Node

/-! ## The paths of directories -/

/-- In a well-formed tree, the path of a directory below another leads to it. -/
theorem FileTree.leadsTo_below {t : FileTree} (hw : t.root.WellFormed) {p : Path}
    {dir below : Place} (h : LeadsTo t.root (t.origin p.isAbsolute) p.solid dir)
    (hb : t.root.dirAt (dir ++ below) = true) :
    LeadsTo t.root (t.origin (p.below below).isAbsolute) (p.below below).solid (dir ++ below) := by
  induction below generalizing p dir with
  | nil =>
    rw [List.append_nil]
    exact h
  | cons name below ih =>
    rw [List.append_cons] at hb ⊢
    have hdir : t.root.dirAt (dir ++ [name]) = true := Node.dirAt_of_dirAt_append hb
    obtain ⟨entries, hx⟩ := Node.dirAt_iff.1 hdir
    exact ih (leadsTo_join h (hw.isProper hx) hdir) hb

end RoundTrip
