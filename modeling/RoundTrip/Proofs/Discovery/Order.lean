import Mathlib.Data.List.Sort
import RoundTrip.Proofs.Discovery.Folders

/-!
# The order of a walk

A walk comes upon the entries of a tree that are no directories in an order of their places
(`Place.Before`): what decides is the deepest directory that both lie below. A walk through a
well-formed tree keeps this order at every depth (`pairwise_filePlaces`), and which places it comes
upon is said by the tree and by the paths that can be listed (`mem_filePlaces`). The order is
asymmetric, so a walk is determined by the places that it comes upon.
-/

namespace RoundTrip

/-! ## The order of places -/

/-- The first of two places comes before the second. Of two entries of one directory the names
decide, an entry comes before all that lies in a subdirectory, and of two subdirectories the names
decide. -/
inductive Place.Before : Place → Place → Prop
  | entries {x y : Name} : x < y → Before [x] [y]
  | entryFirst {x y : Name} {q : Place} : q ≠ [] → Before [x] (y :: q)
  | subdirs {x y : Name} {p q : Place} : x < y → p ≠ [] → q ≠ [] → Before (x :: p) (y :: q)
  | within {name : Name} {p q : Place} : Before p q → Before (name :: p) (name :: q)

namespace Place

/-- The order of two places below a directory is their order from there. -/
theorem Before.append_left {p q : Place} (h : Before p q) (dir : Place) :
    Before (dir ++ p) (dir ++ q) := by
  induction dir with
  | nil => exact h
  | cons name dir ih => exact .within ih

/-- Of two places at most one comes before the other. -/
theorem Before.asymm {p q : Place} (h : Before p q) : ¬ Before q p := by
  induction h with
  | entries hxy =>
    intro h
    cases h with
    | entries hyx => exact List.lt_asymm hxy hyx
    | entryFirst hne => exact hne rfl
    | subdirs _ hne => exact hne rfl
    | within h => cases h
  | entryFirst hne =>
    intro h
    cases h with
    | entries | entryFirst => exact hne rfl
    | subdirs _ _ hne => exact hne rfl
    | within h => cases h
  | subdirs hxy hp hq =>
    intro h
    cases h with
    | entries => exact hp rfl
    | entryFirst => exact hq rfl
    | subdirs hyx => exact List.lt_asymm hxy hyx
    | within => exact List.lt_irrefl _ hxy
  | within h ih =>
    intro h'
    cases h' with
    | entries | entryFirst => cases h
    | subdirs hlt => exact List.lt_irrefl _ hlt
    | within h' => exact ih h'

instance : Std.Asymm Before := ⟨fun _ _ => Before.asymm⟩

end Place

/-! ## The places of files -/

/-- The names of the files of a directory stand in strict order if they are different. -/
theorem Node.pairwise_lt_fileNames {entries : List (Name × Node)}
    (hnodup : (entries.map Prod.fst).Nodup) : (fileNames entries).Pairwise (· < ·) := by
  have hsub : ((entries.filter fun e => !e.2.isDir).map Prod.fst).Nodup :=
    hnodup.sublist (List.filter_sublist.map _)
  have hne : (fileNames entries).Pairwise (· ≠ ·) := (List.mergeSort_perm _ _).nodup_iff.2 hsub
  exact ((pairwise_fileNames entries).and hne).imp fun ⟨hle, hne⟩ => Name.lt_of_le_of_ne hle hne

namespace Folder

/-- The places of the entries of a directory that are no directories, unless it cannot be listed. -/
def filePlaces (root : Path) (f : Folder) : List Place :=
  if (f.refusal? root).isSome then []
  else (Node.fileNames f.entries).map fun name => f.place ++ [name]

/-- What lies at such a place. -/
theorem mem_filePlaces {root : Path} {f : Folder} {q : Place} :
    q ∈ f.filePlaces root ↔ f.refusal? root = none ∧
      ∃ name n, q = f.place ++ [name] ∧ (name, n) ∈ f.entries ∧ n.isDir = false := by
  rw [filePlaces]
  split
  · next h =>
    simp only [List.not_mem_nil, false_iff, not_and]
    intro hr
    rw [hr] at h
    cases h
  · next h =>
    have hr : f.refusal? root = none := by simpa using h
    simp only [hr, List.mem_map, Node.mem_fileNames, true_and]
    constructor
    · rintro ⟨name, ⟨n, hn, hdir⟩, rfl⟩
      exact ⟨name, n, rfl, hn, hdir⟩
    · rintro ⟨name, n, rfl, hn, hdir⟩
      exact ⟨name, ⟨n, hn, hdir⟩, rfl⟩

/-- The places of the files of a directory stand in order. -/
theorem pairwise_filePlaces (root : Path) {f : Folder} (hnodup : (f.entries.map Prod.fst).Nodup) :
    (f.filePlaces root).Pairwise Place.Before := by
  rw [filePlaces]
  split
  · exact .nil
  · exact List.pairwise_map.2 ((Node.pairwise_lt_fileNames hnodup).imp fun hlt =>
      (Place.Before.entries hlt).append_left f.place)

end Folder

namespace Node

/-- Of two directories that a walk comes upon, the places of the files of the first come before
those of the files of the second. -/
theorem pairwise_before_folders (root : Path) (place : Place) {n : Node} (hw : n.WellFormed) :
    (folders root place n).Pairwise fun f g =>
      ∀ p ∈ f.filePlaces root, ∀ q ∈ g.filePlaces root, Place.Before p q := by
  induction n using Node.induct generalizing place with
  | leaf n hn =>
    cases n with
    | dir => simp [isDir] at hn
    | file | link | null => exact .nil
  | dir entries ih =>
    have hplace {e : Name × Node} (he : e ∈ entries) {f : Folder}
        (hf : f ∈ folders root (place ++ [e.1]) e.2) {q : Place} (hq : q ∈ f.filePlaces root) :
        ∃ below, below ≠ [] ∧ q = place ++ e.1 :: below := by
      obtain ⟨below, hbelow, -⟩ := mem_folders (hw.of_mem he) hf
      obtain ⟨-, name, n, rfl, -⟩ := Folder.mem_filePlaces.1 hq
      exact ⟨below ++ [name], by simp, by simp [hbelow]⟩
    rw [folders]
    refine List.pairwise_cons.2 ⟨fun f hf p hp q hq => ?_, ?_⟩
    · -- an entry of the directory comes before all that lies in a subdirectory
      obtain ⟨-, e, he, hf⟩ := mem_subfolders.1 hf
      obtain ⟨below, hne, rfl⟩ := hplace he hf hq
      obtain ⟨-, name, n, rfl, -⟩ := Folder.mem_filePlaces.1 hp
      exact (Place.Before.entryFirst hne).append_left place
    · split
      · exact .nil
      · rw [entryFolders_eq]
        refine pairwise_inNameOrder ?_ ?_ ?_
        · simpa [Function.comp_def] using (hw [] entries rfl).1
        · intro r hr
          obtain ⟨e, he, rfl⟩ := List.mem_map.1 hr
          exact ih e he _ (hw.of_mem he)
        · -- of two subdirectories the names decide
          intro r hr r' hr' hlt f hf g hg p hp q hq
          obtain ⟨d, hd, rfl⟩ := List.mem_map.1 hr
          obtain ⟨e, he, rfl⟩ := List.mem_map.1 hr'
          obtain ⟨x, hx, rfl⟩ := hplace hd hf hp
          obtain ⟨y, hy, rfl⟩ := hplace he hg hq
          exact (Place.Before.subdirs hlt hx hy).append_left place

/-- The places of the entries that are no directories, in the order in which a walk comes upon
them. -/
def filePlaces (root : Path) (n : Node) : List Place :=
  (folders root [] n).flatMap (Folder.filePlaces root)

/-- They stand in order. -/
theorem pairwise_filePlaces (root : Path) {n : Node} (hw : n.WellFormed) :
    (filePlaces root n).Pairwise Place.Before := by
  refine List.pairwise_flatMap.2 ⟨fun f hf => ?_, pairwise_before_folders root [] hw⟩
  obtain ⟨below, -, hat⟩ := mem_folders hw hf
  exact Folder.pairwise_filePlaces root (hw _ _ hat).1

/-- A walk comes upon the entries that are no directories if all directories above them can be
listed. -/
theorem mem_filePlaces {root : Path} {n : Node} (hw : n.WellFormed) {q : Place} :
    q ∈ filePlaces root n ↔ q ≠ [] ∧ (∃ m, n.at? q = some m ∧ m.isDir = false) ∧
      ∀ dir, dir <+: q → dir ≠ q → FileTree.refusal? (root.below dir) = none := by
  rw [filePlaces, List.mem_flatMap]
  constructor
  · rintro ⟨f, hf, hq⟩
    obtain ⟨hr, name, m, rfl, hm, hdir⟩ := Folder.mem_filePlaces.1 hq
    obtain ⟨below, hplace, hat, hlisted⟩ := (mem_folders_iff hw).1 hf
    rw [List.nil_append] at hplace
    subst hplace
    refine ⟨by simp, ⟨m, ?_, hdir⟩, fun dir habove hne => ?_⟩
    · rw [at?_concat hat, lookup_of_mem (hw _ _ hat).1 hm]
    · by_cases heq : dir = f.place
      · rw [heq]
        exact hr
      · refine hlisted dir ?_ heq
        exact (List.prefix_concat_iff.1 habove).resolve_left hne
  · rintro ⟨hne, ⟨m, hat, hdir⟩, hlisted⟩
    obtain ⟨below, name, rfl⟩ : ∃ below name, q = below ++ [name] :=
      ⟨_, _, (List.dropLast_append_getLast hne).symm⟩
    have hsplit := hat
    rw [at?_append] at hsplit
    obtain ⟨d, hd, hname⟩ := Option.bind_eq_some_iff.1 hsplit
    obtain ⟨entries, rfl⟩ := exists_entries hname
    refine ⟨⟨below, entries⟩, (mem_folders_iff hw).2 ⟨below, rfl, hd, fun dir habove _ => ?_⟩, ?_⟩
    · refine hlisted dir (habove.trans (List.prefix_append ..)) fun h => ?_
      have hlength := habove.length_le
      rw [h, List.length_append, List.length_singleton] at hlength
      omega
    · refine Folder.mem_filePlaces.2 ⟨?_, name, m, rfl, ?_, hdir⟩
      · exact hlisted below (List.prefix_append ..) (by simp)
      · rw [at?_concat hd] at hat
        exact mem_of_lookup hat

end Node

end RoundTrip
