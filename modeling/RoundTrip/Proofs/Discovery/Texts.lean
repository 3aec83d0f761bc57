import RoundTrip.Proofs.Discovery.Artifacts
import RoundTrip.Proofs.Discovery.Order
import RoundTrip.Proofs.Files.Listing

/-!
# The texts of a tree

A tree holds a text (`Node.HoldsText`) where an entry that is no directory has the name of one and
subdirectories lead to it. A walk comes upon the places of texts in their order
(`pairwise_textPlaces`), and it comes upon each of them whose directories can be listed
(`mem_textPlaces`). So the artifacts that a walk discovers are those of the texts of the tree
(`discovered_eq`), and trees that hold the same texts have the same artifacts
(`textPlaces_congr`).
-/

namespace RoundTrip

namespace Node

/-- What lies at a place to which subdirectories lead. -/
inductive Reaches : Node → Place → Node → Prop
  | here {n : Node} : Reaches n [] n
  | entry {entries : List (Name × Node)} {e : Name × Node} {place : Place} {n : Node} :
      e ∈ entries → Reaches e.2 place n → Reaches (.dir entries) (e.1 :: place) n

/-- In a well-formed tree this is the node at the place. -/
theorem reaches_iff {n m : Node} {place : Place} (hw : n.WellFormed) :
    n.Reaches place m ↔ n.at? place = some m := by
  constructor
  · intro h
    induction h with
    | here => rfl
    | @entry entries e place n he _ ih =>
      rw [at?, entry?, Node.entries, lookup_of_mem (hw [] entries rfl).1 he]
      exact ih (hw.of_mem he)
  · intro h
    induction place generalizing n with
    | nil =>
      obtain rfl := Option.some.inj h
      exact .here
    | cons name place ih =>
      obtain ⟨entries, rfl⟩ := exists_entries h
      obtain ⟨d, hd, h⟩ := Option.bind_eq_some_iff.1 h
      have he : (name, d) ∈ entries := mem_of_lookup hd
      exact .entry he (ih (hw.of_mem he) h)

/-- A tree holds a text with a stem in a directory: an entry that is no directory and whose name
consists of the stem and the suffix of texts. -/
def HoldsText (top : Node) (dir : Place) (stem : String) : Prop :=
  stem ≠ "" ∧ ∃ n, top.Reaches (dir ++ [Utf8.encode (stem ++ Artifact.textSuffix)]) n ∧
    n.isDir = false

/-- Each name on the way to a node of a well-formed tree is proper. -/
theorem WellFormed.isProper_of_mem {root n : Node} {place : Place} (hw : root.WellFormed)
    (h : root.at? place = some n) : ∀ name ∈ place, Name.IsProper name := by
  intro name hname
  obtain ⟨front, back, rfl⟩ := List.append_of_mem hname
  rw [List.append_cons, at?_append] at h
  obtain ⟨m, hm, -⟩ := Option.bind_eq_some_iff.1 h
  exact hw.isProper hm

end Node

namespace Artifact

/-- A name has a stem just if it is that of a text. -/
theorem stem?_eq_some_iff {name : Bytes} {stem : String} :
    stem? name = some stem ↔ stem ≠ "" ∧ name = Utf8.encode (stem ++ textSuffix) := by
  constructor
  · intro h
    refine ⟨?_, name_of_stem? h⟩
    simp only [stem?, Option.bind_eq_bind, Option.bind_eq_some_iff] at h
    obtain ⟨text, -, h⟩ := h
    split at h
    · next hs =>
      intro he
      have hlist := congrArg String.toList ((Option.some.inj h).trans he)
      rw [String.toList_ofList] at hlist
      exact hs.1 hlist
    · cases h
  · rintro ⟨hne, rfl⟩
    have hlist : stem.toList ≠ [] := fun he => hne (String.toList_injective he)
    have hlength : (stem ++ textSuffix).toList.length - textSuffix.toList.length =
        stem.toList.length := by
      rw [String.toList_append, List.length_append, Nat.add_sub_cancel]
    rw [stem?, Utf8.decode?_encode]
    simp only [Option.bind_eq_bind, Option.bind_some, hlength]
    rw [String.toList_append, List.take_left, List.drop_left, if_pos ⟨hlist, rfl⟩,
      String.ofList_toList]

/-- An entry of a directory is the text of an artifact just if its name has a stem. -/
theorem isSome_ofPath?_join (dir : Path) {name : Name} (hn : name.IsProper) :
    (ofPath? (dir.join ⟨name⟩)).isSome = (stem? name).isSome := by
  obtain ⟨pre, -, hcut⟩ := Path.cut_join dir
  simp only [ofPath?, Path.fileName?_eq hn (hcut hn), Option.bind_eq_bind, Option.bind_some]
  cases stem? name <;> rfl

end Artifact

/-! ## The path of a place -/

namespace Path

/-- The path of an entry of a directory below a path. -/
theorem below_concat (p : Path) (dir : Place) (name : Name) :
    p.below (dir ++ [name]) = (p.below dir).join ⟨name⟩ := by
  simp [below]

/-- Joining two entries, one after the other, is joining the path of the second in the first. -/
theorem join_join (p : Path) {name : Name} (hn : name.IsProper) {rest : Bytes}
    (hr : (⟨rest⟩ : Path).isAbsolute = false) :
    (p.join ⟨name⟩).join ⟨rest⟩ = p.join ⟨name ++ slash :: rest⟩ := by
  have hlast : name.getLast? ≠ some slash := fun h =>
    hn.slash_notMem (List.mem_of_getLast? h)
  obtain ⟨b, hb⟩ : ∃ b, name.getLast? = some b := by
    cases h : name.getLast? with
    | none => exact absurd (List.getLast?_eq_none_iff.1 h) hn.ne_nil
    | some b => exact ⟨b, rfl⟩
  have hslash : b ≠ slash := fun h => hlast (h ▸ hb)
  have habs : (⟨name ++ slash :: rest⟩ : Path).isAbsolute = false := by
    have := isAbsolute_name hn
    obtain ⟨c, cs, hc⟩ := List.exists_cons_of_ne_nil hn.ne_nil
    simp_all [isAbsolute]
  simp only [join, isAbsolute_name hn, hr, habs, Bool.false_eq_true, if_false]
  cases p.bytes.getLast? with
  | none => simp [hb, hslash]
  | some c => simp [hb, hslash, List.getLast?_append]

/-- The path of a place below a path is the relative path of the place, joined to the path. -/
theorem below_eq_join (p : Path) {place : Place} (hne : place ≠ [])
    (hproper : ∀ name ∈ place, Name.IsProper name) : p.below place = p.join ⟨glue place⟩ := by
  induction place generalizing p with
  | nil => exact absurd rfl hne
  | cons name rest ih =>
    cases rest with
    | nil => rfl
    | cons next rest =>
      have hn := hproper name (by simp)
      have hnext := hproper next (by simp)
      have hr : (⟨glue (next :: rest)⟩ : Path).isAbsolute = false :=
        isAbsolute_glue fun q hq => by
          obtain rfl : next = q := by simpa using hq
          exact ⟨hnext.ne_nil, hnext.slash_notMem⟩
      have hrest := ih (p.join ⟨name⟩) (by simp) fun x hx => hproper x (List.mem_cons_of_mem _ hx)
      rw [below, List.foldl_cons, ← below, hrest, join_join p hn hr]
      rfl

/-- Different places below a path have different paths. -/
theorem join_glue_injective (p : Path) {place other : Place} (hne : place ≠ []) (hne' : other ≠ [])
    (hproper : ∀ name ∈ place, Name.IsProper name) (hproper' : ∀ name ∈ other, Name.IsProper name)
    (h : p.join ⟨glue place⟩ = p.join ⟨glue other⟩) : place = other := by
  have habs {q : Place} (hq : ∀ name ∈ q, Name.IsProper name) :
      (⟨glue q⟩ : Path).isAbsolute = false :=
    isAbsolute_glue fun name hname =>
      have hn := hq name (List.mem_of_mem_head? hname)
      ⟨hn.ne_nil, hn.slash_notMem⟩
  have hglue : glue place = glue other := by
    rw [join, join, if_neg (by simp [habs hproper]), if_neg (by simp [habs hproper'])] at h
    cases hlast : p.bytes.getLast? with
    | none => simpa [hlast] using h
    | some c => simpa [hlast] using h
  rw [← cut_glue hne fun q hq => (hproper q hq).slash_notMem, hglue,
    cut_glue hne' fun q hq => (hproper' q hq).slash_notMem]

end Path

/-! ## The texts that a walk comes upon -/

namespace Folder

/-- The artifacts in a directory are those of the places of its files. -/
theorem artifacts_eq (root : Path) (f : Folder) :
    f.artifacts root = (f.filePlaces root).filterMap fun q => Artifact.ofPath? (root.below q) := by
  rw [artifacts, filePlaces]
  split
  · rfl
  · simp [Artifact.ofNames, List.filterMap_map, Path.below_concat, path]

end Folder

namespace Node

/-- The places of the texts that a walk comes upon, in order. -/
def textPlaces (root : Path) (n : Node) : List Place :=
  (n.filePlaces root).filter fun q => (Artifact.ofPath? (root.below q)).isSome

/-- They stand in order. -/
theorem pairwise_textPlaces (root : Path) {n : Node} (hw : n.WellFormed) :
    (n.textPlaces root).Pairwise Place.Before := (pairwise_filePlaces root hw).filter _

/-- A walk comes upon the texts of a tree if the directories above them can be listed. -/
theorem mem_textPlaces {root : Path} {n : Node} (hw : n.WellFormed) {q : Place} :
    q ∈ n.textPlaces root ↔ ∃ dir stem, q = dir ++ [Utf8.encode (stem ++ Artifact.textSuffix)] ∧
      n.HoldsText dir stem ∧
      ∀ above, above <+: dir → FileTree.refusal? (root.below above) = none := by
  rw [textPlaces, List.mem_filter, mem_filePlaces hw]
  constructor
  · rintro ⟨⟨hne, ⟨m, hm, hdir⟩, hlisted⟩, hsome⟩
    obtain ⟨dir, name, rfl⟩ : ∃ dir name, q = dir ++ [name] :=
      ⟨_, _, (List.dropLast_append_getLast hne).symm⟩
    have hn : name.IsProper := hw.isProper hm
    rw [Path.below_concat, Artifact.isSome_ofPath?_join _ hn] at hsome
    obtain ⟨stem, hstem⟩ := Option.isSome_iff_exists.1 hsome
    obtain ⟨hempty, rfl⟩ := Artifact.stem?_eq_some_iff.1 hstem
    refine ⟨dir, stem, rfl, ⟨hempty, m, (reaches_iff hw).2 hm, hdir⟩, fun above habove => ?_⟩
    refine hlisted above (habove.trans (List.prefix_append ..)) fun he => ?_
    have hlength := habove.length_le
    rw [he, List.length_append, List.length_singleton] at hlength
    omega
  · rintro ⟨dir, stem, rfl, ⟨hstem, m, hm, hdir⟩, hlisted⟩
    have hat := (reaches_iff hw).1 hm
    refine ⟨⟨by simp, ⟨m, hat, hdir⟩, fun above habove hne => ?_⟩, ?_⟩
    · exact hlisted above ((List.prefix_concat_iff.1 habove).resolve_left hne)
    · rw [Path.below_concat, Artifact.isSome_ofPath?_join _ (hw.isProper hat),
        Artifact.stem?_eq_some_iff.2 ⟨hstem, rfl⟩]
      rfl

/-- The names on the way to a text that a walk comes upon are proper. -/
theorem isProper_of_mem_textPlaces {root : Path} {n : Node} (hw : n.WellFormed) {q : Place}
    (hq : q ∈ n.textPlaces root) : q ≠ [] ∧ ∀ name ∈ q, Name.IsProper name := by
  obtain ⟨hne, ⟨m, hm, -⟩, -⟩ := (mem_filePlaces hw).1 (List.mem_of_mem_filter hq)
  exact ⟨hne, hw.isProper_of_mem hm⟩

/-- A walk comes upon the same places in trees that hold the same texts. -/
theorem textPlaces_congr (root : Path) {n n' : Node} (hw : n.WellFormed) (hw' : n'.WellFormed)
    (h : ∀ dir stem, n'.HoldsText dir stem ↔ n.HoldsText dir stem) :
    n'.textPlaces root = n.textPlaces root := by
  refine (pairwise_textPlaces root hw').eq_of_mem_iff (pairwise_textPlaces root hw) fun q => ?_
  rw [mem_textPlaces hw, mem_textPlaces hw']
  simp only [h]

end Node

namespace FileTree

variable {t : FileTree} {root : Path}

/-- A path that is too long is refused. -/
theorem refusal?_of_long (hzero : (0 : UInt8) ∉ root.bytes)
    (hlong : pathLimit < root.bytes.length) :
    refusal? root = some (.errno .nameTooLong) := by
  have hempty : root.isEmpty = false := by
    rw [Path.isEmpty, ← Bool.not_eq_true, List.isEmpty_iff_length_eq_zero]
    omega
  simp [refusal?, hzero, hempty, hlong]

/-- What a path leads to is in the tree. -/
theorem wellFormed_of_node? (hw : t.root.WellFormed) {n : Node} (h : t.node? root = some n) :
    n.WellFormed := by
  obtain ⟨place, -, hat⟩ := landing_of_node? h
  exact hw.at? hat

/-- A path leads to a directory. -/
theorem isDir_iff : t.isDir root = true ↔ ∃ n, t.node? root = some n ∧ n.isDir = true := by
  simp [isDir, Option.any_eq_true]

/-- A path that leads to no directory has no directories below it. -/
theorem folders?_eq_none (h : t.isDir root = false) : t.folders? root = none := by
  unfold folders?
  split
  · next entries hnode => simp [isDir, hnode, Node.isDir] at h
  · rfl

/-- It has no artifacts either. -/
theorem discovered_eq_nil (h : t.isDir root = false) : t.discovered root = [] := by
  simp [discovered, artifacts?, folders?_eq_none h]

/-- The artifacts below a directory are those of its texts. -/
theorem discovered_eq {n : Node} (hnode : t.node? root = some n) (hdir : n.isDir = true) :
    t.discovered root =
      (n.textPlaces root).filterMap fun q => Artifact.ofPath? (root.below q) := by
  cases n with
  | file | link | null => cases hdir
  | dir entries =>
    have heq : t.discovered root =
        (Node.folders root [] (.dir entries)).flatMap (·.artifacts root) := by
      simp [discovered, artifacts?, folders?, hnode]
    rw [heq, Node.textPlaces, List.filterMap_filter, Node.filePlaces, List.filterMap_flatMap]
    refine List.flatMap_congr fun f _ => ?_
    rw [Folder.artifacts_eq]
    refine List.filterMap_congr fun q _ => ?_
    cases Artifact.ofPath? (root.below q) <;> rfl

/-- Each text that a walk comes upon has its artifact. -/
theorem map_some_discovered {n : Node} (hnode : t.node? root = some n) (hdir : n.isDir = true) :
    (t.discovered root).map some =
      (n.textPlaces root).map fun q => Artifact.ofPath? (root.below q) := by
  have hsome : ∀ q ∈ n.textPlaces root, (Artifact.ofPath? (root.below q)).isSome = true :=
    fun q hq => (List.mem_filter.1 hq).2
  rw [discovered_eq hnode hdir]
  generalize n.textPlaces root = places at hsome
  induction places with
  | nil => rfl
  | cons q rest ih =>
    obtain ⟨a, ha⟩ := Option.isSome_iff_exists.1 (hsome q (by simp))
    rw [List.filterMap_cons, ha, List.map_cons, List.map_cons, ha,
      ih fun x hx => hsome x (List.mem_cons_of_mem _ hx)]

/-- The same artifacts are discovered below directories that hold the same texts. -/
theorem discovered_congr {t' : FileTree} (hw : t.root.WellFormed) (hw' : t'.root.WellFormed)
    (hdir : t'.isDir root = true → t.isDir root = true)
    (h : ∀ n, t.node? root = some n → n.isDir = true → ∃ n', t'.node? root = some n' ∧
      n'.isDir = true ∧ ∀ dir stem, n'.HoldsText dir stem ↔ n.HoldsText dir stem) :
    t'.discovered root = t.discovered root := by
  by_cases hroot : t.isDir root = true
  · obtain ⟨n, hn, hd⟩ := isDir_iff.1 hroot
    obtain ⟨n', hn', hd', htexts⟩ := h n hn hd
    rw [discovered_eq hn hd, discovered_eq hn' hd', Node.textPlaces_congr root
      (wellFormed_of_node? hw hn) (wellFormed_of_node? hw' hn') htexts]
  · have hroot' : ¬ t'.isDir root = true := fun h => hroot (hdir h)
    rw [Bool.not_eq_true] at hroot hroot'
    rw [discovered_eq_nil hroot, discovered_eq_nil hroot']

end FileTree

end RoundTrip
