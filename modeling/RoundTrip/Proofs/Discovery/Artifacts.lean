import Mathlib.Tactic.Choose
import RoundTrip.Proofs.Discovery.Folders
import RoundTrip.Proofs.Files.LastName

/-!
# The artifacts that a walk discovers

A discovered artifact lies in a directory with a stem (`Artifact.LiesIn`): its three paths lie in
the directory under the stem with the three suffixes. Two artifacts of one directory have the same
paths up to their stems (`exists_named`), so whether one path of an artifact is a path of another
depends on stems alone. There is one case: the binary for the text of `a` is the reference of
`a.out` (`LiesIn.binary_eq_reference`). Names are in the order of their bytes, so a walk then
comes upon `a` before it comes upon `a.out` (`pairwise_discovered`).
-/

namespace RoundTrip

namespace Artifact

/-! ## Stems -/

/-- What stands between the stem of an artifact and the suffix of a reference binary in the name of
an assembled binary. -/
def outSuffix : String := ".out"

/-- A name that has a stem consists of the stem and the suffix of a text. -/
theorem name_of_stem? {name : Bytes} {stem : String} (h : stem? name = some stem) :
    name = Utf8.encode (stem ++ textSuffix) := by
  simp only [stem?, Option.bind_eq_bind, Option.bind_eq_some_iff] at h
  obtain ⟨text, ht, h⟩ := h
  split at h
  · next hs =>
    obtain rfl := Option.some.inj h
    rw [← Utf8.encode_of_decode? ht]
    congr 1
    apply String.toList_injective
    rw [String.toList_append, String.toList_ofList, ← List.take_append_drop _ text.toList, hs.2]
    simp
  · cases h

/-- Texts with suffixes of the same length are the same just if both parts are. -/
theorem append_inj {a b s t : String} (h : a ++ s = b ++ t)
    (hlength : s.toList.length = t.toList.length) : a = b ∧ s = t := by
  have hlist : a.toList ++ s.toList = b.toList ++ t.toList := by
    rw [← String.toList_append, h, String.toList_append]
  obtain ⟨ha, hs⟩ := List.append_inj' hlist hlength
  exact ⟨String.toList_injective ha, String.toList_injective hs⟩

/-- The name of a text is that of no assembled binary. -/
theorem text_ne_binary (a b : String) :
    Utf8.encode (a ++ textSuffix) ≠ Utf8.encode (b ++ binarySuffix) := by
  intro h
  have hsuffix := (append_inj (Utf8.encode_injective h) (by simp [textSuffix, binarySuffix])).2
  simp [textSuffix, binarySuffix] at hsuffix

/-- The name of a reference binary is that of an assembled one just if its stem has a further
suffix. -/
theorem reference_eq_binary_iff {a b : String} :
    Utf8.encode (a ++ referenceSuffix) = Utf8.encode (b ++ binarySuffix) ↔ a = b ++ outSuffix := by
  have hsuffix : b ++ binarySuffix = b ++ outSuffix ++ referenceSuffix := by
    rw [String.append_assoc]
    simp [binarySuffix, outSuffix, referenceSuffix]
  rw [hsuffix]
  constructor
  · exact fun h => (append_inj (Utf8.encode_injective h) rfl).1
  · rintro rfl
    rfl

/-- A stem with a further suffix is another stem. -/
theorem ne_append_outSuffix (stem : String) : stem ≠ stem ++ outSuffix := by
  intro h
  have := congrArg (·.toList.length) h
  simp [outSuffix] at this

/-- A text whose stem has a further suffix comes behind the text without it. -/
theorem not_le_of_outSuffix (b : String) :
    Name.le (Utf8.encode (b ++ outSuffix ++ textSuffix)) (Utf8.encode (b ++ textSuffix)) =
      false := by
  have hlt : Utf8.encode textSuffix < Utf8.encode (outSuffix ++ textSuffix) := by decide +kernel
  rw [String.append_assoc, Utf8.encode_append, Utf8.encode_append, Name.le, decide_eq_false_iff_not,
    List.not_le]
  exact List.append_left_lt hlt

/-! ## Names -/

/-- A proper name with another suffix that is no longer is proper. -/
theorem isProper_append {front back other : Bytes} (h : Name.IsProper (front ++ back))
    (hlength : other.length ≤ back.length) (hother : 3 ≤ other.length)
    (hslash : Path.slash ∉ other) : Name.IsProper (front ++ other) := by
  have hfront : Path.IsName (front ++ back) := ⟨h.ne_nil, h.ne_dot, h.ne_dotDot, h.slash_notMem⟩
  have hname := hfront.append hother hslash
  refine ⟨hname.ne_nil, hname.ne_dot, hname.ne_dotDot, hname.slash_notMem, ?_⟩
  have := h.length_le
  simp only [List.length_append] at *
  omega

/-- A binary has a proper name if the text has one. -/
theorem isProper_binaries {stem : String} (h : Name.IsProper (Utf8.encode (stem ++ textSuffix))) :
    Name.IsProper (Utf8.encode (stem ++ referenceSuffix)) ∧
      Name.IsProper (Utf8.encode (stem ++ binarySuffix)) := by
  rw [Utf8.encode_append] at *
  rw [Utf8.encode_append]
  exact ⟨isProper_append h (by decide +kernel) (by decide +kernel) (by decide +kernel),
    isProper_append h (by decide +kernel) (by decide +kernel) (by decide +kernel)⟩

/-- An artifact has a stem, from which its paths are made. -/
theorem ofPath?_eq_some {p : Path} {name : Name} {a : Artifact} (hname : p.fileName? = some name)
    (h : ofPath? p = some a) : ∃ stem, name = Utf8.encode (stem ++ textSuffix) ∧
      a = ⟨p.withFileName (Utf8.encode (stem ++ referenceSuffix)), p,
        p.withFileName (Utf8.encode (stem ++ binarySuffix))⟩ := by
  simp only [ofPath?, hname, Option.bind_eq_bind, Option.bind_some, Option.bind_eq_some_iff,
    Option.some.injEq] at h
  obtain ⟨stem, hstem, rfl⟩ := h
  exact ⟨stem, name_of_stem? hstem, rfl⟩

/-- The text of an artifact is where it was found. -/
theorem text_of_ofPath? {p : Path} {a : Artifact} (h : ofPath? p = some a) : a.text = p := by
  simp only [ofPath?, Option.bind_eq_bind, Option.bind_eq_some_iff, Option.some.injEq] at h
  obtain ⟨-, -, stem, -, rfl⟩ := h
  rfl

/-- The artifact with a stem whose text lies in a directory and whose binaries lie in another. -/
def named (dir front : Path) (stem : String) : Artifact where
  reference := front.join ⟨Utf8.encode (stem ++ referenceSuffix)⟩
  text := dir.join ⟨Utf8.encode (stem ++ textSuffix)⟩
  binary := front.join ⟨Utf8.encode (stem ++ binarySuffix)⟩

/-- The artifacts of the entries of a directory differ only in their stems. -/
theorem exists_named (dir : Path) : ∃ front : Path, ∀ {name : Name} {a : Artifact},
    name.IsProper → ofPath? (dir.join ⟨name⟩) = some a →
      ∃ stem, name = Utf8.encode (stem ++ textSuffix) ∧ a = named dir front stem := by
  obtain ⟨pre, -, hcut⟩ := Path.cut_join dir
  refine ⟨Path.front pre, fun {name a} hn h => ?_⟩
  obtain ⟨stem, rfl, rfl⟩ := ofPath?_eq_some (Path.fileName?_eq hn (hcut hn)) h
  refine ⟨stem, rfl, ?_⟩
  rw [Path.withFileName_eq hn (hcut hn), Path.withFileName_eq hn (hcut hn), named]

/-! ## Places -/

/-- The paths of an artifact lie in a directory, under a stem with the three suffixes. -/
structure LiesIn (t : FileTree) (a : Artifact) (dir : Place) (stem : String) : Prop where
  reference : t.Lies a.reference dir (Utf8.encode (stem ++ referenceSuffix))
  text : t.Lies a.text dir (Utf8.encode (stem ++ textSuffix))
  binary : t.Lies a.binary dir (Utf8.encode (stem ++ binarySuffix))

variable {t : FileTree} {a b : Artifact} {dir dir' : Place} {stem stem' : String}

/-- An artifact lies in one directory, with one stem. -/
theorem LiesIn.det (h : a.LiesIn t dir stem) (h' : a.LiesIn t dir' stem') :
    dir = dir' ∧ stem = stem' := by
  obtain ⟨hdir, hname⟩ := h.text.det h'.text
  exact ⟨hdir, (append_inj (Utf8.encode_injective hname) rfl).1⟩

/-- Where an artifact lies depends on where the directories are. -/
theorem LiesIn.congr {t' : FileTree} (h : a.LiesIn t dir stem) (hcwd : t'.cwd = t.cwd)
    (hroot : ∀ place, t'.root.dirAt place = t.root.dirAt place) : a.LiesIn t' dir stem :=
  ⟨h.reference.congr hcwd hroot, h.text.congr hcwd hroot, h.binary.congr hcwd hroot⟩

/-- An artifact that is derived from the name of an entry lies in the directory of the entry. -/
theorem liesIn_of_ofPath? {q : Path} {name : Name}
    (hq : FileTree.LeadsTo t.root (t.origin q.isAbsolute) q.solid dir) (hn : name.IsProper)
    (h : ofPath? (q.join ⟨name⟩) = some a) :
    ∃ stem, name = Utf8.encode (stem ++ textSuffix) ∧ a.LiesIn t dir stem := by
  have hlies := FileTree.lies_join hq hn
  obtain ⟨pre, -, hcut⟩ := Path.cut_join q
  obtain ⟨stem, rfl, rfl⟩ := ofPath?_eq_some (Path.fileName?_eq hn (hcut hn)) h
  obtain ⟨hreference, hbinary⟩ := isProper_binaries hn
  exact ⟨stem, rfl, hlies.withFileName hreference, hlies, hlies.withFileName hbinary⟩

/-- The binary of an artifact is the reference of another just if both lie in one directory and the
stem of the second is that of the first with a further suffix. -/
theorem LiesIn.binary_eq_reference (ha : a.LiesIn t dir stem) (hb : b.LiesIn t dir' stem')
    (h : b.binary = a.reference) : dir = dir' ∧ stem = stem' ++ outSuffix := by
  obtain ⟨hdir, hname⟩ := ha.reference.det (h ▸ hb.binary)
  exact ⟨hdir, reference_eq_binary_iff.1 hname⟩

end Artifact

/-! ## Discovery -/

namespace Folder

/-- An artifact in a directory is derived from the name of an entry that is no directory. -/
theorem mem_artifacts {root : Path} {f : Folder} {a : Artifact} (h : a ∈ f.artifacts root) :
    ∃ name ∈ Node.fileNames f.entries, Artifact.ofPath? ((f.path root).join ⟨name⟩) = some a := by
  rw [artifacts] at h
  split at h
  · cases h
  · exact List.mem_filterMap.1 h

end Folder

namespace FileTree

/-- The artifacts that a walk from a path discovers. -/
def discovered (t : FileTree) (root : Path) : List Artifact := (t.artifacts? root).getD []

variable {t : FileTree} {root : Path}

/-- A walk discovers nothing, or the artifacts of the directories below the one to which its root
leads. -/
theorem discovered_cases (hf : t.root.LinkFree) (root : Path) :
    t.discovered root = [] ∨ ∃ top entries,
      LeadsTo t.root (t.origin root.isAbsolute) root.solid top ∧
      t.root.at? top = some (.dir entries) ∧
      t.discovered root = (Node.folders root [] (.dir entries)).flatMap (·.artifacts root) := by
  by_cases hnode : ∃ entries, t.node? root = some (.dir entries)
  · obtain ⟨entries, hnode⟩ := hnode
    obtain ⟨top, hleads, htop⟩ := exists_leadsTo hf hnode
    refine .inr ⟨top, entries, hleads, htop, ?_⟩
    simp [discovered, artifacts?, folders?, hnode]
  · refine .inl ?_
    have hfolders : t.folders? root = none := by
      unfold folders?
      split
      · next h => exact absurd ⟨_, h⟩ hnode
      · rfl
    simp [discovered, artifacts?, hfolders]

/-- The artifacts of a directory whose entries are files that stand in order. -/
theorem discovered_of_files {entries : List (Name × Node)}
    (hnode : t.node? root = some (.dir entries)) (hfiles : ∀ e ∈ entries, e.2.isDir = false)
    (hsorted : (entries.map Prod.fst).Pairwise fun a b => Name.le a b = true) :
    t.discovered root = Artifact.ofNames root (entries.map Prod.fst) := by
  have hr : Folder.refusal? root ⟨[], entries⟩ = none := refusal?_of_node? hnode
  simp [discovered, artifacts?, folders?, hnode, Node.folders_of_files hfiles, Folder.artifacts, hr,
    Node.fileNames_of_pairwise hsorted hfiles, Folder.path, Path.below]

section Below

variable {top : Place} {entries : List (Name × Node)} {f : Folder} {a : Artifact}

/-- A directory that a walk comes upon is at its place, and its path leads to it. -/
theorem leadsTo_folder (hw : t.root.WellFormed)
    (hleads : LeadsTo t.root (t.origin root.isAbsolute) root.solid top)
    (htop : t.root.at? top = some (.dir entries))
    (hmem : f ∈ Node.folders root [] (.dir entries)) :
    LeadsTo t.root (t.origin (f.path root).isAbsolute) (f.path root).solid (top ++ f.place) ∧
      t.root.at? (top ++ f.place) = some (.dir f.entries) := by
  obtain ⟨below, hplace, hat⟩ := Node.mem_folders (hw.at? htop) hmem
  obtain rfl : f.place = below := hplace
  have hdir : t.root.at? (top ++ f.place) = some (.dir f.entries) := by
    rw [Node.at?_append, htop]
    exact hat
  exact ⟨leadsTo_below hw hleads (Node.dirAt_iff.2 ⟨_, hdir⟩), hdir⟩

/-- An artifact in a directory that a walk comes upon lies there. -/
theorem liesIn_of_mem_artifacts (hw : t.root.WellFormed)
    (hleads : LeadsTo t.root (t.origin root.isAbsolute) root.solid top)
    (htop : t.root.at? top = some (.dir entries))
    (hmem : f ∈ Node.folders root [] (.dir entries)) {name : Name}
    (hname : name ∈ Node.fileNames f.entries)
    (ha : Artifact.ofPath? ((f.path root).join ⟨name⟩) = some a) :
    name.IsProper ∧ ∃ stem, name = Utf8.encode (stem ++ Artifact.textSuffix) ∧
      a.LiesIn t (top ++ f.place) stem := by
  obtain ⟨hpath, hdir⟩ := leadsTo_folder hw hleads htop hmem
  obtain ⟨n, hentry, -⟩ := Node.mem_fileNames.1 hname
  have hn : name.IsProper := (hw _ _ hdir).2 _ hentry
  exact ⟨hn, Artifact.liesIn_of_ofPath? hpath hn ha⟩

end Below

/-- Every artifact that is discovered lies in a directory, and all of one directory differ only in
their stems. -/
theorem exists_named_discovered (hw : t.root.WellFormed) (hf : t.root.LinkFree) (root : Path) :
    ∃ paths fronts : Place → Path, ∀ a ∈ t.discovered root, ∃ dir stem, a.LiesIn t dir stem ∧
      a = .named (paths dir) (fronts dir) stem := by
  obtain hnil | ⟨top, entries, hleads, htop, heq⟩ := discovered_cases hf root
  · exact ⟨fun _ => root, fun _ => root, by simp [hnil]⟩
  · choose front hfront using Artifact.exists_named
    refine ⟨fun dir => root.below (dir.drop top.length),
      fun dir => front (root.below (dir.drop top.length)), fun a ha => ?_⟩
    rw [heq] at ha
    obtain ⟨f, hmem, ha⟩ := List.mem_flatMap.1 ha
    obtain ⟨name, hname, ha⟩ := Folder.mem_artifacts ha
    obtain ⟨hn, stem, rfl, hlies⟩ := liesIn_of_mem_artifacts hw hleads htop hmem hname ha
    obtain ⟨stem', hstem, rfl⟩ := hfront _ hn ha
    obtain rfl := (Artifact.append_inj (Utf8.encode_injective hstem) rfl).1
    exact ⟨_, stem, hlies, by simp [Folder.path]⟩

/-- An artifact that is discovered is the one of its text. -/
theorem ofPath?_text_of_mem_discovered {a : Artifact} (h : a ∈ t.discovered root) :
    Artifact.ofPath? a.text = some a := by
  obtain ⟨artifacts, hsome, ha⟩ : ∃ artifacts, t.artifacts? root = some artifacts ∧
      a ∈ artifacts := by
    cases hx : t.artifacts? root with
    | none => simp [discovered, hx] at h
    | some artifacts => exact ⟨artifacts, rfl, by simpa [discovered, hx] using h⟩
  obtain ⟨folders, -, rfl⟩ := Option.map_eq_some_iff.1 hsome
  obtain ⟨f, -, ha⟩ := List.mem_flatMap.1 ha
  obtain ⟨name, -, ha⟩ := Folder.mem_artifacts ha
  rwa [Artifact.text_of_ofPath? ha]

/-- A walk comes upon the artifact whose binary is the reference of another before it comes upon
the other. -/
theorem pairwise_discovered (hw : t.root.WellFormed) (hf : t.root.LinkFree) (root : Path) :
    (t.discovered root).Pairwise fun a b => ∀ dir stem, b.LiesIn t dir stem →
      ¬ a.LiesIn t dir (stem ++ Artifact.outSuffix) := by
  obtain hnil | ⟨top, entries, hleads, htop, heq⟩ := discovered_cases hf root
  · rw [hnil]
    exact .nil
  · rw [heq, List.pairwise_flatMap]
    refine ⟨fun f hmem => ?_, ?_⟩
    · -- within a directory the names stand in order
      rw [Folder.artifacts]
      split
      · exact .nil
      refine List.pairwise_filterMap.2 ?_
      refine (Node.pairwise_fileNames _).imp_of_mem fun hx hy hle a ha b hb dir stem hlb hla => ?_
      obtain ⟨-, sa, rfl, hla'⟩ := liesIn_of_mem_artifacts hw hleads htop hmem hx ha
      obtain ⟨-, sb, rfl, hlb'⟩ := liesIn_of_mem_artifacts hw hleads htop hmem hy hb
      obtain ⟨-, rfl⟩ := hla'.det hla
      obtain ⟨-, rfl⟩ := hlb'.det hlb
      rw [Artifact.not_le_of_outSuffix] at hle
      cases hle
    · -- the artifacts of two directories lie in different places
      refine (Node.pairwise_place_folders root [] (hw.at? htop)).imp_of_mem ?_
      intro f g hmemf hmemg hlt a ha b hb dir stem hlb hla
      obtain ⟨x, hx, ha⟩ := Folder.mem_artifacts ha
      obtain ⟨y, hy, hb⟩ := Folder.mem_artifacts hb
      obtain ⟨-, sa, -, hla'⟩ := liesIn_of_mem_artifacts hw hleads htop hmemf hx ha
      obtain ⟨-, sb, -, hlb'⟩ := liesIn_of_mem_artifacts hw hleads htop hmemg hy hb
      have hplace : top ++ f.place = top ++ g.place :=
        (hla'.det hla).1.trans (hlb'.det hlb).1.symm
      rw [List.append_cancel_left hplace] at hlt
      exact List.lt_irrefl _ hlt

end FileTree

end RoundTrip
