import RoundTrip.Proofs.Discovery.Texts
import RoundTrip.Proofs.Verification.Walk

/-!
# What a verification discovers

A verification discovers an artifact for each text below its root, in the order of their places, and
nothing else (`discover_texts`). Links are entries like files, so they may be texts, and a walk does
not go through them, wherever they lead. The order in which directories are listed does not matter.

There is one exception. A directory whose own path is refused, because it is too long, cannot be
listed, and what lies below it is passed by; `text_not_discovered` shows such a text. The path of a
directory begins with the root as it was given, so this depends on how the root is written. Nothing
is passed by in silence: each such directory is noted, and a root that is no directory is.
-/

namespace RoundTrip

namespace FileTree

variable {t : FileTree} {root : Path} {n : Node}

/-- The path of a text that a walk comes upon is its relative path, joined to the root. -/
theorem below_eq_join_of_mem (hw : n.WellFormed) {q : Place} (hq : q ∈ n.textPlaces root) :
    root.below q = root.join ⟨Path.glue q⟩ :=
  let ⟨hne, hproper⟩ := Node.isProper_of_mem_textPlaces hw hq
  Path.below_eq_join root hne hproper

/-- The texts of the artifacts that a walk discovers. -/
theorem map_text_discovered (hw : n.WellFormed) (hnode : t.node? root = some n)
    (hdir : n.isDir = true) :
    (t.discovered root).map (·.text) =
      (n.textPlaces root).map fun q => root.join ⟨Path.glue q⟩ := by
  have hpath : ∀ q ∈ n.textPlaces root,
      (Artifact.ofPath? (root.below q)).map (·.text) = some (root.join ⟨Path.glue q⟩) := by
    intro q hq
    obtain ⟨a, ha⟩ := Option.isSome_iff_exists.1 (List.mem_filter.1 hq).2
    rw [ha, Option.map_some, Artifact.text_of_ofPath? ha, below_eq_join_of_mem hw hq]
  refine List.map_injective_iff.2 (Option.some_injective _) ?_
  calc ((t.discovered root).map (·.text)).map some
      = ((t.discovered root).map some).map (Option.map (·.text)) := by
        simp [Function.comp_def]
    _ = (n.textPlaces root).map fun q => (Artifact.ofPath? (root.below q)).map (·.text) := by
        rw [map_some_discovered hnode hdir, List.map_map]
        rfl
    _ = ((n.textPlaces root).map fun q => root.join ⟨Path.glue q⟩).map some := by
        rw [List.map_map]
        exact List.map_congr_left hpath

/-- No artifact is discovered twice. -/
theorem nodup_discovered (hw : n.WellFormed) (hnode : t.node? root = some n)
    (hdir : n.isDir = true) : (t.discovered root).Nodup := by
  refine List.Nodup.of_map (·.text) ?_
  rw [map_text_discovered hw hnode hdir]
  refine List.Nodup.map_on (fun p hp q hq heq => ?_) (Node.pairwise_textPlaces root hw).nodup
  obtain ⟨hne, hproper⟩ := Node.isProper_of_mem_textPlaces hw hp
  obtain ⟨hne', hproper'⟩ := Node.isProper_of_mem_textPlaces hw hq
  exact Path.join_glue_injective root hne hne' hproper hproper' heq

/-- The order in which directories are listed does not matter to a walk. -/
theorem discovered_eq_of_sameNodes {t' : FileTree} (hw : t.root.WellFormed)
    (hw' : t'.root.WellFormed) (hcwd : t'.cwd = t.cwd) (h : t.root.SameNodes t'.root)
    (root : Path) : t'.discovered root = t.discovered root := by
  refine discovered_congr hw hw' (fun hdir => ?_) fun n hn hdir => ?_
  · obtain ⟨n', hn', hd'⟩ := isDir_iff.1 hdir
    obtain ⟨n, hn, hout, -⟩ := h.symm.exists_node? hcwd.symm hn'
    exact isDir_iff.2 ⟨n, hn, by rw [← Node.isDir_outline, hout, Node.isDir_outline, hd']⟩
  · obtain ⟨n', hn', hout, hsame⟩ := h.exists_node? hcwd hn
    refine ⟨n', hn', by rw [← Node.isDir_outline, hout, Node.isDir_outline, hdir], ?_⟩
    have hwn := wellFormed_of_node? hw hn
    have hwn' := wellFormed_of_node? hw' hn'
    refine fun dir stem => and_congr_right fun _ => ?_
    simp only [Node.reaches_iff hwn, Node.reaches_iff hwn']
    exact Node.exists_file_congr (hsame _)

end FileTree

namespace Run

variable {μ : Type}

/-- Noting some things leaves the notes and nothing else. -/
theorem noteAll_events (notices : List Notice) (s : Site μ) :
    ((noteAll notices).run s).events = notices.map .noted := by
  induction notices with
  | nil => rfl
  | cons n notices ih => simp [noteAll, note, ih]

/-- Discovering artifacts calls no tool, so all that it does is to note what was surveyed. -/
theorem discover_events (root : Path) (s : Site μ) :
    ((discover root).run s).events = (surveyed root s).map .noted := by
  cases hfolders : s.world.files.folders? root with
  | some folders => simp [discover, files, surveyed, hfolders, noteAll_events]
  | none => simp [discover, files, surveyed, hfolders, note]

/-- A root that is no directory is noted. -/
theorem surveyed_of_not_isDir {s : Site μ} {root : Path} (h : s.world.files.isDir root = false) :
    surveyed root s = [.rootMissing root] := by
  rw [surveyed, FileTree.folders?_eq_none h]

/-- Below a directory those that cannot be listed are noted, each with its relative path, joined to
the root. The root itself is none of them, since its path leads to a directory. -/
theorem surveyed_eq {s : Site μ} {root : Path} {top : Node} (hw : top.WellFormed)
    (hnode : s.world.files.node? root = some top) (hdir : top.isDir = true) :
    surveyed root s =
      (top.refusals root).map fun x => .unlisted (root.join ⟨Path.glue x.1⟩) x.2 := by
  have hpath : ∀ x ∈ top.refusals root, root.below x.1 = root.join ⟨Path.glue x.1⟩ := by
    intro x hx
    obtain ⟨⟨entries, hat⟩, hrefused, -⟩ := (Node.mem_refusals hw).1 hx
    refine Path.below_eq_join root (fun hnil => ?_) (hw.isProper_of_mem hat)
    rw [hnil, Path.below, List.foldl_nil, FileTree.refusal?_of_node? hnode] at hrefused
    cases hrefused
  cases top with
  | file | link | null => cases hdir
  | dir entries =>
    have hfolders : s.world.files.folders? root =
        some (Node.folders root [] (.dir entries)) := by
      simp [FileTree.folders?, hnode]
    calc surveyed root s
        = ((Node.dir entries).refusals root).map fun x => .unlisted (root.below x.1) x.2 := by
          rw [surveyed, hfolders, Node.refusals, List.map_filterMap]
          simp only [Option.map_map, Function.comp_def, Folder.path]
      _ = ((Node.dir entries).refusals root).map fun x =>
            .unlisted (root.join ⟨Path.glue x.1⟩) x.2 :=
          List.map_congr_left fun x hx => by rw [hpath x hx]

/-- What a verification discovers. Below a root that is no directory there is nothing, and the root
is noted. Below a directory there is one artifact for each text of the tree, in the order of their
places, and nothing else; but a text is passed by if a directory above it has a path that is
refused. No artifact is discovered twice, and the text of each lies at its relative path, joined to
the root. A directory whose path is refused is noted with the reason, once, in the order of the
places, unless one above it is refused and noted in its stead; nothing else is noted. The order in
which directories are listed does not matter. -/
theorem discover_texts {s : Site μ} (hw : s.world.files.root.WellFormed) (root : Path) :
    (s.world.files.isDir root = false → ((discover root).run s).value = [] ∧
      ((discover root).run s).events = [.noted (.rootMissing root)]) ∧
    (∀ top, s.world.files.node? root = some top → top.isDir = true →
      ∃ places : List Place, places.Pairwise Place.Before ∧
        (∀ q, q ∈ places ↔ ∃ dir stem,
          q = dir ++ [Utf8.encode (stem ++ Artifact.textSuffix)] ∧ top.HoldsText dir stem ∧
          ∀ above, above <+: dir → FileTree.refusal? (root.below above) = none) ∧
        ((discover root).run s).value.map some =
          places.map (fun q => Artifact.ofPath? (root.join ⟨Path.glue q⟩)) ∧
        ((discover root).run s).value.map (·.text) =
          places.map (fun q => root.join ⟨Path.glue q⟩) ∧
        ((discover root).run s).value.Nodup ∧
      ∃ refused : List (Place × Reason), refused.Pairwise (fun x y => x.1 < y.1) ∧
        (∀ dir reason, (dir, reason) ∈ refused ↔ (∃ entries, top.Reaches dir (.dir entries)) ∧
          FileTree.refusal? (root.below dir) = some reason ∧
          ∀ above, above <+: dir → above ≠ dir → FileTree.refusal? (root.below above) = none) ∧
        ((discover root).run s).events =
          refused.map (fun x => .noted (.unlisted (root.join ⟨Path.glue x.1⟩) x.2))) ∧
    ∀ s' : Site μ, s'.world.files.root.WellFormed → s'.world.files.cwd = s.world.files.cwd →
      s.world.files.root.SameNodes s'.world.files.root →
      ((discover root).run s').value = ((discover root).run s).value := by
  have hvalue : ∀ s : Site μ, ((discover root).run s).value = s.world.files.discovered root :=
    fun s => (discover_yields root s).value
  simp only [hvalue]
  refine ⟨fun hdir => ⟨FileTree.discovered_eq_nil hdir, ?_⟩, fun top hnode hdir => ?_,
    fun s' hw' hcwd hsame => ?_⟩
  · rw [discover_events, surveyed_of_not_isDir hdir, List.map_singleton]
  · have htop := FileTree.wellFormed_of_node? hw hnode
    refine ⟨top.textPlaces root, Node.pairwise_textPlaces root htop,
      fun q => Node.mem_textPlaces htop, ?_, FileTree.map_text_discovered htop hnode hdir,
      FileTree.nodup_discovered htop hnode hdir, top.refusals root,
      Node.pairwise_refusals root htop, fun dir reason => ?_, ?_⟩
    · rw [FileTree.map_some_discovered hnode hdir]
      exact List.map_congr_left fun q hq => by rw [FileTree.below_eq_join_of_mem htop hq]
    · simp only [Node.mem_refusals htop, Node.reaches_iff htop]
    · rw [discover_events, surveyed_eq htop hnode hdir, List.map_map]
      rfl
  · exact FileTree.discovered_eq_of_sameNodes hw hw' hcwd hsame root

end Run

/-! ## A text that is passed by -/

/-- A directory with a link that has the name of a text, and with a text in a subdirectory. -/
def nestedDir : Node :=
  .dir [(Utf8.encode "subfolder", .dir [(Utf8.encode "x.out.ll", .file [] Node.plainMode)]),
    (Utf8.encode "l.out.ll", .link (.ofText "/d"))]

/-- A site with nothing but this directory. -/
def nestedSite : Site Nat where
  world := { files := { root := .dir [(Utf8.encode "d", nestedDir)] }, memory := 0 }

/-- The directory, written with so many slashes that the path of the subdirectory is too long. -/
def slashedRoot : Path := ⟨Utf8.encode "d" ++ List.replicate 4089 Path.slash⟩

/-- Its tree is well-formed. -/
theorem wellFormed_nested : nestedSite.world.files.root.WellFormed := by
  have hsub : (Node.dir [(Utf8.encode "x.out.ll", .file [] Node.plainMode)]).WellFormed :=
    .dir (by decide +kernel) (by decide +kernel) (List.forall_mem_singleton.2 (.leaf rfl))
  have hdir : nestedDir.WellFormed :=
    .dir (by decide +kernel) (by decide +kernel)
      (List.forall_mem_cons.2 ⟨hsub, List.forall_mem_singleton.2 (.leaf rfl)⟩)
  exact .dir (by decide +kernel) (by decide +kernel) (List.forall_mem_singleton.2 hdir)

/-- The text in the subdirectory. -/
theorem holdsText_nested : nestedDir.HoldsText [Utf8.encode "subfolder"] "x" :=
  ⟨by decide, _, .entry (List.mem_cons_self ..) (.entry (List.mem_cons_self ..) .here), rfl⟩

/-- The link is a text as well. -/
theorem holdsText_nested_link : nestedDir.HoldsText [] "l" :=
  ⟨by decide, _, .entry (List.mem_cons_of_mem _ (List.mem_cons_self ..)) .here, rfl⟩

theorem length_slashedRoot : slashedRoot.bytes.length = 4090 := by
  rw [slashedRoot, List.length_append, List.length_replicate]
  rfl

theorem zero_notMem_slashedRoot : (0 : UInt8) ∉ slashedRoot.bytes := by
  rw [slashedRoot, List.mem_append, List.mem_replicate]
  decide +kernel

/-- The slashes at the end of the root make no difference to where it leads. -/
theorem node?_slashedRoot : nestedSite.world.files.node? slashedRoot = some nestedDir := by
  have hsolid : slashedRoot.solid = [Utf8.encode "d"] := by
    rw [slashedRoot, Path.solid_append_slashes]
    decide +kernel
  have hzero := zero_notMem_slashedRoot
  have hrefusal : FileTree.refusal? slashedRoot = none := by
    have hempty : slashedRoot.isEmpty = false := by
      rw [Path.isEmpty, ← Bool.not_eq_true, List.isEmpty_iff_length_eq_zero, length_slashedRoot]
      decide
    simp [FileTree.refusal?, hzero, hempty, length_slashedRoot, FileTree.pathLimit]
  have hleads : FileTree.LeadsTo nestedSite.world.files.root
      (nestedSite.world.files.origin slashedRoot.isAbsolute) slashedRoot.solid
      [Utf8.encode "d"] := by
    rw [hsolid]
    exact ⟨_, rfl⟩
  exact FileTree.node?_of_leadsTo hleads hrefusal rfl

/-- The path of the subdirectory is too long to be listed. -/
theorem refusal?_nested :
    FileTree.refusal? (slashedRoot.below [Utf8.encode "subfolder"]) =
      some (.errno .nameTooLong) := by
  have hlast : slashedRoot.bytes.getLast? = some Path.slash := by
    rw [slashedRoot, List.getLast?_append, List.getLast?_replicate]
    rfl
  have hpath : slashedRoot.below [Utf8.encode "subfolder"] =
      ⟨slashedRoot.bytes ++ Utf8.encode "subfolder"⟩ := by
    have hrelative : (⟨Utf8.encode "subfolder"⟩ : Path).isAbsolute = false := rfl
    simp [Path.below, Path.join, hrelative, hlast]
  have hzero : (0 : UInt8) ∉ slashedRoot.bytes ++ Utf8.encode "subfolder" := by
    rw [List.mem_append, not_or]
    exact ⟨zero_notMem_slashedRoot, by decide +kernel⟩
  rw [hpath]
  refine FileTree.refusal?_of_long hzero ?_
  rw [List.length_append, length_slashedRoot]
  decide

namespace Run

/-- A text need not be discovered. -/
theorem text_not_discovered :
    ¬ ∀ (s : Site Nat) (root : Path) (top : Node) (dir : Place) (stem : String),
      s.world.files.root.WellFormed → s.world.files.node? root = some top → top.isDir = true →
      top.HoldsText dir stem → ∃ a ∈ ((discover root).run s).value,
        a.text = root.join ⟨Path.glue (dir ++ [Utf8.encode (stem ++ Artifact.textSuffix)])⟩ := by
  intro h
  obtain ⟨a, ha, htext⟩ := h nestedSite slashedRoot _ _ _ wellFormed_nested node?_slashedRoot rfl
    holdsText_nested
  rw [(discover_yields slashedRoot nestedSite).value] at ha
  have hw : nestedDir.WellFormed :=
    FileTree.wellFormed_of_node? wellFormed_nested node?_slashedRoot
  have hmem : a.text ∈ (nestedSite.world.files.discovered slashedRoot).map (·.text) :=
    List.mem_map_of_mem ha
  rw [FileTree.map_text_discovered hw node?_slashedRoot rfl] at hmem
  obtain ⟨q, hq, hpath⟩ := List.mem_map.1 hmem
  -- different places have different paths, so the walk came upon the text itself
  obtain ⟨hne, hproper⟩ := Node.isProper_of_mem_textPlaces hw hq
  obtain rfl : q = [Utf8.encode "subfolder"] ++ [Utf8.encode ("x" ++ Artifact.textSuffix)] :=
    Path.join_glue_injective slashedRoot hne (by simp) hproper (by decide +kernel)
      (hpath.trans htext)
  obtain ⟨dir, stem, hplace, -, hlisted⟩ := (Node.mem_textPlaces hw).1 hq
  obtain ⟨rfl, -⟩ := List.append_inj' hplace rfl
  have hnested := refusal?_nested
  rw [hlisted _ List.prefix_rfl] at hnested
  cases hnested

/-- Below the root as it is usually written both texts are discovered. Below the root with all the
slashes the subdirectory is noted, and a root that is missing is noted. -/
theorem discover_texts_sample :
    nestedSite.world.files.root.WellFormed ∧
      nestedSite.world.files.node? sampleRoot = some nestedDir ∧
      nestedSite.world.files.node? slashedRoot = some nestedDir ∧ nestedDir.isDir = true ∧
      (∃ places : List Place, places.Pairwise Place.Before ∧
        [Utf8.encode "l.out.ll"] ∈ places ∧
        [Utf8.encode "subfolder", Utf8.encode "x.out.ll"] ∈ places ∧
        ((discover sampleRoot).run nestedSite).value.map (·.text) =
          places.map (fun q => sampleRoot.join ⟨Path.glue q⟩)) ∧
      .noted (.unlisted (slashedRoot.join ⟨Utf8.encode "subfolder"⟩) (.errno .nameTooLong)) ∈
        ((discover slashedRoot).run nestedSite).events ∧
      ((discover (.ofText "e")).run nestedSite).events =
        [.noted (.rootMissing (.ofText "e"))] := by
  obtain ⟨-, hplaces, -⟩ := discover_texts wellFormed_nested sampleRoot
  obtain ⟨places, hbefore, hmem, -, htexts, -⟩ := hplaces nestedDir rfl rfl
  obtain ⟨-, hslashed, -⟩ := discover_texts wellFormed_nested slashedRoot
  obtain ⟨-, -, -, -, -, -, refused, -, hrefused, hnoted⟩ :=
    hslashed nestedDir node?_slashedRoot rfl
  obtain ⟨hmissing, -⟩ := discover_texts wellFormed_nested (.ofText "e")
  refine ⟨wellFormed_nested, rfl, node?_slashedRoot, rfl,
    ⟨places, hbefore, (hmem _).2 ?_, (hmem _).2 ?_, htexts⟩, ?_, (hmissing rfl).2⟩
  · refine ⟨[], "l", rfl, holdsText_nested_link, fun above habove => ?_⟩
    obtain rfl := List.prefix_nil.1 habove
    rfl
  · refine ⟨_, "x", rfl, holdsText_nested, fun above habove => ?_⟩
    obtain rfl | ⟨rest, rfl, hrest⟩ := List.prefix_cons_iff.1 habove
    · rfl
    · obtain rfl := List.prefix_nil.1 hrest
      rfl
  · rw [hnoted]
    refine List.mem_map_of_mem ((hrefused [Utf8.encode "subfolder"] _).2
      ⟨⟨_, .entry (List.mem_cons_self ..) .here⟩, refusal?_nested, fun above habove hne => ?_⟩)
    -- only the root lies above the subdirectory
    obtain rfl | ⟨rest, rfl, hrest⟩ := List.prefix_cons_iff.1 habove
    · exact FileTree.refusal?_of_node? node?_slashedRoot
    · obtain rfl := List.prefix_nil.1 hrest
      exact absurd rfl hne

end Run

end RoundTrip
