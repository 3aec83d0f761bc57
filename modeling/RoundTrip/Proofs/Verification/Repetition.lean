import RoundTrip.Proofs.Discovery.Texts
import RoundTrip.Proofs.Verification.Independence

/-!
# Verifying again

The binaries that a verification leaves lie in the tree that the next one walks. They are no texts,
so the next one discovers the same artifacts (`Lodges.discovered_foldl`). Each of them that is the
reference of an artifact was there when the artifact was examined, because the walk comes upon the
one that writes it first, so the next one finds out the same (`Lodges.judge_foldl_last`). What it
writes is there already (`Lodges.written_foldl`). So in a plain tree, with tools that go by
contents, the second of two verifications is the first again (`verify_again`).
-/

namespace RoundTrip

namespace FileTree

/-- Having the same directories is symmetric between trees without links. -/
theorem SameDirs.symm {t t' : FileTree} (h : t.SameDirs t') (hf : t.root.LinkFree) :
    t'.SameDirs t :=
  ⟨h.cwd.symm, fun place => (h.dirAt place).symm, hf⟩

/-- A path that leads to a directory leads to the one at the same place. -/
theorem SameDirs.exists_node? {t t' : FileTree} (h : t.SameDirs t') (hf : t.root.LinkFree)
    {p : Path} {n : Node} (hn : t.node? p = some n) (hdir : n.isDir = true) :
    ∃ place n', t.root.at? place = some n ∧ t'.root.at? place = some n' ∧ t'.node? p = some n' ∧
      n'.isDir = true := by
  cases n with
  | file | link | null => cases hdir
  | dir entries =>
    obtain ⟨place, hleads, hat⟩ := exists_leadsTo hf hn
    have hthere : t'.root.dirAt place = true := (h.dirAt place).trans hleads.dirAt
    obtain ⟨entries', hat'⟩ := Node.dirAt_iff.1 hthere
    have hleads' : LeadsTo t'.root (t'.origin p.isAbsolute) p.solid place := by
      rw [leadsTo_congr h.dirAt, origin, h.cwd]
      exact hleads
    exact ⟨place, _, hat, hat', node?_of_leadsTo hleads' (refusal?_of_node? hn) hat', rfl⟩

namespace Lodges

open Artifact

variable {c : Craft} {t : FileTree} {artifacts front : List Artifact} {a b : Artifact}

/-- The binaries that an assembler leaves make no difference to what is discovered. -/
theorem discovered_foldl (h : t.Lodges artifacts) (hsub : front ⊆ artifacts)
    (hw : t.root.WellFormed) (root : Path) :
    (front.foldl c.written t).discovered root = t.discovered root := by
  have hsame := h.foldl_sameDirs (c := c) hsub
  have hw' := h.foldl_wellFormed (c := c) hsub hw
  refine discovered_congr hw hw' (fun hdir => ?_) fun n hn hdir => ?_
  · obtain ⟨n', hn', hdir'⟩ := isDir_iff.1 hdir
    obtain ⟨-, n, -, -, hn, hdir⟩ := (hsame.symm h.linkFree).exists_node? hsame.linkFree hn' hdir'
    exact isDir_iff.2 ⟨n, hn, hdir⟩
  · obtain ⟨top, n', hat, hat', hn', hdir'⟩ := hsame.exists_node? h.linkFree hn hdir
    refine ⟨n', hn', hdir', fun dir stem => and_congr_right fun _ => ?_⟩
    have htext := h.foldl_outline_text (c := c) hsub (top ++ dir) stem
    rw [List.append_assoc, Node.at?_append, Node.at?_append, hat, hat'] at htext
    simp only [Node.reaches_iff (hw.at? hat), Node.reaches_iff (hw'.at? hat')]
    exact Node.exists_file_congr htext

/-- What is found out about an artifact in its turn is found out behind all of them. -/
theorem judge_foldl_last (h : t.Lodges artifacts) {back : List Artifact}
    (hsplit : artifacts = front ++ a :: back) :
    c.judge (front.foldl c.written t) a = c.judge (artifacts.foldl c.written t) a := by
  have ha : a ∈ artifacts := by simp [hsplit]
  have hsub : front ⊆ artifacts := by simp [hsplit]
  have href : (front.foldl c.written t).content? a.reference =
      (artifacts.foldl c.written t).content? a.reference := by
    by_cases hwriter : ∃ b ∈ artifacts, b.binary = a.reference
    · obtain ⟨b, hb, heq⟩ := hwriter
      have hmem := h.mem_front_of_binary_eq hsplit hb heq
      rw [← heq, h.foldl_content?_binary hsub hb, h.foldl_content?_binary (List.Subset.refl _) hb,
        if_pos hmem, if_pos hb]
    · have hne : ∀ b ∈ artifacts, b.binary ≠ a.reference := fun b hb heq => hwriter ⟨b, hb, heq⟩
      rw [h.foldl_content?_reference hsub ha fun b hb => hne b (hsub hb),
        h.foldl_content?_reference (List.Subset.refl _) ha hne]
  rw [h.judge_foldl_eq hsub ha, h.judge_foldl_eq (List.Subset.refl _) ha, href]

/-- Assembling an artifact again changes nothing. -/
theorem written_foldl (h : t.Lodges artifacts) (ha : a ∈ artifacts) :
    c.written (artifacts.foldl c.written t) a = artifacts.foldl c.written t := by
  have hsub : artifacts ⊆ artifacts := List.Subset.refl _
  have hsame := h.foldl_sameDirs (c := c) hsub
  obtain ⟨dir, stem, hla, hlies, hvacant⟩ := h.exists_foldl_liesIn (c := c) hsub ha
  obtain ⟨hw, -⟩ | ⟨hcode, hr, -⟩ := Craft.written_cases (c := c) hsame.linkFree hlies hvacant
  · exact hw
  · have hcontent := h.foldl_content?_binary (c := c) hsub ha
    rw [if_pos ha, Craft.written_content?_binary h.linkFree hla (h.vacant dir stem)] at hcontent
    rw [h.foldl_content?_text hsub ha] at hcode
    rw [if_pos hcode, hr] at hcontent
    rw [Craft.written, h.foldl_content?_text hsub ha, if_pos hcode,
      hlies.binary.write_content? hsame.linkFree hcontent]
    rfl

/-- Assembling all of them again changes nothing. -/
theorem foldl_foldl (h : t.Lodges artifacts) (hsub : front ⊆ artifacts) :
    front.foldl c.written (artifacts.foldl c.written t) = artifacts.foldl c.written t := by
  induction front with
  | nil => rfl
  | cons a front ih =>
    obtain ⟨ha, hfront⟩ := List.cons_subset.1 hsub
    rw [List.foldl_cons, h.written_foldl ha, ih hfront]

/-- What is found out about the artifacts is found out again in the files that they leave. -/
theorem findings_foldl (h : t.Lodges artifacts) :
    c.findings (artifacts.foldl c.written t) artifacts = c.findings t artifacts := by
  rw [c.findings_eq_map fun _ _ _ hsplit => h.judge_foldl_last hsplit]
  refine c.findings_eq_map fun front a back hsplit => ?_
  rw [h.foldl_foldl (by simp [hsplit])]

end Lodges

end FileTree

namespace Run

variable {μ : Type} {c : Craft} {tools tools' : Tools μ} {s s' : Site μ}

/-- In a plain tree and with tools that go by contents, a verification comes to its end, and unless
it was cancelled, verifying again what it leaves comes to its end as well. Unless that was cancelled
too, it has the same tally and leaves the files as they are. -/
theorem verify_again (hd : c.Drives tools) (hd' : c.Drives tools')
    (ht : s.world.files.root.Plain) (root : Path)
    (hs : s'.world.files = ((verify tools root).run s).state.world.files) :
    ∃ tally tally', ((verify tools root).run s).value = .ok tally ∧
      ((verify tools' root).run s').value = .ok tally' ∧
      (tally.cancelled = false → tally'.cancelled = false → tally' = tally ∧
        ((verify tools' root).run s').state.world.files = s'.world.files) := by
  obtain ⟨tally, hvalue, htally⟩ := hd.verify_eq root s
  obtain ⟨tally', hvalue', htally'⟩ := hd'.verify_eq root s'
  refine ⟨tally, tally', hvalue, hvalue', fun hcancelled hcancelled' => ?_⟩
  obtain ⟨rfl, hfiles⟩ := htally hcancelled
  obtain ⟨rfl, hfiles'⟩ := htally' hcancelled'
  have hlodges : s.world.files.Lodges (found root s) := ht.lodges root
  rw [hfiles] at hs
  have hfound : found root s' = found root s := by
    rw [found, hs]
    exact hlodges.discovered_foldl (List.Subset.refl _) ht.wellFormed root
  rw [hfiles', hfound, hs]
  exact ⟨congrArg _ hlodges.findings_foldl, hlodges.foldl_foldl (List.Subset.refl _)⟩

/-- Two artifacts of which one writes the reference of the other are both assembled. -/
theorem written_chain : ((verify copyCraft.tools sampleRoot).run chainSite).state.world.files =
    (found sampleRoot chainSite).foldl copyCraft.written chainSite.world.files := by
  obtain ⟨tally, hvalue, htally⟩ := copyCraft.drives_tools.verify_eq sampleRoot chainSite
  obtain rfl := Except.ok.inj (verify_chain.symm.trans hvalue)
  exact (htally rfl).2

/-- What this leaves. -/
def chainLeft : Site Nat :=
  sampleSite ["a.bc", "a.out.ll", "a.out.out.ll", "a.out.bc", "a.out.out.bc"]

theorem files_chainLeft : chainLeft.world.files =
    ((verify copyCraft.tools sampleRoot).run chainSite).state.world.files := by
  rw [written_chain, found_chain]
  rfl

/-- The second passes again. -/
theorem verify_chainLeft : ((verify copyCraft.tools sampleRoot).run chainLeft).value =
    .ok ⟨[(sampleArtifact "a").text, (sampleArtifact "a.out").text], [], false⟩ := by
  have hfound : found sampleRoot chainLeft = found sampleRoot chainSite := by
    rw [found, files_chainLeft, written_chain]
    exact (plain_chain.lodges sampleRoot).discovered_foldl (List.Subset.refl _)
      plain_chain.wellFormed sampleRoot
  rw [(verify_yields (hfound.trans found_chain) (.intro _ _)).value]
  rfl

theorem verify_again_sample :
    chainSite.world.files.root.Plain ∧ copyCraft.Drives (copyCraft.tools : Tools Nat) ∧
      ((verify copyCraft.tools sampleRoot).run chainLeft).value =
        ((verify copyCraft.tools sampleRoot).run chainSite).value ∧
      ((verify copyCraft.tools sampleRoot).run chainLeft).state.world.files =
        chainLeft.world.files := by
  have hd : copyCraft.Drives (copyCraft.tools : Tools Nat) := copyCraft.drives_tools
  obtain ⟨tally, tally', hvalue, hvalue', hsame⟩ :=
    verify_again hd hd plain_chain sampleRoot files_chainLeft
  obtain rfl := Except.ok.inj (verify_chain.symm.trans hvalue)
  obtain rfl := Except.ok.inj (verify_chainLeft.symm.trans hvalue')
  obtain ⟨-, hfiles⟩ := hsame rfl rfl
  exact ⟨plain_chain, hd, hvalue'.trans hvalue.symm, hfiles⟩

end Run

end RoundTrip
