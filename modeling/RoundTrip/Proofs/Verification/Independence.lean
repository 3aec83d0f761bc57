import RoundTrip.Proofs.Verification.Written

/-!
# Verdicts that depend on each other

The binary for the text of `a` is the reference of `a.out`. Where both are artifacts, the first is
assembled before the second is examined, so the second is not compared with what the corpus
compiler wrote, and that it wrote nothing is not noticed. `verify_independent` says that this is the
only way in which artifacts of a plain tree take part in each other's verdicts, and
`verdict_not_alone` that it is one.
-/

namespace RoundTrip

/-! ## Plain trees -/

/-- A directory whose entries have different proper names, none of a subdirectory being that of a
binary, or a file. -/
def Node.IsPlain : Node → Prop
  | .dir entries => (entries.map Prod.fst).Nodup ∧ ∀ e ∈ entries, Name.IsProper e.1 ∧
      (e.2.isDir = true → ¬ Utf8.encode Artifact.binarySuffix <:+ e.1)
  | .file _ _ => True
  | .link _ | .null => False

instance : DecidablePred Node.IsPlain
  | .dir entries => inferInstanceAs (Decidable ((entries.map Prod.fst).Nodup ∧ _))
  | .file _ _ => inferInstanceAs (Decidable True)
  | .link _ | .null => inferInstanceAs (Decidable False)

/-- Whether a tree consists of plain directories and files. -/
def Node.Plain (root : Node) : Prop := ∀ place n, root.at? place = some n → n.IsPlain

namespace Node.Plain

variable {root : Node}

theorem linkFree (h : root.Plain) : root.LinkFree := by
  intro place n hn
  have := h place n hn
  cases n <;> simp_all [IsPlain, isDir, isFile]

theorem wellFormed (h : root.Plain) : root.WellFormed := fun place _ hdir =>
  let ⟨hnodup, hentries⟩ := h place _ hdir
  ⟨hnodup, fun e he => (hentries e he).1⟩

/-- No directory is where a binary would be written. -/
theorem vacant (h : root.Plain) (dir : Place) (stem : String) :
    root.dirAt (Artifact.binaryPlace dir stem) = false := by
  rw [← Bool.not_eq_true]
  intro hdir
  obtain ⟨below, hbelow⟩ := Node.dirAt_iff.1 hdir
  obtain ⟨entries, htop⟩ := Node.dirAt_iff.1 (Node.dirAt_of_dirAt_append hdir)
  rw [Artifact.binaryPlace, Node.at?_concat htop] at hbelow
  refine ((h dir _ htop).2 _ (Node.mem_of_lookup hbelow)).2 rfl ?_
  rw [Utf8.encode_append]
  exact List.suffix_append ..

/-- A directory with plain entries is plain. -/
theorem dir {entries : List (Name × Node)} (h : (Node.dir entries).IsPlain)
    (hentries : ∀ e ∈ entries, e.2.Plain) : (Node.dir entries).Plain := by
  intro place n hn
  cases place with
  | nil => obtain rfl := Option.some.inj hn; exact h
  | cons name place =>
    obtain ⟨m, hm, hn⟩ := Option.bind_eq_some_iff.1 hn
    exact hentries _ (Node.mem_of_lookup hm) place n hn

/-- A file is plain. -/
theorem file (content : Bytes) (mode : Nat) : (Node.file content mode).Plain := by
  intro place n hn
  cases place with
  | nil => obtain rfl := Option.some.inj hn; trivial
  | cons => cases hn

/-- The artifacts that are discovered in a plain tree. -/
theorem lodges {t : FileTree} (h : t.root.Plain) (root : Path) : t.Lodges (t.discovered root) := by
  obtain ⟨paths, fronts, hnamed⟩ := FileTree.exists_named_discovered h.wellFormed h.linkFree root
  have hname : ∀ {a}, a ∈ t.discovered root → ∀ {dir stem}, a.LiesIn t dir stem →
      a = .named (paths dir) (fronts dir) stem := by
    intro a ha dir stem hlies
    obtain ⟨dir', stem', hlies', heq⟩ := hnamed a ha
    obtain ⟨rfl, rfl⟩ := hlies.det hlies'
    exact heq
  refine ⟨h.linkFree, fun a ha => ?_, h.vacant, fun ha hb _ _ hla hlb => ?_,
    fun ha hb _ stem hlb hla => ?_, FileTree.pairwise_discovered h.wellFormed h.linkFree root⟩
  · obtain ⟨dir, stem, hlies, -⟩ := hnamed a ha
    exact ⟨dir, stem, hlies⟩
  · rw [hname ha hla, hname hb hlb]
  · rw [hname ha hla, hname hb hlb, Artifact.named, Artifact.named,
      Artifact.reference_eq_binary_iff.2 rfl]

end Node.Plain

/-- The verdict about one of some artifacts that are examined one after the other: the one behind
the artifact that writes the reference, if there is one. -/
def Craft.verdict (c : Craft) (t : FileTree) (artifacts : List Artifact) (a : Artifact) : Finding :=
  match artifacts.find? (·.binary = a.reference) with
  | some b => c.judge (c.written t b) a
  | none => c.judge t a

/-- What is found out about artifacts that lie in a tree. -/
theorem FileTree.Lodges.judge_foldl_eq_verdict {c : Craft} {t : FileTree}
    {artifacts front back : List Artifact} {a : Artifact} (h : t.Lodges artifacts)
    (hsplit : artifacts = front ++ a :: back) :
    c.judge (front.foldl c.written t) a = c.verdict t artifacts a := by
  obtain ⟨hbehind, hfirst⟩ := h.judge_foldl (c := c) hsplit
  rw [Craft.verdict]
  split
  · next b hb =>
    exact hbehind b (List.mem_of_find?_eq_some hb) (by simpa using List.find?_some hb)
  · next hnone =>
    exact hfirst fun b hb heq => absurd heq (by simpa using List.find?_eq_none.1 hnone b hb)

namespace Run

variable {μ : Type} {c : Craft} {tools : Tools μ} {s : Site μ}

/-- What a verification records about an artifact, in a plain tree and with tools that go by
contents. It comes to its end, and unless it was cancelled it tallies a verdict about each of the
discovered artifacts, in order. The verdict about an artifact is the one that it gets alone, unless
its reference is the binary of another artifact whose text is accepted; then it is the verdict that
it gets behind the other one. So the two are the same just if the other one makes no difference. -/
theorem verify_independent (hd : c.Drives tools) (ht : s.world.files.root.Plain) (root : Path) :
    ∃ tally, ((verify tools root).run s).value = .ok tally ∧ (tally.cancelled = false →
      ∃ verdict : Artifact → Finding,
        tally = .ofFindings ((found root s).map fun a => (a, verdict a)) ∧
        ∀ a ∈ found root s,
          ((∀ b ∈ found root s, b.binary = a.reference →
              c.status (s.world.files.content? b.text) ≠ 0) →
            ((examine tools a).run s).value = .ok (verdict a)) ∧
          (∀ b ∈ found root s, b.binary = a.reference →
            ((examine tools a).run ((examine tools b).run s).state).value = .ok (verdict a)) ∧
          (((examine tools a).run s).value = .ok (verdict a) ↔
            ∀ b ∈ found root s, b.binary = a.reference →
              ((examine tools a).run ((examine tools b).run s).state).value =
                ((examine tools a).run s).value)) := by
  obtain ⟨tally, hvalue, htally⟩ := hd.verify_eq root s
  refine ⟨tally, hvalue, fun hcancelled => ?_⟩
  have hlodges : s.world.files.Lodges (found root s) := ht.lodges root
  have halone : ∀ a ∈ found root s, ∀ s' : Site μ,
      ((examine tools a).run s').value = .ok (c.judge s'.world.files a) ∧
        ((examine tools a).run s').state.world.files = c.written s'.world.files a :=
    fun a ha s' => hd.examine_eq (FileTree.ofPath?_text_of_mem_discovered ha) s'
  refine ⟨c.verdict s.world.files (found root s), ?_, fun a ha => ?_⟩
  · rw [(htally hcancelled).1,
      c.findings_eq_map fun _ _ _ hsplit => hlodges.judge_foldl_eq_verdict hsplit]
  · obtain ⟨front, back, hsplit⟩ := List.append_of_mem ha
    obtain ⟨hbehind, hfirst⟩ := hlodges.judge_foldl (c := c) hsplit
    rw [hlodges.judge_foldl_eq_verdict hsplit] at hbehind hfirst
    have hafter : ∀ b ∈ found root s, b.binary = a.reference →
        ((examine tools a).run ((examine tools b).run s).state).value =
          .ok (c.verdict s.world.files (found root s) a) := by
      intro b hb heq
      rw [(halone a ha _).1, (halone b hb s).2, hbehind b hb heq]
    refine ⟨fun hrejected => by rw [(halone a ha s).1, hfirst hrejected], hafter, ?_⟩
    constructor
    · intro hsame b hb heq
      rw [hafter b hb heq, hsame]
    · intro hsame
      by_cases hwriter : ∃ b ∈ found root s, b.binary = a.reference
      · obtain ⟨b, hb, heq⟩ := hwriter
        rw [← hsame b hb heq, hafter b hb heq]
      · rw [(halone a ha s).1, hfirst fun b hb heq => absurd ⟨b, hb, heq⟩ hwriter]

end Run

/-! ## A reference that another artifact writes -/

/-- A craft that copies each text and whose binaries all end well. -/
def copyCraft : Craft where
  status _ := 0
  output text := text.getD []
  ending _ := .exited 0

/-- A site with the text of `a`, its reference, and the text of `a.out`. -/
def chainSite : Site Nat := sampleSite ["a.bc", "a.out.ll", "a.out.out.ll"]

/-- Its tree is plain. -/
theorem plain_chain : chainSite.world.files.root.Plain := by
  have hfiles : (Node.dir (sampleDir ["a.bc", "a.out.ll", "a.out.out.ll"])).Plain := by
    refine .dir (by decide +kernel) fun e he => ?_
    obtain ⟨name, -, rfl⟩ := List.mem_map.1 he
    exact .file _ _
  exact .dir (by decide +kernel) fun e he => List.mem_singleton.1 he ▸ hfiles

/-- Both artifacts are discovered. -/
theorem found_chain :
    Run.found sampleRoot chainSite = [sampleArtifact "a", sampleArtifact "a.out"] :=
  (Run.found_sample (by decide +kernel)).trans (by decide +kernel)

/-- Behind the first artifact the second passes. -/
theorem verify_chain : ((Run.verify copyCraft.tools sampleRoot).run chainSite).value =
    .ok ⟨[(sampleArtifact "a").text, (sampleArtifact "a.out").text], [], false⟩ := by
  rw [(Run.verify_yields found_chain (.intro _ _)).value]
  rfl

/-- Alone it has no reference. -/
theorem examine_chain :
    ((Run.examine copyCraft.tools (sampleArtifact "a.out")).run chainSite).value =
      .ok (.failed .referenceMissing) := by
  rfl

namespace Run

/-- A verdict need not be the one that the artifact gets alone. -/
theorem verdict_not_alone :
    ¬ ∀ (c : Craft) (tools : Tools Nat) (s : Site Nat) (root : Path) (tally : Tally),
      c.Drives tools → s.world.files.root.Plain →
      ((verify tools root).run s).value = .ok tally → tally.cancelled = false →
      ∃ verdict : Artifact → Finding,
        tally = .ofFindings ((found root s).map fun a => (a, verdict a)) ∧
        ∀ a ∈ found root s, ((examine tools a).run s).value = .ok (verdict a) := by
  intro h
  obtain ⟨verdict, htally, halone⟩ := h copyCraft copyCraft.tools chainSite sampleRoot _
    copyCraft.drives_tools plain_chain verify_chain rfl
  have hsecond := halone (sampleArtifact "a.out") (by simp [found_chain])
  rw [examine_chain] at hsecond
  have hfailed := congrArg Tally.failed htally
  cases hfirst : verdict (sampleArtifact "a") <;>
    simp [found_chain, Tally.ofFindings, Tally.add, hfirst, ← Except.ok.inj hsecond] at hfailed

theorem verify_independent_sample :
    chainSite.world.files.root.Plain ∧ copyCraft.Drives (copyCraft.tools : Tools Nat) ∧
      ∃ verdict : Artifact → Finding,
        (⟨[(sampleArtifact "a").text, (sampleArtifact "a.out").text], [], false⟩ : Tally) =
          .ofFindings ((found sampleRoot chainSite).map fun a => (a, verdict a)) ∧
        ∀ a ∈ found sampleRoot chainSite, ∀ b ∈ found sampleRoot chainSite,
          b.binary = a.reference →
            ((examine copyCraft.tools a).run
              ((examine copyCraft.tools b).run chainSite).state).value = .ok (verdict a) := by
  have hd : copyCraft.Drives (copyCraft.tools : Tools Nat) := copyCraft.drives_tools
  obtain ⟨tally, hvalue, htally⟩ := verify_independent hd plain_chain sampleRoot
  obtain rfl := Except.ok.inj (verify_chain.symm.trans hvalue)
  obtain ⟨verdict, hverdict, hexamined⟩ := htally rfl
  exact ⟨plain_chain, hd, verdict, hverdict, fun a ha => (hexamined a ha).2.1⟩

end Run

end RoundTrip
