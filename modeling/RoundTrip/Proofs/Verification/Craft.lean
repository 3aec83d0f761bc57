import RoundTrip.Proofs.Discovery.Artifacts
import RoundTrip.Proofs.Verification.Walk

/-!
# Tools that go by contents

A craft (`Craft`) says what tools make of the contents of files: the status and the binary of an
assembler, and the ending that an interpreter gives. Tools follow a craft (`Craft.Drives`) if they
go by nothing else and the assembler writes nothing but the binary of a text that it accepts. What
such tools find out about an artifact is a function of the files (`Craft.judge`), and so are the
files that they leave (`Craft.written`); `Drives.examination` is the step theorem, and
`Drives.verify_yields` says what a verification finds out.
-/

namespace RoundTrip

/-- What tools make of contents. A file that cannot be read has none. -/
structure Craft where
  /-- The status of the assembler for a text. -/
  status : Option Bytes → Int32
  /-- The binary that the assembler makes of a text that it accepts. -/
  output : Option Bytes → Bytes
  /-- How a binary ends. -/
  ending : Option Bytes → Ending

namespace Craft

variable {μ : Type}

/-- The files behind the assembly of an artifact. A binary that cannot be written is not. -/
def written (c : Craft) (t : FileTree) (a : Artifact) : FileTree :=
  if c.status (t.content? a.text) = 0 then
    (t.write a.binary (c.output (t.content? a.text))).toOption.getD t
  else t

/-- What is found out about an artifact. -/
def judge (c : Craft) (t : FileTree) (a : Artifact) : Finding :=
  if c.status (t.content? a.text) ≠ 0 then .failed (.rejected (c.status (t.content? a.text)))
  else if (c.written t a).isFile a.reference then
    .ofEndings (c.ending ((c.written t a).content? a.reference))
      (c.ending ((c.written t a).content? a.binary))
  else .failed .referenceMissing

/-- What is found out about artifacts that are examined one after the other. -/
def findings (c : Craft) : FileTree → List Artifact → List (Artifact × Finding)
  | _, [] => []
  | t, a :: rest => (a, c.judge t a) :: c.findings (c.written t a) rest

/-- What is found out about each of some artifacts is what the craft makes of the files that those
before it leave. -/
theorem findings_eq_map (c : Craft) {t : FileTree} {artifacts : List Artifact}
    {verdict : Artifact → Finding}
    (h : ∀ front a back, artifacts = front ++ a :: back →
      c.judge (front.foldl c.written t) a = verdict a) :
    c.findings t artifacts = artifacts.map fun a => (a, verdict a) := by
  induction artifacts generalizing t with
  | nil => rfl
  | cons a rest ih =>
    rw [findings, List.map_cons, ← h [] a rest rfl]
    exact congrArg _ (ih fun front b back hrest => h (a :: front) b back (by simp [hrest]))

/-- Tools that follow a craft: they go by contents alone, and of the files they change at most the
binary of an artifact whose text is accepted. -/
structure Drives (c : Craft) (tools : Tools μ) : Prop where
  assemble : ∀ (a : Artifact) (w : World μ), Artifact.ofPath? a.text = some a →
    ((tools.assemble a.text).run w).value = .ok (c.status (w.files.content? a.text)) ∧
      ((tools.assemble a.text).run w).state.files = c.written w.files a
  interpret : ∀ (binary : Path) (w : World μ),
    ((tools.interpret binary).run w).value = c.ending (w.files.content? binary) ∧
      ((tools.interpret binary).run w).state.files = w.files
  afterMark : ∀ (passed : Bool) (w : World μ),
    ((tools.afterMark passed).run w).state.files = w.files

/-- Tools that do what a craft says and nothing else. -/
def tools (c : Craft) : Tools μ where
  assemble text := fun w =>
    ⟨.ok (c.status (w.files.content? text)), [],
      match Artifact.ofPath? text with
      | some a => { w with files := c.written w.files a }
      | none => w⟩
  interpret binary := Act.see fun w => c.ending (w.files.content? binary)
  prepare _ _ _ := pure .skipped
  afterMark _ := pure ()
  afterSummary _ _ := pure ()
  clock _ := 0

/-- Every craft has tools. -/
theorem drives_tools (c : Craft) : c.Drives (c.tools : Tools μ) where
  assemble a w h := by
    refine ⟨rfl, ?_⟩
    simp only [tools, Act.run, h]
  interpret _ _ := ⟨rfl, rfl⟩
  afterMark _ _ := rfl

end Craft

open Run

variable {μ : Type} {c : Craft} {tools : Tools μ} {a : Artifact}

namespace Craft.Drives

/-- Assembling gives the status of the text and leaves the files as the craft has it. -/
theorem assembled (hd : c.Drives tools) (ha : Artifact.ofPath? a.text = some a) (s : Site μ) :
    ∃ s', Answers (tools.assemble a.text) s (.ok (c.status (s.world.files.content? a.text))) s' ∧
      s'.world.files = c.written s.world.files a :=
  ⟨_, ⟨(hd.assemble a s.world ha).1, rfl⟩, (hd.assemble a s.world ha).2⟩

/-- Interpreting gives the ending of the binary and changes no file. -/
theorem interpreted (hd : c.Drives tools) (binary : Path) (s : Site μ) :
    ∃ s', Answers (tools.interpret binary) s (c.ending (s.world.files.content? binary)) s' ∧
      s'.world.files = s.world.files :=
  ⟨_, ⟨(hd.interpret binary s.world).1, rfl⟩, (hd.interpret binary s.world).2⟩

/-- Tools that follow a craft find out what the craft makes of the files. -/
theorem examination (hd : c.Drives tools) (ha : Artifact.ofPath? a.text = some a) (s : Site μ) :
    ∃ calls s', Examination tools a s (c.judge s.world.files a) calls s' ∧
      s'.world.files = c.written s.world.files a := by
  obtain ⟨s₁, h₁, hf₁⟩ := hd.assembled ha s
  by_cases hcode : c.status (s.world.files.content? a.text) = 0
  · rw [hcode] at h₁
    obtain ⟨s₂, h₂, hf₂⟩ := hd.interpreted a.reference s₁
    obtain ⟨s₃, h₃, hf₃⟩ := hd.interpreted a.binary s₂
    rw [hf₂] at h₃
    rw [hf₁] at h₂ h₃ hf₂
    by_cases hfile : (c.written s.world.files a).isFile a.reference = true
    · rw [judge, if_neg (by simp [hcode]), if_pos hfile, Finding.ofEndings]
      rw [← hf₁] at hfile
      split
      · next heq => exact ⟨_, _, .agreed h₁ hfile h₂ (heq ▸ h₃), hf₃.trans hf₂⟩
      · next hne => exact ⟨_, _, .differed h₁ hfile h₂ h₃ hne, hf₃.trans hf₂⟩
    · rw [judge, if_neg (by simp [hcode]), if_neg hfile]
      exact ⟨_, _, .unreferenced h₁ (by rw [hf₁]; simpa using hfile), hf₁⟩
  · rw [judge, if_pos hcode]
    exact ⟨_, _, .rejected h₁ hcode, hf₁⟩

/-- What such tools find out about an artifact in a site. -/
theorem examine_eq (hd : c.Drives tools) (ha : Artifact.ofPath? a.text = some a) (s : Site μ) :
    ((examine tools a).run s).value = .ok (c.judge s.world.files a) ∧
      ((examine tools a).run s).state.world.files = c.written s.world.files a := by
  obtain ⟨calls, s', he, hfiles⟩ := hd.examination ha s
  exact ⟨he.yields.value, by rw [he.yields.state, hfiles]⟩

/-- The findings of a walk, and the files that it leaves. -/
theorem walk_findings (hd : c.Drives tools) {s s' : Site μ} {visits : List (Visit μ)}
    (hw : Walk tools s visits s')
    (ha : ∀ v ∈ visits, Artifact.ofPath? v.artifact.text = some v.artifact) :
    visits.map (fun v => (v.artifact, v.finding)) =
        c.findings s.world.files (visits.map (·.artifact)) ∧
      s'.world.files = (visits.map (·.artifact)).foldl c.written s.world.files := by
  induction hw with
  | nil => exact ⟨rfl, rfl⟩
  | @cons v visits s' _ he _ ih =>
    obtain ⟨hv, hvisits⟩ := List.forall_mem_cons.1 ha
    obtain ⟨calls, after, he', hfiles⟩ := hd.examination hv v.before
    obtain ⟨hfinding, -, hafter⟩ := he.yields.det he'.yields
    have hleft : (v.left tools).world.files = c.written v.before.world.files v.artifact := by
      rw [← hfiles, ← hafter]
      exact hd.afterMark _ _
    obtain ⟨hfindings, hend⟩ := ih hvisits
    rw [hleft] at hfindings hend
    simp only [List.map_cons, findings, List.foldl_cons]
    exact ⟨by rw [hfindings, Except.ok.inj hfinding], hend⟩

end Craft.Drives

/-- The tally of findings about artifacts, in order. -/
def Tally.ofFindings (findings : List (Artifact × Finding)) : Tally :=
  findings.foldl (fun t row => t.add row.1.text row.2) {}

/-- The tally of visits is that of their findings. -/
theorem Tally.addVisits_eq_ofFindings (visits : List (Visit μ)) :
    ({} : Tally).addVisits visits false =
      .ofFindings (visits.map fun v => (v.artifact, v.finding)) := by
  suffices h : ∀ t : Tally, t.cancelled = false →
      t.addVisits visits false = visits.foldl (fun t v => t.add v.artifact.text v.finding) t by
    rw [h _ rfl, ofFindings, List.foldl_map]
  induction visits with
  | nil =>
    intro t ht
    simp [addVisits, Visit.passedPaths, ← ht]
  | cons v visits ih =>
    intro t ht
    rw [← addVisits_add, ih _ (by simpa using ht), List.foldl_cons]

/-- A verification with tools that follow a craft comes to its end. Unless it was cancelled, it
tallies what the craft makes of the files for each of the discovered artifacts in order, and it
leaves the files with their binaries. -/
theorem Craft.Drives.verify_eq (hd : c.Drives tools) (root : Path) (s : Site μ) :
    ∃ tally, ((verify tools root).run s).value = .ok tally ∧
      (tally.cancelled = false →
        tally = .ofFindings (c.findings s.world.files (found root s)) ∧
        ((verify tools root).run s).state.world.files =
          (found root s).foldl c.written s.world.files) := by
  obtain ⟨visits, rest, s₁, x, own, s₂, hw, hh, hfound⟩ := exists_walk tools (found root s) s
  have hof : ∀ a ∈ found root s, Artifact.ofPath? a.text = some a := fun a ha =>
    FileTree.ofPath?_text_of_mem_discovered ha
  have hy := hw.verify_yields hh hfound
  cases hh with
  | interrupted => exact ⟨_, hy.value, fun h => by cases h⟩
  | @broken a rest f _ _ ha =>
    obtain ⟨s', h, -⟩ := hd.assembled (hof a (by simp [hfound])) s₁
    cases (ha.det h).1
  | done =>
    rw [List.append_nil] at hfound
    obtain ⟨hfindings, hfiles⟩ := hd.walk_findings hw fun v hv =>
      hof v.artifact (hfound ▸ List.mem_map_of_mem hv)
    refine ⟨_, hy.value, fun _ => ⟨?_, ?_⟩⟩
    · rw [hfound, ← hfindings]
      exact Tally.addVisits_eq_ofFindings visits
    · rw [hy.state, hfound, ← hfiles]

end RoundTrip
