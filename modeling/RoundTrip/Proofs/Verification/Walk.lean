import RoundTrip.Proofs.Discovery.Artifacts
import RoundTrip.Proofs.Verification.Examination

/-!
# What a walk does

A walk examines artifacts one after the other. `Run.Walk` chains examinations: each begins in the
site that the mark of the one before has left, and none begins in a site that is cancelled.
`Run.Halt` has a rule for each way in which a walk is over: no artifact is left, the run is
cancelled with artifacts left, or an assembler fails. Every list of artifacts has a walk that comes
to a halt (`exists_walk`), and `Walk.verify_yields` says what `Run.verify` then does.

`verify_trace` puts the parts together for a verification that comes to its end: which artifacts
are processed, which tools are called for them and in which order, which marks are written between
the calls, and how the findings are split into the two lists of the tally.
-/

namespace RoundTrip

/-- What happened to an artifact that was examined. -/
structure Visit (μ : Type) where
  /-- The artifact. -/
  artifact : Artifact
  /-- The site in which the examination began. -/
  before : Site μ
  /-- What was found out. -/
  finding : Finding
  /-- The tools that were called, in order. -/
  calls : List Event
  /-- The site that the examination left. -/
  after : Site μ

namespace Visit

variable {μ : Type}

/-- The site behind the mark of the artifact. -/
def left (tools : Tools μ) (v : Visit μ) : Site μ :=
  ((Run.mark tools v.finding.isPassed).run v.after).state

/-- The tools that were called for the artifact, and its mark behind them. -/
def steps (v : Visit μ) : List Event := v.calls ++ [.marked v.finding.isPassed]

/-- All that the run did of its own for the artifact. -/
def own (v : Visit μ) : List Event :=
  v.calls ++ v.finding.notes v.artifact ++
    [.noted (.verified v.artifact.text v.finding), .marked v.finding.isPassed]

/-- What a tally keeps of an artifact that fails. -/
def failed? (v : Visit μ) : Option Failed :=
  match v.finding with
  | .passed _ => none
  | .failed fault => some ⟨v.artifact.text, fault⟩

/-- The regenerated texts of the artifacts that pass. -/
def passedPaths (visits : List (Visit μ)) : List Path :=
  (visits.filter (·.finding.isPassed)).map (·.artifact.text)

/-- The paths of the artifacts that fail are those of the artifacts that do not pass. -/
theorem map_path_failed (visits : List (Visit μ)) :
    (visits.filterMap failed?).map Failed.path =
      (visits.filter (!·.finding.isPassed)).map (·.artifact.text) := by
  induction visits with
  | nil => rfl
  | cons v visits ih =>
    cases hv : v.finding <;> simp [failed?, hv, Finding.isPassed, ih]

end Visit

/-- A tally with the findings of some visits added. -/
def Tally.addVisits {μ : Type} (t : Tally) (visits : List (Visit μ)) (cancelled : Bool) :
    Tally where
  passed := t.passed ++ Visit.passedPaths visits
  failed := t.failed ++ visits.filterMap Visit.failed?
  cancelled := cancelled

/-- Adding the finding of a visit and then those of others is adding all of them. -/
theorem Tally.addVisits_add {μ : Type} (t : Tally) (v : Visit μ) (visits : List (Visit μ))
    (cancelled : Bool) :
    (t.add v.artifact.text v.finding).addVisits visits cancelled =
      t.addVisits (v :: visits) cancelled := by
  cases hv : v.finding <;>
    simp [Tally.add, Tally.addVisits, Visit.passedPaths, Visit.failed?, hv, Finding.isPassed]

namespace Run

variable {μ : Type}

/-- The artifacts that are discovered below a path. -/
def found (root : Path) (s : Site μ) : List Artifact := (s.world.files.artifacts? root).getD []

/-- What is noted about the directories below a path: that there are none, or those that cannot be
listed. -/
def surveyed (root : Path) (s : Site μ) : List Notice :=
  match s.world.files.folders? root with
  | some folders => folders.filterMap fun f => (f.refusal? root).map (.unlisted (f.path root))
  | none => [.rootMissing root]

/-- The notes of a verification before its first artifact. -/
def opening (root : Path) (s : Site μ) : List Event :=
  .noted (.verifying root) :: (surveyed root s).map .noted ++
    [.noted (.discovered (found root s).length)]

/-- Artifacts that were examined one after the other, none of them in a site that is cancelled. -/
inductive Walk (tools : Tools μ) : Site μ → List (Visit μ) → Site μ → Prop
  | nil {s : Site μ} : Walk tools s [] s
  | cons {v : Visit μ} {visits : List (Visit μ)} {s' : Site μ} : v.before.cancelled = false →
      Examination tools v.artifact v.before v.finding v.calls v.after →
      Walk tools (v.left tools) visits s' → Walk tools v.before (v :: visits) s'

/-- How a walk is over in a site with some artifacts left: whether it was interrupted or which
failure ends it, what the run still does of its own, and which site is left. -/
inductive Halt (tools : Tools μ) (s : Site μ) :
    List Artifact → Attempt Bool → List Event → Site μ → Prop
  | done : Halt tools s [] (.ok false) [] s
  | interrupted {a : Artifact} {rest : List Artifact} : s.cancelled = true →
      Halt tools s (a :: rest) (.ok true) [.noted (.interrupted (rest.length + 1))] s
  | broken {a : Artifact} {rest : List Artifact} {f : Failure} {s' : Site μ} :
      s.cancelled = false → Answers (tools.assemble a.text) s (.error f) s' →
      Halt tools s (a :: rest) (.error f) [.assembling a.text] s'

/-- The assembler fails with a failure when it is called in some site. -/
def Fails (tools : Tools μ) (f : Failure) : Prop :=
  ∃ text s s', Answers (tools.assemble text) s (.error f) s'

variable {tools : Tools μ} {s s₁ s₂ : Site μ} {visits : List (Visit μ)} {rest : List Artifact}
  {x : Attempt Bool} {own : List Event} {root : Path}

/-- Marking an artifact writes one mark, and the tools may do something behind it. -/
theorem mark_yields (tools : Tools μ) (passed : Bool) (s : Site μ) :
    Yields (mark tools passed) s () [.marked passed] ((mark tools passed).run s).state :=
  .bind (.write _) (.bind (.emit rfl) (.perform (.intro _ _)))

/-- A mark changes the streams as `Streams.mark` does, and clears no flag. -/
theorem mark_state (tools : Tools μ) (passed : Bool) (s : Site μ) :
    ((mark tools passed).run s).state.streams = s.streams.mark passed ∧
      (s.cancelled = true → ((mark tools passed).run s).state.cancelled = true) := by
  have h : Answers (tools.afterMark passed) { s with streams := s.streams.mark passed } ()
      ((mark tools passed).run s).state := ⟨rfl, rfl⟩
  exact ⟨h.streams, fun hs => h.cancelled hs⟩

/-- An artifact that was examined is noted and marked. -/
theorem settle_yields (tools : Tools μ) (v : Visit μ) :
    Yields (settle tools v.artifact v.finding) v.after ()
      [.noted (.verified v.artifact.text v.finding), .marked v.finding.isPassed] (v.left tools) :=
  .bind (.note _) (mark_yields tools _ _)

/-- A walk, and the way in which it is over, are what `examineAll` does. -/
theorem Walk.examineAll_yields (hw : Walk tools s visits s₁) (hh : Halt tools s₁ rest x own s₂)
    {total : Nat} {tally : Tally} (hc : tally.cancelled = false)
    (ht : total = tally.total + (visits.length + rest.length)) :
    Yields (examineAll tools total (visits.map (·.artifact) ++ rest) tally) s
      (x.map (tally.addVisits visits)) (visits.flatMap Visit.own ++ own) s₂ := by
  induction hw generalizing tally with
  | nil =>
    have hv : tally.addVisits ([] : List (Visit μ)) = fun c => { tally with cancelled := c } := by
      funext c
      simp [Tally.addVisits, Visit.passedPaths]
    rw [hv]
    cases hh with
    | done =>
      have : ({ tally with cancelled := false } : Tally) = tally := by cases tally; simp_all
      simpa [examineAll, Except.map, this] using Yields.pure (.ok tally : Attempt Tally)
    | @interrupted a rest hs =>
      refine .of_own (.bind (.see _) ?_) (List.nil_append _)
      rw [if_pos hs]
      have hn : total - tally.total = rest.length + 1 := by
        simp only [List.length_nil, List.length_cons] at ht
        omega
      rw [hn]
      exact .of_own (.bind (.note _) (.pure _)) rfl
    | broken hs ha =>
      refine .of_own (.bind (.see _) ?_) (List.nil_append _)
      rw [hs]
      exact .of_own (.bind (examine_yields_error ha) (.pure _)) rfl
  | @cons v visits s' hs he _ ih =>
    refine .of_own (.bind (.see _) ?_) (List.nil_append _)
    rw [hs]
    have hc' : (tally.add v.artifact.text v.finding).cancelled = false := by simpa using hc
    have hr := ih hh hc' (by simp only [Tally.total_add, List.length_cons] at *; omega)
    have hadd : (tally.add v.artifact.text v.finding).addVisits visits =
        tally.addVisits (v :: visits) := funext fun c => Tally.addVisits_add ..
    rw [hadd] at hr
    refine .of_own (.bind he.yields (.bind (settle_yields tools v) hr)) ?_
    simp [Visit.own]

/-- Artifacts are walked until the walk is over. -/
theorem exists_walk (tools : Tools μ) (artifacts : List Artifact) (s : Site μ) :
    ∃ visits rest s₁ x own s₂, Walk tools s visits s₁ ∧ Halt tools s₁ rest x own s₂ ∧
      artifacts = visits.map (·.artifact) ++ rest := by
  induction artifacts generalizing s with
  | nil => exact ⟨[], [], s, _, _, s, .nil, .done, rfl⟩
  | cons a artifacts ih =>
    by_cases hs : s.cancelled = true
    · exact ⟨[], a :: artifacts, s, _, _, s, .nil, .interrupted hs, rfl⟩
    · rw [Bool.not_eq_true] at hs
      obtain ⟨f, s', ha⟩ | ⟨f, calls, s', he⟩ := examine_cases tools a s
      · exact ⟨[], a :: artifacts, s, _, _, s', .nil, .broken hs ha, rfl⟩
      · let v : Visit μ := ⟨a, s, f, calls, s'⟩
        obtain ⟨visits, rest, s₁, x, own, s₂, hw, hh, rfl⟩ := ih (v.left tools)
        exact ⟨v :: visits, rest, s₁, x, own, s₂, .cons (v := v) hs he hw, hh, rfl⟩

/-- Discovering artifacts changes nothing. -/
theorem discover_yields (root : Path) (s : Site μ) :
    Yields (discover root) s (found root s) ((surveyed root s).map .noted) s := by
  refine .of_own (.bind (.see _) ?_) (List.nil_append _)
  cases hx : s.world.files.folders? root with
  | some folders =>
    simp only [found, FileTree.artifacts?, surveyed, hx]
    exact .of_own (.bind (.noteAll _) (.pure _)) (List.append_nil _)
  | none =>
    simp only [found, FileTree.artifacts?, surveyed, hx]
    exact .bind (.note _) (.pure _)

/-- What `verify` does besides examining what is discovered: the end of the marks is written unless
a failure ends the walk. -/
theorem verify_yields {artifacts : List Artifact} {y : Attempt Tally}
    (hf : found root s = artifacts)
    (h : Yields (examineAll tools artifacts.length artifacts {}) s y own s₁) :
    Yields (verify tools root) s y
      (opening root s ++ own ++ match y with | .ok _ => [.marksEnded] | .error _ => [])
      (match y with
        | .ok _ => { s₁ with streams := s₁.streams.markEnd }
        | .error _ => s₁) := by
  subst hf
  cases y with
  | ok tally =>
    refine .of_own (.bind (.note _) (.bind (discover_yields root s) (.bind (.note _)
      (.bind h (.bind (.bind (.write _) (.emit rfl)) (.pure _)))))) ?_
    simp [opening]
  | error f =>
    refine .of_own (.bind (.note _) (.bind (discover_yields root s) (.bind (.note _)
      (.bind h (.pure _))))) ?_
    simp [opening]

/-- A walk through the artifacts below a path, and the way in which it is over, are what `verify`
does. -/
theorem Walk.verify_yields (hw : Walk tools s visits s₁) (hh : Halt tools s₁ rest x own s₂)
    (hf : found root s = visits.map (·.artifact) ++ rest) :
    Yields (verify tools root) s (x.map (({} : Tally).addVisits visits))
      (opening root s ++ (visits.flatMap Visit.own ++ own) ++
        match x with | .ok _ => [.marksEnded] | .error _ => [])
      (match x with
        | .ok _ => { s₂ with streams := s₂.streams.markEnd }
        | .error _ => s₂) := by
  have ht : (visits.map (·.artifact) ++ rest).length =
      ({} : Tally).total + (visits.length + rest.length) := by
    simp [Tally.total]
  have := Run.verify_yields hf (hw.examineAll_yields hh rfl ht)
  cases x <;> exact this

/-- Either an assembler fails and `verify` with it, or artifacts are walked until none is left or
the run is cancelled. -/
theorem verify_cases (tools : Tools μ) (root : Path) (s : Site μ) :
    (∃ f own s', Fails tools f ∧ Yields (verify tools root) s (.error f) own s') ∨
      ∃ visits rest s₁ c own, Walk tools s visits s₁ ∧ Halt tools s₁ rest (.ok c) own s₁ ∧
        found root s = visits.map (·.artifact) ++ rest ∧
        Yields (verify tools root) s (.ok (({} : Tally).addVisits visits c))
          (opening root s ++ (visits.flatMap Visit.own ++ own) ++ [.marksEnded])
          { s₁ with streams := s₁.streams.markEnd } := by
  obtain ⟨visits, rest, s₁, x, own, s₂, hw, hh, hf⟩ := exists_walk tools (found root s) s
  have hy := hw.verify_yields hh hf
  cases hh with
  | broken _ ha => exact .inl ⟨_, _, _, ⟨_, _, _, ha⟩, hy⟩
  | done => exact .inr ⟨visits, [], s₁, false, _, hw, .done, hf, hy⟩
  | interrupted hs => exact .inr ⟨visits, _, s₁, true, _, hw, .interrupted hs, hf, hy⟩

/-- What a walk does besides its steps is only noted. -/
theorem Walk.filter_isStep (hw : Walk tools s visits s₁) :
    (visits.flatMap Visit.own).filter Event.isStep = visits.flatMap Visit.steps := by
  induction hw with
  | nil => rfl
  | @cons v visits s' _ he _ ih =>
    have hv : v.own.filter Event.isStep = v.steps := by
      simp [Visit.own, Visit.steps, he.filter_isStep, v.finding.filter_isStep_notes, Event.isStep]
    simp [hv, ih]

/-- A walk that comes to its end without a failure only notes how many artifacts are left. -/
theorem Halt.filter_isStep {c : Bool} (hh : Halt tools s rest (.ok c) own s₁) :
    own.filter Event.isStep = [] := by
  cases hh <;> rfl

/-- A walk that comes to its end without a failure is interrupted just if artifacts are left, and
only in a site that is cancelled. -/
theorem Halt.interrupted_iff {c : Bool} (hh : Halt tools s rest (.ok c) own s₁) :
    (c = true ↔ rest ≠ []) ∧ (c = true → s.cancelled = true) := by
  cases hh with
  | done => simp
  | interrupted hs => simp [hs]

/-- Each artifact of a walk was examined as the answers of the tools ask for. -/
theorem Walk.examination (hw : Walk tools s visits s₁) {v : Visit μ} (hv : v ∈ visits) :
    Examination tools v.artifact v.before v.finding v.calls v.after := by
  induction hw with
  | nil => cases hv
  | cons _ he _ ih =>
    rcases List.mem_cons.1 hv with rfl | hv
    · exact he
    · exact ih hv

/-- A walk writes the marks of its artifacts, in order, and nothing else. -/
theorem Walk.streams (hw : Walk tools s visits s₁) :
    s₁.streams = visits.foldl (fun streams v => streams.mark v.finding.isPassed) s.streams := by
  induction hw with
  | nil => rfl
  | @cons v visits s' _ he _ ih =>
    rw [ih, List.foldl_cons]
    simp only [Visit.left]
    rw [(mark_state tools _ _).1, he.streams]

/-- Nothing is said of a note before the first artifact. -/
theorem filter_isStep_opening (root : Path) (s : Site μ) :
    (opening root s).filter Event.isStep = [] := by
  simp [opening, List.filter_map, Function.comp_def, Event.isStep]

/-- What a verification that comes to its end did. It examined the first of the discovered
artifacts, one after the other, each as the answers of the tools ask for (`Examination`). Its steps
are the calls for each of them with its mark behind them, and the end of the marks. The tally holds
the artifacts that pass and those that fail, each in the order of the walk and each with its fault,
and it says whether artifacts were left out, which happens only when the run is cancelled. -/
theorem verify_trace {tally : Tally} (h : ((verify tools root).run s).value = .ok tally) :
    ∃ visits s', Walk tools s visits s' ∧
      visits.map (·.artifact) <+: found root s ∧
      ((verify tools root).run s).events.filter Event.isStep =
        visits.flatMap Visit.steps ++ [.marksEnded] ∧
      tally.passed = (visits.filter (·.finding.isPassed)).map (·.artifact.text) ∧
      tally.failed = visits.filterMap Visit.failed? ∧
      tally.pathsOfFailed = (visits.filter (!·.finding.isPassed)).map (·.artifact.text) ∧
      (tally.cancelled = true ↔ visits.length < (found root s).length) ∧
      (tally.cancelled = true → s'.cancelled = true) ∧
      ((verify tools root).run s).state = { s' with streams :=
        (visits.foldl (fun streams v => streams.mark v.finding.isPassed) s.streams).markEnd } := by
  obtain ⟨f, own, s₂, -, hy⟩ | ⟨visits, rest, s₁, c, own, hw, hh, hf, hy⟩ :=
    verify_cases tools root s
  · rw [hy.value] at h
    cases h
  rw [hy.value] at h
  injection h with h
  subst h
  refine ⟨visits, s₁, hw, ⟨rest, hf.symm⟩, ?_, ?_, ?_, ?_, ?_, ?_, ?_⟩
  · rw [← Event.filter_isStep_filter_isOwn, hy.own]
    simp [filter_isStep_opening, hw.filter_isStep, hh.filter_isStep, Event.isStep]
  · simp [Tally.addVisits, Visit.passedPaths]
  · simp [Tally.addVisits]
  · simpa [Tally.addVisits, Tally.pathsOfFailed] using Visit.map_path_failed visits
  · rw [hf]
    simp only [Tally.addVisits, hh.interrupted_iff.1, List.length_append, List.length_map]
    cases rest <;> simp
  · exact hh.interrupted_iff.2
  · rw [hy.state, hw.streams]

end Run

/-- The path of a directory. -/
def sampleRoot : Path := .ofText "/d"

/-- The entries of a directory of empty files. -/
def sampleDir (names : List String) : List (Name × Node) :=
  names.map fun name => (Utf8.encode name, .file [] Node.plainMode)

/-- A site with nothing but a directory of empty files. -/
def sampleSite (names : List String) : Site Nat where
  world := { files := { root := .dir [(Utf8.encode "d", .dir (sampleDir names))] }, memory := 0 }

/-- The artifact with a stem in the directory. -/
def sampleArtifact (stem : String) : Artifact where
  reference := .ofText ("/d/" ++ stem ++ ".bc")
  text := .ofText ("/d/" ++ stem ++ ".out.ll")
  binary := .ofText ("/d/" ++ stem ++ ".out.bc")

/-- Tools that count their calls, with an interpreter that gives the same ending to all. -/
def sampleTools (ending : Ending) : Tools Nat where
  assemble _ := do
    Act.change fun w => { w with memory := w.memory + 1 }
    pure (.ok 0)
  interpret _ := do
    Act.change fun w => { w with memory := w.memory + 1 }
    pure ending
  prepare _ _ _ := pure .skipped
  afterMark _ := pure ()
  afterSummary _ _ := pure ()
  clock w := w.memory

namespace Run

/-- The artifacts of a directory of empty files whose names stand in order. -/
theorem found_sample {names : List String}
    (hsorted : ((sampleDir names).map Prod.fst).Pairwise fun a b => Name.le a b = true) :
    found sampleRoot (sampleSite names) =
      Artifact.ofNames sampleRoot ((sampleDir names).map Prod.fst) := by
  have hnode : (sampleSite names).world.files.node? sampleRoot = some (.dir (sampleDir names)) :=
    rfl
  refine FileTree.discovered_of_files hnode (fun e he => ?_) hsorted
  obtain ⟨name, -, rfl⟩ := List.mem_map.1 he
  rfl

/-- The artifacts of a directory in which the reference of the second is missing. -/
theorem found_halfSample : found sampleRoot (sampleSite ["a.bc", "a.out.ll", "b.out.ll"]) =
    [sampleArtifact "a", sampleArtifact "b"] :=
  (found_sample (by decide +kernel)).trans (by decide +kernel)

/-- What is found out about them. -/
theorem verify_halfSample :
    ((verify (sampleTools (.exited 3)) sampleRoot).run
        (sampleSite ["a.bc", "a.out.ll", "b.out.ll"])).value =
      .ok ⟨[(sampleArtifact "a").text], [⟨(sampleArtifact "b").text, .referenceMissing⟩],
        false⟩ := by
  rw [(verify_yields found_halfSample (.intro _ _)).value]
  rfl

theorem verify_trace_sample :
    ∃ visits s', Walk (sampleTools (.exited 3)) (sampleSite ["a.bc", "a.out.ll", "b.out.ll"])
        visits s' ∧
      visits.map (·.artifact) <+: [sampleArtifact "a", sampleArtifact "b"] ∧
      [(sampleArtifact "a").text] =
        (visits.filter (·.finding.isPassed)).map (·.artifact.text) := by
  obtain ⟨visits, s', hw, hp, -, hpassed, -⟩ := verify_trace verify_halfSample
  exact ⟨visits, s', hw, found_halfSample ▸ hp, hpassed⟩

end Run

end RoundTrip
