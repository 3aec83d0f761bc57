import RoundTrip.Proofs.Batch.Unlaunched
import RoundTrip.Proofs.Run.Agreement

/-!
# Runs that an assembler stops

What stops a run over suites is an assembler that fails, and nothing else. To say this of the calls
that a run makes, the tools are let keep a record of them (`Tools.recorded`): each text that the
assembler is called for, with its answer. The record changes nothing else about a run, and a run
fails just if there is a failure in its record, with the first one.

A run that fails stops with the call, so nothing follows it. What stands before the call does not
depend on the failure: tools that agree with the given ones wherever their assembler does not fail
have the run do the same up to the call (`batch_fails_iff`).
-/

namespace RoundTrip

variable {μ ν α : Type}

/-- The failure of an attempt that fails. -/
def Attempt.failure? : Attempt α → Option Failure
  | .ok _ => none
  | .error f => some f

/-! ## Records of calls -/

/-- A memory with a record of the calls of the assembler: the texts that it was called for and its
answers, in order. -/
abbrev Recorded (μ : Type) : Type := μ × List (Path × Attempt Int32)

/-- The world without the record. -/
def World.plain (w : World (Recorded μ)) : World μ := ⟨w.files, w.memory.1⟩

/-- A tool whose answer puts something into the record. -/
def Tool.recorded (tool : Tool μ α) (entries : α → List (Path × Attempt Int32)) :
    Tool (Recorded μ) α := fun w =>
  let out := tool.run w.plain
  ⟨out.value, out.events,
    { files := out.state.files
      memory := (out.state.memory, w.memory.2 ++ entries out.value) }⟩

/-- Tools that keep a record of the calls of their assembler. -/
def Tools.recorded (tools : Tools μ) : Tools (Recorded μ) where
  assemble text := Tool.recorded (tools.assemble text) fun answer => [(text, answer)]
  interpret binary := Tool.recorded (tools.interpret binary) fun _ => []
  prepare name suite dir := Tool.recorded (tools.prepare name suite dir) fun _ => []
  afterMark passed := Tool.recorded (tools.afterMark passed) fun _ => []
  afterSummary suite verdict := Tool.recorded (tools.afterSummary suite verdict) fun _ => []
  clock w := tools.clock w.plain

/-- A site in which nothing is recorded so far. -/
def Site.recording (s : Site μ) : Site (Recorded μ) :=
  { s with world := { files := s.world.files, memory := (s.world.memory, []) } }

/-- The record in a site. -/
def Site.record (s : Site (Recorded μ)) : List (Path × Attempt Int32) := s.world.memory.2

/-- Worlds that are the same but for a record in which nothing has failed. -/
def World.FailureFree (w : World μ) (w' : World (Recorded μ)) : Prop :=
  w'.plain = w ∧ ∀ call ∈ w'.memory.2, call.2.failure? = none

/-- A tool that keeps a record agrees with the tool, unless it puts a failure into it. -/
theorem Tool.recorded_agree (tool : Tool μ α) (entries : α → List (Path × Attempt Int32))
    {w : World μ} {w' : World (Recorded μ)} (h : w.FailureFree w')
    (hentries : ∀ call ∈ entries (tool.run w).value, call.2.failure? = none) :
    Outcome.Agree World.FailureFree (tool.run w) ((Tool.recorded tool entries).run w') := by
  obtain ⟨rfl, hrecord⟩ := h
  refine ⟨rfl, rfl, rfl, fun call hcall => ?_⟩
  rcases List.mem_append.1 hcall with hcall | hcall
  · exact hrecord call hcall
  · exact hentries call hcall

/-- A tool that puts nothing into the record agrees with the tool. -/
theorem Tool.recorded_agree_nil (tool : Tool μ α) {w : World μ} {w' : World (Recorded μ)}
    (h : w.FailureFree w') :
    Outcome.Agree World.FailureFree (tool.run w) ((Tool.recorded tool fun _ => []).run w') := by
  refine Tool.recorded_agree tool _ h fun _ hcall => ?_
  cases hcall

/-- Tools that keep a record agree with the tools until the assembler fails. -/
theorem Tools.recorded_agree (tools : Tools μ) : tools.Agree World.FailureFree tools.recorded where
  files h := h.1 ▸ rfl
  clock h := h.1 ▸ rfl
  assemble text code h hcode := by
    refine Tool.recorded_agree (tools.assemble text) (fun answer => [(text, answer)]) h
      fun call hcall => ?_
    rw [hcode, List.mem_singleton] at hcall
    rw [hcall]
    rfl
  interpret binary := Tool.recorded_agree_nil (tools.interpret binary)
  prepare name suite dir := Tool.recorded_agree_nil (tools.prepare name suite dir)
  afterMark passed := Tool.recorded_agree_nil (tools.afterMark passed)
  afterSummary suite verdict := Tool.recorded_agree_nil (tools.afterSummary suite verdict)

/-- Tools with another assembler agree with the tools if it does the same wherever theirs does not
fail. -/
theorem Tools.agree_of_assemble (tools : Tools μ) {assemble : Path → Tool μ (Attempt Int32)}
    (h : ∀ text w code, ((tools.assemble text).run w).value = .ok code →
      (assemble text).run w = (tools.assemble text).run w) :
    tools.Agree Eq { tools with assemble } where
  files h := h ▸ rfl
  clock h := h ▸ rfl
  assemble text code hw hcode := by
    subst hw
    simp only [h text _ code hcode]
    exact ⟨rfl, rfl, rfl⟩
  interpret _ hw := hw ▸ ⟨rfl, rfl, rfl⟩
  prepare _ _ _ hw := hw ▸ ⟨rfl, rfl, rfl⟩
  afterMark _ hw := hw ▸ ⟨rfl, rfl, rfl⟩
  afterSummary _ _ hw := hw ▸ ⟨rfl, rfl, rfl⟩

/-! ## The last call -/

/-- A call with nothing but remarks behind it is the last one. -/
theorem Event.assembling_inj {front front' : List Event} {text text' : Path}
    {said said' : List Remark}
    (h : front ++ .assembling text :: said.map .remark =
      front' ++ .assembling text' :: said'.map .remark) :
    front = front' ∧ text = text' := by
  -- if one call stood in front of the other, the other would be a remark
  have hnot : ∀ (middle : List Event) (text : Path) (back : List Event) (said : List Remark),
      middle ++ .assembling text :: back ≠ said.map .remark := by
    intro middle text back said h
    have hmem : Event.assembling text ∈ said.map Event.remark := h ▸ by simp
    obtain ⟨r, -, hr⟩ := List.mem_map.1 hmem
    cases hr
  obtain ⟨middle, rfl, hback⟩ | ⟨middle, rfl, hback⟩ := List.append_eq_append_iff.1 h
  · cases middle with
    | nil => simpa using (List.cons.inj hback).1
    | cons e middle => exact absurd (List.cons.inj hback).2.symm (hnot middle text' _ said)
  · cases middle with
    | nil => simpa using (List.cons.inj hback).1.symm
    | cons e middle => exact absurd (List.cons.inj hback).2.symm (hnot middle text _ said')

namespace Run

variable {tools : Tools μ} {s : Site μ}

/-- A tool that keeps a record answers and remarks the same in a site with the same world. -/
theorem perform_recorded (tool : Tool μ α) (entries : α → List (Path × Attempt Int32)) {t : Site μ}
    {t' : Site (Recorded μ)} (h : t'.world.plain = t.world) :
    ((perform (Tool.recorded tool entries)).run t').value = ((perform tool).run t).value ∧
      ((perform (Tool.recorded tool entries)).run t').events = ((perform tool).run t).events := by
  simp only [perform, Act.run, Tool.recorded, h, and_self]

/-- What is recorded of an action that stops with the failure of its assembler. -/
theorem StopsAt.record {act : Run (Recorded μ) (Attempt α)} {s t : Site (Recorded μ)}
    {front : List Event} {text : Path} {f : Failure}
    (h : StopsAt tools.recorded act s front text t f) :
    (act.run s).state.record = t.record ++ [(text, .error f)] := by
  obtain ⟨hvalue, hstate⟩ := h.answers
  rw [← hstate, ← hvalue]
  rfl

section Batch

variable {generation : Generation} {settings : Settings} {runId : String}
  {suites : List (String × Suite)}

/-- A run over suites with tools that keep a record gives the same and does the same. Nothing fails
in the record, or the run stops with the last call in it, which is the first that fails. -/
theorem batch_recorded (tools : Tools μ) (generation : Generation) (settings : Settings)
    (runId : String) (suites : List (String × Suite)) (s : Site μ) :
    let out := (batch tools generation settings runId suites).run s
    let kept := (batch tools.recorded generation settings runId suites).run s.recording
    kept.value = out.value ∧ kept.events = out.events ∧
      ((∃ result, out.value = .ok result) ∧
          (∀ call ∈ kept.state.record, call.2.failure? = none) ∨
        ∃ f front text earlier, ∃ said : List Remark, out.value = .error f ∧
          out.events = front ++ .assembling text :: said.map .remark ∧
          kept.state.record = earlier ++ [(text, .error f)] ∧
          ∀ call ∈ earlier, call.2.failure? = none) := by
  have hs : Site.Agree World.FailureFree s s.recording := ⟨⟨rfl, by simp [Site.recording]⟩, rfl⟩
  cases batch_agree tools.recorded_agree generation settings runId suites hs with
  | alike hx hagree =>
    exact ⟨hagree.value, hagree.events, .inl ⟨⟨_, hx⟩, hagree.state.world.2⟩⟩
  | @stopped front text t t' f ht hstop _ hagain =>
    -- the assembler that keeps a record fails in the same call
    obtain ⟨hplain, hfree⟩ := ht.world
    obtain ⟨hvalue, hevents⟩ :=
      perform_recorded (tools.assemble text) (fun answer => [(text, answer)]) hplain
    have hstop' := hagain f (hvalue.trans hstop.answers.1)
    refine ⟨hstop'.value.trans hstop.value.symm, ?_, .inr ⟨f, front, text, t'.record, _,
      hstop.value, hstop.events, hstop'.record, hfree⟩⟩
    rw [hstop'.events, hstop.events]
    exact congrArg (front ++ .assembling text :: ·) hevents

/-- Of a run over suites that an assembler stops, tools that agree with the given ones until then
have the run do all up to the call that fails. -/
theorem batch_front {tools' : Tools ν} {W : World μ → World ν → Prop} (ht : tools.Agree W tools')
    {s' : Site ν} (hs : Site.Agree W s s') {f : Failure} {front : List Event} {text : Path}
    {said : List Remark}
    (hvalue : ((batch tools generation settings runId suites).run s).value = .error f)
    (hevents : ((batch tools generation settings runId suites).run s).events =
      front ++ .assembling text :: said.map .remark) :
    front ++ [.assembling text] <+:
      ((batch tools' generation settings runId suites).run s').events := by
  cases batch_agree ht generation settings runId suites hs with
  | alike hx => cases hx.symm.trans hvalue
  | stopped _ hstop hfront =>
    obtain ⟨rfl, rfl⟩ := Event.assembling_inj (hevents.symm.trans hstop.events)
    exact hfront

end Batch

/-- What a run over suites does that an assembler may stop. With tools that keep a record, the run
gives the same and does the same. It fails just if there is a failure in the record, with the first
of these. A run that fails ends with the call that failed and the remarks that the assembler makes
there; and with other tools that agree with the given ones until their assembler fails, a run does
the same up to this call, and makes it. A run that does not fail reports about the sessions that it
held: how the corpus was prepared, and what the artifacts fail of. -/
theorem batch_fails_iff (tools : Tools μ) (generation : Generation) (settings : Settings)
    (runId : String) (suites : List (String × Suite)) (s : Site μ) :
    let out := (batch tools generation settings runId suites).run s
    let kept := (batch tools.recorded generation settings runId suites).run s.recording
    kept.value = out.value ∧ kept.events = out.events ∧
    (∀ f, out.value = .error f ↔ kept.state.record.findSome? (·.2.failure?) = some f) ∧
    (∀ f, out.value = .error f → ∃ front text earlier, ∃ said : List Remark,
      out.events = front ++ .assembling text :: said.map .remark ∧
      kept.state.record = earlier ++ [(text, .error f)] ∧
      ∀ {ν : Type} (W : World μ → World ν → Prop) (tools' : Tools ν) (s' : Site ν),
        tools.Agree W tools' → Site.Agree W s s' → front ++ [.assembling text] <+:
          ((batch tools' generation settings runId suites).run s').events) ∧
    (∀ result, out.value = .ok result → ∃ sessions s', Sessions tools settings s sessions s' ∧
      sessions.map Session.request <+: suites ∧
      result.suites = sessions.map (·.entry settings)) := by
  obtain ⟨hvalue, hevents, hrecord⟩ := batch_recorded tools generation settings runId suites s
  refine ⟨hvalue, hevents, fun g => ?_, fun g hg => ?_, fun result hresult => ?_⟩
  · obtain ⟨⟨result, hok⟩, hfree⟩ | ⟨f, front, text, earlier, said, hf, -, hkept, hfree⟩ := hrecord
    · rw [hok, List.findSome?_eq_none_iff.2 hfree]
      simp
    · rw [hf, hkept, List.findSome?_append, List.findSome?_eq_none_iff.2 hfree]
      simp [Attempt.failure?]
  · obtain ⟨⟨result, hok⟩, -⟩ | ⟨f, front, text, earlier, said, hf, hout, hkept, -⟩ := hrecord
    · cases hok.symm.trans hg
    · obtain rfl := Except.error.inj (hf.symm.trans hg)
      exact ⟨front, text, earlier, said, hout, hkept, fun _ _ _ ht hs => batch_front ht hs hf hout⟩
  · obtain ⟨sessions, rest, _, s', hr, hsuites, rfl, -⟩ := batch_sessions hresult
    exact ⟨sessions, s', hr, ⟨rest, hsuites.symm⟩, by simp [Ledger.result, Ledger.addSessions]⟩

/-- What the sample assembler fails with when it is not installed. -/
def sampleFailure : Failure := .launchFailure "llvm-as" (.errno .noEntry)

/-- The sample tools with an assembler that is not installed. -/
def failingTools : Tools Nat :=
  { sampleTools (.exited 3) with assemble := fun _ => pure (.error sampleFailure) }

/-- A run over a directory with an artifact fails with them. -/
theorem batch_failing :
    ((batch failingTools .llvm38 {} "run" [("whole", .unnamed sampleRoot)]).run wholeSite).value =
      .error sampleFailure := by
  have hfound : found sampleRoot wholeSite =
      ([] : List (Visit Nat)).map (·.artifact) ++ [sampleArtifact "a"] := found_whole
  have hbroken : Halt failingTools wholeSite [sampleArtifact "a"] (.error sampleFailure) _
    wholeSite := .broken rfl ⟨rfl, rfl⟩
  have hp : Answers (failingTools.prepare "whole" (.unnamed sampleRoot) sampleRoot) wholeSite
      .skipped wholeSite := ⟨rfl, rfl⟩
  obtain ⟨_, hbatch⟩ := batch_of_verify_error .llvm38 "run" rfl hp
    (Walk.nil.verify_yields hbroken hfound)
  exact hbatch.value

theorem batch_fails_iff_sample :
    ((batch failingTools .llvm38 {} "run" [("whole", .unnamed sampleRoot)]).run wholeSite).value =
        .error sampleFailure ∧
      ∃ front text, ∃ said : List Remark,
        ((batch failingTools .llvm38 {} "run" [("whole", .unnamed sampleRoot)]).run
          wholeSite).events = front ++ .assembling text :: said.map .remark ∧
        front ++ [.assembling text] <+:
          ((batch (sampleTools (.exited 3)) .llvm38 {} "run" [("whole", .unnamed sampleRoot)]).run
            wholeSite).events := by
  obtain ⟨-, -, -, hfails, -⟩ :=
    batch_fails_iff failingTools .llvm38 {} "run" [("whole", .unnamed sampleRoot)] wholeSite
  obtain ⟨front, text, -, said, hevents, -, hfront⟩ := hfails sampleFailure batch_failing
  have hagree : failingTools.Agree Eq (sampleTools (.exited 3)) :=
    failingTools.agree_of_assemble fun _ _ _ h => by cases h
  exact ⟨batch_failing, front, text, said, hevents, hfront Eq _ _ hagree ⟨rfl, rfl⟩⟩

end Run

end RoundTrip
