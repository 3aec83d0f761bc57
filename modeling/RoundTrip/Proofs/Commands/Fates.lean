import RoundTrip.Installed

/-!
# What becomes of a command

A launcher hands a command to a host and tells what has become of it (`Fate`). What it answers is a
function of the fate and of whether the command is fatal (`Launcher.answer`): a program that ends by
itself has an ending in either case; if it cannot be started or waited for, or its time is over, a
fatal command fails (`Fate.failure?`), and any other has an ending that says so (`Fate.ending`) and
is logged once as an error (`countP_isError_said`). `execute_eq` is the equation of a call.
`Launcher.execute_tells` goes through all fates (`Executed`) and adds what the two tools make of
them that are built on a launcher: the assembler flattens an ending to its code, and the interpreter
passes it on.

An ending is flattened to the code 0 only for the status 0 (`Fate.code_eq_zero_iff`), because the
number of a signal is positive (`Fate.IsReal`).
-/

namespace RoundTrip

/-- Whether a remark is logged as an error. -/
def Remark.isError (r : Remark) : Bool := r.record?.any (·.level == .error)

namespace Fate

/-- The ending that tells of a fate. -/
def ending : Fate → Ending
  | .unlaunched _ | .lost _ => .launchFailed
  | .exited status => .exited status
  | .killed signal => .signaled signal
  | .overran _ => .timedOut

/-- What a fatal command fails of. -/
def failure? (l : Launcher) (c : Command) : Fate → Option Failure
  | .unlaunched reason | .lost reason => some (.launchFailure c.line reason)
  | .exited _ | .killed _ => none
  | .overran _ => some (.timeout c.line l.limitSecs)

/-- A fate as an operating system tells it: the number of a signal is positive. -/
def IsReal : Fate → Prop
  | .killed signal => 0 < signal
  | _ => True

/-- A command that fails if it is fatal is one that was never started or waited for, or whose time
was over. -/
theorem failure?_eq_none_iff (l : Launcher) (c : Command) (fate : Fate) :
    fate.failure? l c = none ↔ fate.ending ≠ .launchFailed ∧ fate.ending ≠ .timedOut := by
  cases fate <;> simp [failure?, ending]

/-- Only a program that exits with the status 0 has the code 0. -/
theorem code_eq_zero_iff {fate : Fate} (h : fate.IsReal) :
    fate.ending.code = 0 ↔ fate = .exited 0 := by
  cases fate with
  | exited status => simp [ending, Ending.code]
  | killed signal =>
    have hpositive : 0 < signal := h
    have hsignal : -signal ≠ 0 := by grind
    simp [ending, Ending.code, hsignal]
  | unlaunched | lost => simp [ending, Ending.code, Ending.unlaunchedCode]
  | overran => simp [ending, Ending.code, Ending.overrunCode]

end Fate

/-- A host that tells of every command as an operating system does. -/
def Host.IsReal {μ : Type} (host : Host μ) : Prop :=
  ∀ c visible limit w, ((host.run c visible limit).run w).value.IsReal

namespace Launcher

variable {μ : Type}

/-- What a launcher answers about a command with some fate. -/
def answer (l : Launcher) (c : Command) (fate : Fate) : Attempt Ending :=
  match fate.failure? l c with
  | some f => if c.fatal then .error f else .ok fate.ending
  | none => .ok fate.ending

/-- A command that may fail always has an ending. -/
theorem answer_of_not_fatal {c : Command} (hfatal : c.fatal = false) (l : Launcher) (fate : Fate) :
    l.answer c fate = .ok fate.ending := by
  rw [answer, hfatal]
  split <;> rfl

/-- A fatal command that has an ending could be run. -/
theorem ran_of_answer {l : Launcher} {c : Command} {fate : Fate} {ending : Ending}
    (hfatal : c.fatal = true) (h : l.answer c fate = .ok ending) :
    ending ≠ .launchFailed ∧ ending ≠ .timedOut := by
  rw [answer, hfatal] at h
  split at h
  · cases h
  · next hnone =>
    obtain rfl := Except.ok.inj h
    exact (Fate.failure?_eq_none_iff l c fate).1 hnone

/-- Only a fatal command fails. -/
theorem answer_eq_error_iff {l : Launcher} {c : Command} {fate : Fate} {f : Failure} :
    l.answer c fate = .error f ↔ c.fatal = true ∧ fate.failure? l c = some f := by
  rw [answer]
  cases fate.failure? l c with
  | none => simp
  | some g => cases c.fatal <;> simp

/-- The code of a command is 0 just if its program exited with the status 0. -/
theorem answer_code_eq_zero_iff {fate : Fate} (h : fate.IsReal) (l : Launcher) (c : Command) :
    (l.answer c fate).map Ending.code = .ok 0 ↔ fate = .exited 0 := by
  rw [← Fate.code_eq_zero_iff h, answer]
  cases hfailure : fate.failure? l c with
  | none => simp [Except.map]
  | some f =>
    -- the ending of a command that fails has a code of its own
    have hcode : fate.ending.code ≠ 0 := fun hcode => by
      rw [(Fate.code_eq_zero_iff h).1 hcode] at hfailure
      cases hfailure
    cases c.fatal <;> simp [Except.map, hcode]

/-- What a launcher says about the fate of a command. -/
def said (l : Launcher) (c : Command) : Fate → List Remark
  | .exited _ | .killed _ => []
  | .unlaunched reason | .lost reason => if c.fatal then [] else [.troubled c reason.text]
  | .overran killTrouble =>
    killTrouble.toList.map .killFailed ++
      if c.fatal then []
      else [.troubled c ("timed out after " ++ toString l.limitSecs.toNat ++ " seconds")]

/-- What is said is an error once if the command may fail and its ending is one of a command that
could not be run, and never otherwise. -/
theorem countP_isError_said (l : Launcher) (c : Command) (fate : Fate) :
    (l.said c fate).countP Remark.isError =
      if c.fatal = false ∧ (fate.ending = .launchFailed ∨ fate.ending = .timedOut) then 1
      else 0 := by
  have htroubled (reason : String) : (Remark.troubled c reason).isError = true := by
    cases hdescription : c.description <;>
      simp [Remark.isError, Remark.record?, Remark.troubleRecord, hdescription, LogRecord.say]
  have hkill (reason : Reason) : (Remark.killFailed reason).isError = false := rfl
  cases fate with
  | exited | killed => simp [said, Fate.ending]
  | unlaunched reason | lost reason =>
    cases hfatal : c.fatal <;> simp [said, Fate.ending, hfatal, htroubled]
  | overran trouble =>
    cases trouble <;> cases hfatal : c.fatal <;>
      simp [said, Fate.ending, hfatal, htroubled, hkill]

/-- Judging a fate is saying something and answering, and changes nothing. -/
theorem judge_eq (l : Launcher) (c : Command) (fate : Fate) (w : World μ) :
    (judge l c fate).run w = ⟨l.answer c fate, l.said c fate, w⟩ := by
  cases fate with
  | exited | killed => rfl
  | unlaunched reason | lost reason =>
    cases hfatal : c.fatal <;>
      simp [judge, unlaunched, answer, said, Fate.failure?, hfatal, Fate.ending]
  | overran trouble =>
    cases trouble <;> cases hfatal : c.fatal <;>
      simp [judge, timedOut, answer, said, Fate.failure?, hfatal, Fate.ending]

/-- A command without a program is refused, and nothing is started. -/
theorem execute_empty {c : Command} (hprogram : c.program.isEmpty = true) (l : Launcher)
    (host : Host μ) (w : World μ) :
    (l.execute host c).run w = ⟨.error .emptyCommand, [], w⟩ := by
  rw [execute, if_pos hprogram, Act.run_pure]

/-- A command with a program is started once, and its fate is judged. -/
theorem execute_eq {c : Command} (hprogram : c.program.isEmpty = false) (l : Launcher)
    (host : Host μ) (w : World μ) :
    (l.execute host c).run w =
      let child := (host.run c (l.verbose || c.visible) l.limit).run w
      ⟨l.answer c child.value,
        .launching c (l.verbose || c.visible) :: child.events ++ l.said c child.value,
        child.state⟩ := by
  rw [execute, hprogram, if_neg Bool.false_ne_true]
  simp only [Act.run_bind, Act.run_emit, judge_eq, List.cons_append, List.nil_append]

end Launcher

namespace Installed

variable {μ : Type}

/-- An assembler gives the code of the ending of its command. -/
theorem value_assemble (t : Installed) (host : Host μ) (flags : List String) (input : Path)
    (w : World μ) :
    ((t.assemble host flags input).run w).value =
      ((t.launcher.execute host (t.assembly flags input)).run w).value.map Ending.code := by
  rw [assemble]
  simp only [Launcher.executeCode, Act.run_bind, Act.run_pure]
  cases ((t.launcher.execute host (t.assembly flags input)).run w).value with
  | error f => rfl
  | ok ending =>
    simp only [Except.map]
    split <;> rfl

/-- An assembler gives the code 0 just if it has a program, which exits with the status 0. -/
theorem assemble_eq_zero_iff {t : Installed} {host : Host μ} {flags : List String} {input : Path}
    {w : World μ} {fate : Fate}
    (h : ((host.run (t.assembly flags input) true t.launcher.limit).run w).value = fate)
    (hreal : fate.IsReal) :
    ((t.assemble host flags input).run w).value = .ok 0 ↔
      t.program.isEmpty = false ∧ fate = .exited 0 := by
  rw [value_assemble]
  cases hprogram : t.program.isEmpty with
  | true =>
    have hname : (t.assembly flags input).program.isEmpty = true := hprogram
    simp [Launcher.execute_empty hname, Except.map]
  | false =>
    have hname : (t.assembly flags input).program.isEmpty = false := hprogram
    have hvisible : (t.launcher.verbose || (t.assembly flags input).visible) = true :=
      Bool.or_true _
    rw [Launcher.execute_eq hname, hvisible]
    simp only [h, true_and]
    exact Launcher.answer_code_eq_zero_iff hreal t.launcher (t.assembly flags input)

/-- An interpreter without a program is not even tried. -/
theorem interpret_empty {t : Installed} (hprogram : t.program.isEmpty = true) (host : Host μ)
    (flags : List String) (input : Path) (w : World μ) :
    (t.interpret host flags input).run w = ⟨.launchFailed, [.rejected .emptyCommand], w⟩ := by
  have hempty : (t.interpretation flags input).program.isEmpty = true := hprogram
  simp [interpret, Launcher.execute_empty hempty]

/-- An interpreter passes on the ending of its command, and adds nothing to it. -/
theorem interpret_of_execute {t : Installed} {host : Host μ} {flags : List String} {input : Path}
    {w : World μ} {out : Outcome Remark (World μ) (Attempt Ending)} {ending : Ending}
    (h : (t.launcher.execute host (t.interpretation flags input)).run w = out)
    (hending : out.value = .ok ending) :
    (t.interpret host flags input).run w = ⟨ending, out.events, out.state⟩ := by
  simp [interpret, h, hending]

end Installed

variable {μ : Type}

/-- What an execution of a command that has a program comes to, where `child` is what the host does
with it. -/
structure Executed (l : Launcher) (c : Command) (child : Outcome Remark (World μ) Fate)
    (out : Outcome Remark (World μ) (Attempt Ending)) : Prop where
  /-- The program is all that acts on the world. -/
  state : out.state = child.state
  /-- A program that exits has its status. -/
  exited : ∀ status, child.value = .exited status → out.value = .ok (.exited status)
  /-- A program that is killed has its signal. -/
  killed : ∀ signal, child.value = .killed signal → out.value = .ok (.signaled signal)
  /-- A program that cannot be started or waited for stops the run if its command is fatal. -/
  unlaunched : ∀ reason, child.value = .unlaunched reason ∨ child.value = .lost reason →
    out.value = if c.fatal then .error (.launchFailure c.line reason) else .ok .launchFailed
  /-- A program whose time is over stops the run if its command is fatal, whether or not it could
  be killed. -/
  overran : ∀ trouble, child.value = .overran trouble →
    out.value = if c.fatal then .error (.timeout c.line l.limitSecs) else .ok .timedOut
  /-- The command is announced, and then the launcher speaks behind the program only. -/
  events : ∃ said,
    out.events = .launching c (l.verbose || c.visible) :: child.events ++ said ∧
    said.countP Remark.isError ≤ 1 ∧
    (c.fatal = false → (said.countP Remark.isError = 1 ↔
      out.value = .ok .launchFailed ∨ out.value = .ok .timedOut)) ∧
    (c.fatal = true → said.countP Remark.isError = 0)
  /-- A command that may fail never stops the run. -/
  survives : c.fatal = false → ∃ ending, out.value = .ok ending
  /-- A fatal command never has one of the endings of a command that could not be run. -/
  ran : c.fatal = true → out.value ≠ .ok .launchFailed ∧ out.value ≠ .ok .timedOut

/-- Whatever a host does with a command, the execution comes to what `Executed` says. -/
theorem Launcher.executed_execute {c : Command} (hprogram : c.program.isEmpty = false)
    (l : Launcher) (host : Host μ) (w : World μ) :
    Executed l c ((host.run c (l.verbose || c.visible) l.limit).run w)
      ((l.execute host c).run w) := by
  rw [execute_eq hprogram]
  generalize (host.run c (l.verbose || c.visible) l.limit).run w = child
  obtain ⟨fate, own, w'⟩ := child
  exact
    { state := rfl
      exited := by
        rintro status rfl
        rfl
      killed := by
        rintro signal rfl
        rfl
      unlaunched := by
        rintro reason (rfl | rfl) <;> rfl
      overran := by
        rintro trouble rfl
        rfl
      events := by
        refine ⟨_, rfl, ?_, fun hfatal => ?_, fun hfatal => ?_⟩
        · rw [countP_isError_said]
          split <;> decide
        · simp only [countP_isError_said, hfatal, answer_of_not_fatal hfatal, Except.ok.injEq]
          split <;> simp_all
        · simp [countP_isError_said, hfatal]
      survives := fun hfatal => ⟨_, answer_of_not_fatal hfatal l fate⟩
      ran := fun hfatal => ⟨fun h => (ran_of_answer hfatal h).1 rfl,
        fun h => (ran_of_answer hfatal h).2 rfl⟩ }

/-- What is told of a command. One without a program is refused and starts nothing; any other comes
to what `Executed` says. An assembler gives the code 0 just if it has a program that exits with the
status 0. An interpreter without a program is rejected, and one with a program passes on what its
command, which is not fatal, comes to. -/
theorem Launcher.execute_tells (host : Host μ) (w : World μ) :
    (∀ (l : Launcher) (c : Command), c.program.isEmpty = true →
      (l.execute host c).run w = ⟨.error .emptyCommand, [], w⟩) ∧
    (∀ (l : Launcher) (c : Command), c.program.isEmpty = false →
      Executed l c ((host.run c (l.verbose || c.visible) l.limit).run w)
        ((l.execute host c).run w)) ∧
    (∀ (t : Installed) (flags : List String) (input : Path) (fate : Fate),
      ((host.run (t.assembly flags input) true t.launcher.limit).run w).value = fate →
      fate.IsReal → (((t.assemble host flags input).run w).value = .ok 0 ↔
        t.program.isEmpty = false ∧ fate = .exited 0)) ∧
    ∀ (t : Installed) (flags : List String) (input : Path),
      let out := (t.launcher.execute host (t.interpretation flags input)).run w
      (t.program.isEmpty = true →
        (t.interpret host flags input).run w = ⟨.launchFailed, [.rejected .emptyCommand], w⟩) ∧
      (t.program.isEmpty = false → ∃ ending, out.value = .ok ending ∧
        (t.interpret host flags input).run w = ⟨ending, out.events, out.state⟩) := by
  refine ⟨fun l c h => execute_empty h l host w, fun l c h => executed_execute h l host w,
    fun t flags input fate => Installed.assemble_eq_zero_iff, ?_⟩
  intro t flags input out
  refine ⟨fun h => Installed.interpret_empty h host flags input w, fun h => ?_⟩
  have hname : (t.interpretation flags input).program.isEmpty = false := h
  obtain ⟨ending, hending⟩ := (executed_execute hname t.launcher host w).survives rfl
  exact ⟨ending, hending, Installed.interpret_of_execute rfl hending⟩

/-- A host on which every command has the fate that its memory holds. -/
def fatedHost : Host Fate where
  run _ _ _ := Act.see World.memory
  query _ _ := pure .failed

/-- A world in which every command has this fate. -/
def fatedWorld (fate : Fate) : World Fate := ⟨default, fate⟩

/-- An installed tool with a name. -/
def namedTool : Installed := { program := .ofText "tool" }

theorem Launcher.execute_tells_sample :
    (({} : Launcher).execute fatedHost { program := ⟨[]⟩ }).run (fatedWorld (.exited 0)) =
      ⟨.error .emptyCommand, [], fatedWorld (.exited 0)⟩ ∧
    (∃ said, (({} : Launcher).execute fatedHost (namedTool.interpretation [] ⟨[]⟩)).run
        (fatedWorld (.overran (some (.errno .noEntry)))) =
      ⟨.ok .timedOut, .launching (namedTool.interpretation [] ⟨[]⟩) false :: said,
        fatedWorld (.overran (some (.errno .noEntry)))⟩ ∧ said.countP Remark.isError = 1) ∧
    ((namedTool.assemble fatedHost [] ⟨[]⟩).run (fatedWorld (.exited 0))).value = .ok 0 ∧
    ((namedTool.interpret fatedHost [] ⟨[]⟩).run (fatedWorld (.killed 11))).value =
      .signaled 11 := by
  obtain ⟨hempty, -, hassemble, -⟩ := execute_tells fatedHost (fatedWorld (.exited 0))
  obtain ⟨-, hoverran, -, -⟩ :=
    execute_tells fatedHost (fatedWorld (.overran (some (.errno .noEntry))))
  obtain ⟨-, -, -, hinterpret⟩ := execute_tells fatedHost (fatedWorld (.killed 11))
  refine ⟨hempty {} _ rfl, ?_, (hassemble namedTool [] ⟨[]⟩ _ rfl trivial).2 ⟨rfl, rfl⟩, ?_⟩
  · have h := hoverran {} (namedTool.interpretation [] ⟨[]⟩) rfl
    obtain ⟨said, hevents, -, hsaid, -⟩ := h.events
    have hvalue := h.overran _ rfl
    have hout : _ = (Outcome.mk _ _ _ : Outcome Remark (World Fate) (Attempt Ending)) :=
      congr (congr (congrArg Outcome.mk hvalue) hevents) h.state
    exact ⟨said, hout, (hsaid rfl).2 (.inr hvalue)⟩
  · obtain ⟨ending, hending, h⟩ := (hinterpret namedTool [] ⟨[]⟩).2 rfl
    rw [h]
    exact (Except.ok.inj hending).symm

end RoundTrip
