import RoundTrip.Batch
import RoundTrip.Proofs.Run.Yields

/-!
# Two runs with different tools

Two runs are compared whose tools need not have the same memory. A relation between worlds says
which moments of the two correspond, and the tools agree up to it (`Tools.Agree`) if in worlds that
correspond they see the same files and the same time, answer the same, make the same remarks and
leave worlds that correspond again. One exception is made: where the assembler of the first run
fails, nothing is asked of the second.

Actions that call no assembler then agree in all that they do (`Run.Agree`), whatever the streams
are. Actions that call it agree until an assembler fails (`Run.AgreeUntil`): either both come to the
same end, or the first stops with this failure and nothing follows the call (`Run.StopsAt`), and all
that stands before the call is what the second does first. Each function of a run keeps this, so a
run over suites does (`batch_agree`).
-/

namespace RoundTrip

/-- Two outcomes agree: the same value, the same events, and states that correspond. -/
structure Outcome.Agree {ε σ τ α : Type} (R : σ → τ → Prop) (out : Outcome ε σ α)
    (out' : Outcome ε τ α) : Prop where
  value : out'.value = out.value
  events : out'.events = out.events
  state : R out.state out'.state

/-- Outcomes of actions that are done one after the other agree if those of both parts do. -/
theorem Outcome.Agree.bind {ε σ τ α β : Type} {R : σ → τ → Prop} {act : Act ε σ α}
    {act' : Act ε τ α} {next : α → Act ε σ β} {next' : α → Act ε τ β} {s : σ} {s' : τ}
    (h : Outcome.Agree R (act.run s) (act'.run s'))
    (hnext : Outcome.Agree R ((next (act.run s).value).run (act.run s).state)
      ((next' (act.run s).value).run (act'.run s').state)) :
    Outcome.Agree R ((act >>= next).run s) ((act' >>= next').run s') := by
  simp only [Act.run_bind]
  rw [h.value, h.events]
  exact ⟨hnext.value, congrArg _ hnext.events, hnext.state⟩

variable {μ ν α β : Type}

/-- Two sites agree: their worlds correspond, and both are cancelled or none is. -/
structure Site.Agree (W : World μ → World ν → Prop) (s : Site μ) (s' : Site ν) : Prop where
  world : W s.world s'.world
  cancelled : s'.cancelled = s.cancelled

/-- Tools agree in worlds that correspond, but for what is done where the assembler of the first
fails. -/
structure Tools.Agree (W : World μ → World ν → Prop) (tools : Tools μ) (tools' : Tools ν) :
    Prop where
  files : ∀ {w w'}, W w w' → w'.files = w.files
  clock : ∀ {w w'}, W w w' → tools'.clock w' = tools.clock w
  assemble : ∀ {w w'} (text : Path) (code : Int32), W w w' →
    ((tools.assemble text).run w).value = .ok code →
    Outcome.Agree W ((tools.assemble text).run w) ((tools'.assemble text).run w')
  interpret : ∀ {w w'} (binary : Path), W w w' →
    Outcome.Agree W ((tools.interpret binary).run w) ((tools'.interpret binary).run w')
  prepare : ∀ {w w'} (name : String) (suite : Suite) (dir : Path), W w w' →
    Outcome.Agree W ((tools.prepare name suite dir).run w) ((tools'.prepare name suite dir).run w')
  afterMark : ∀ {w w'} (passed : Bool), W w w' →
    Outcome.Agree W ((tools.afterMark passed).run w) ((tools'.afterMark passed).run w')
  afterSummary : ∀ {w w'} (suite : String) (verdict : Verdict), W w w' →
    Outcome.Agree W ((tools.afterSummary suite verdict).run w)
      ((tools'.afterSummary suite verdict).run w')

namespace Run

variable {W : World μ → World ν → Prop}

/-! ## Actions that agree -/

/-- Two actions agree in sites that agree. -/
def Agree (W : World μ → World ν → Prop) (act : Run μ α) (act' : Run ν α) : Prop :=
  ∀ ⦃s s'⦄, Site.Agree W s s' → Outcome.Agree (Site.Agree W) (act.run s) (act'.run s')

namespace Agree

theorem pure (x : α) : Agree W (Pure.pure x) (Pure.pure x) := fun _ _ h => ⟨rfl, rfl, h⟩

theorem emit (e : Event) : Agree W (Act.emit e) (Act.emit e) := fun _ _ h => ⟨rfl, rfl, h⟩

theorem note (n : Notice) : Agree W (Run.note n) (Run.note n) := emit _

theorem see {f : Site μ → α} {f' : Site ν → α} (hf : ∀ {s s'}, Site.Agree W s s' → f' s' = f s) :
    Agree W (Act.see f) (Act.see f') := fun _ _ h => ⟨hf h, rfl, h⟩

/-- What is written to the streams makes no difference. -/
theorem write (f f' : Streams → Streams) : Agree W (Run.write f) (Run.write f') :=
  fun _ _ h => ⟨rfl, rfl, h.world, h.cancelled⟩

/-- A call of tools that agree. -/
theorem perform_of {tool : Tool μ α} {tool' : Tool ν α} {s : Site μ} {s' : Site ν}
    (hs : Site.Agree W s s') (h : Outcome.Agree W (tool.run s.world) (tool'.run s'.world)) :
    Outcome.Agree (Site.Agree W) ((Run.perform tool).run s) ((Run.perform tool').run s') where
  value := h.value
  events := congrArg (List.map Event.remark) h.events
  state := ⟨h.state, by simp only [Run.perform, Act.run] at *; rw [hs.cancelled, h.events]⟩

theorem perform {tool : Tool μ α} {tool' : Tool ν α}
    (h : ∀ {w w'}, W w w' → Outcome.Agree W (tool.run w) (tool'.run w')) :
    Agree W (Run.perform tool) (Run.perform tool') := fun _ _ hs => perform_of hs (h hs.world)

/-- Actions that agree do so one after the other. -/
theorem bind {act : Run μ α} {act' : Run ν α} {next : α → Run μ β} {next' : α → Run ν β}
    (h : Agree W act act') (hnext : ∀ x, Agree W (next x) (next' x)) :
    Agree W (act >>= next) (act' >>= next') :=
  fun _ _ hs => (h hs).bind (hnext _ (h hs).state)

theorem noteAll (ns : List Notice) : Agree W (Run.noteAll ns) (Run.noteAll ns) := by
  induction ns with
  | nil => exact pure ()
  | cons n ns ih => exact bind (note n) fun _ => ih

end Agree

/-! ## Actions that an assembler stops -/

/-- An action stops with the failure of the assembler, which is called for a text in a site behind
some events, and nothing follows the call. -/
structure StopsAt (tools : Tools μ) (act : Run μ (Attempt α)) (s : Site μ) (front : List Event)
    (text : Path) (t : Site μ) (f : Failure) : Prop where
  answers : Answers (tools.assemble text) t (.error f) (act.run s).state
  value : (act.run s).value = .error f
  events : (act.run s).events =
    front ++ .assembling text :: ((perform (tools.assemble text)).run t).events

namespace StopsAt

variable {tools : Tools μ} {s t : Site μ} {front : List Event} {text : Path} {f : Failure}

/-- An action that stops does so behind others. -/
theorem behind {act : Run μ α} {next : α → Run μ (Attempt β)}
    (h : StopsAt tools (next (act.run s).value) (act.run s).state front text t f) :
    StopsAt tools (act >>= next) s ((act.run s).events ++ front) text t f where
  answers := h.answers
  value := h.value
  events := by simp only [Act.run_bind, h.events, List.append_assoc]

/-- What passes a failure on does nothing behind an action that stops. -/
theorem passedOn {act : Run μ (Attempt α)} {next : Attempt α → Run μ (Attempt β)}
    (h : StopsAt tools act s front text t f) (hnext : ∀ f, next (.error f) = pure (.error f)) :
    StopsAt tools (act >>= next) s front text t f where
  answers := by
    rw [Act.run_bind, h.value, hnext]
    exact h.answers
  value := by simp only [Act.run_bind, h.value, hnext, Act.run_pure]
  events := by
    simp only [Act.run_bind, h.value, hnext, Act.run_pure, List.append_nil, h.events]

/-- A call of the assembler that fails stops what passes failures on. -/
theorem assembling {next : Attempt Int32 → Run μ (Attempt β)}
    (hnext : ∀ f, next (.error f) = pure (.error f))
    (h : ((perform (tools.assemble text)).run s).value = .error f) :
    StopsAt tools (do Act.emit (.assembling text); next (← perform (tools.assemble text))) s []
      text s f := by
  constructor <;> simp [h, hnext, Answers]

end StopsAt

/-- How two actions come out that are done in sites that agree: in the same way, or the first stops
with a failure of its assembler. Then all that stands before the call, and the call itself, is what
the second does first, and if it fails there as well, it stops there. -/
inductive Ends (W : World μ → World ν → Prop) (tools : Tools μ) (tools' : Tools ν)
    (act : Run μ (Attempt α)) (act' : Run ν (Attempt α)) (s : Site μ) (s' : Site ν) : Prop
  | alike {x : α} : (act.run s).value = .ok x →
      Outcome.Agree (Site.Agree W) (act.run s) (act'.run s') → Ends W tools tools' act act' s s'
  | stopped {front : List Event} {text : Path} {t : Site μ} {t' : Site ν} {f : Failure} :
      Site.Agree W t t' → StopsAt tools act s front text t f →
      front ++ [.assembling text] <+: (act'.run s').events →
      (∀ f', ((perform (tools'.assemble text)).run t').value = .error f' →
        StopsAt tools' act' s' front text t' f') →
      Ends W tools tools' act act' s s'

/-- Actions come out behind others that agree as they do alone. -/
theorem Ends.behind {tools : Tools μ} {tools' : Tools ν} {s : Site μ} {s' : Site ν}
    {act : Run μ α} {act' : Run ν α} {next : α → Run μ (Attempt β)} {next' : α → Run ν (Attempt β)}
    (h : Outcome.Agree (Site.Agree W) (act.run s) (act'.run s'))
    (hnext : Ends W tools tools' (next (act.run s).value) (next' (act.run s).value)
      (act.run s).state (act'.run s').state) :
    Ends W tools tools' (act >>= next) (act' >>= next') s s' := by
  cases hnext with
  | alike hx hagree => exact .alike hx (h.bind hagree)
  | stopped ht hstop hfront hagain =>
    refine .stopped ht hstop.behind ?_ fun f' hf' => ?_
    · rw [Act.run_bind, h.value, h.events, List.append_assoc]
      exact (List.prefix_append_right_inj _).2 hfront
    · rw [← h.events]
      refine StopsAt.behind ?_
      rw [h.value]
      exact hagain f' hf'

/-- Two actions agree until an assembler fails. -/
def AgreeUntil (W : World μ → World ν → Prop) (tools : Tools μ) (tools' : Tools ν)
    (act : Run μ (Attempt α)) (act' : Run ν (Attempt α)) : Prop :=
  ∀ ⦃s s'⦄, Site.Agree W s s' → Ends W tools tools' act act' s s'

namespace AgreeUntil

variable {tools : Tools μ} {tools' : Tools ν}

theorem pure (x : α) : AgreeUntil W tools tools' (Pure.pure (.ok x)) (Pure.pure (.ok x)) :=
  fun _ _ h => .alike rfl ⟨rfl, rfl, h⟩

/-- Actions that agree until an assembler fails do so behind actions that agree. -/
theorem behind {act : Run μ α} {act' : Run ν α} {next : α → Run μ (Attempt β)}
    {next' : α → Run ν (Attempt β)} (h : Agree W act act')
    (hnext : ∀ x, AgreeUntil W tools tools' (next x) (next' x)) :
    AgreeUntil W tools tools' (act >>= next) (act' >>= next') :=
  fun _ _ hs => .behind (h hs) (hnext _ (h hs).state)

/-- Actions that agree until an assembler fails do so one after the other, if both pass failures
on. -/
theorem bind {act : Run μ (Attempt α)} {act' : Run ν (Attempt α)}
    {next : Attempt α → Run μ (Attempt β)} {next' : Attempt α → Run ν (Attempt β)}
    (h : AgreeUntil W tools tools' act act')
    (hfail : ∀ f, next (.error f) = Pure.pure (.error f))
    (hfail' : ∀ f, next' (.error f) = Pure.pure (.error f))
    (hnext : ∀ x, AgreeUntil W tools tools' (next (.ok x)) (next' (.ok x))) :
    AgreeUntil W tools tools' (act >>= next) (act' >>= next') := by
  intro s s' hs
  cases h hs with
  | @alike x hx hagree =>
    refine .behind hagree ?_
    rw [hx]
    exact hnext x hagree.state
  | stopped ht hstop hfront hagain =>
    exact .stopped ht (hstop.passedOn hfail) (hfront.trans (List.prefix_append ..))
      fun f' hf' => (hagain f' hf').passedOn hfail'

/-- A call of the assembler is where the first action may stop. -/
theorem assemble (ht : tools.Agree W tools') (text : Path)
    {next : Attempt Int32 → Run μ (Attempt β)} {next' : Attempt Int32 → Run ν (Attempt β)}
    (hfail : ∀ f, next (.error f) = Pure.pure (.error f))
    (hfail' : ∀ f, next' (.error f) = Pure.pure (.error f))
    (hnext : ∀ code, AgreeUntil W tools tools' (next (.ok code)) (next' (.ok code))) :
    AgreeUntil W tools tools'
      (do Act.emit (.assembling text); next (← perform (tools.assemble text)))
      (do Act.emit (.assembling text); next' (← perform (tools'.assemble text))) := by
  intro s s' hs
  cases hx : ((perform (tools.assemble text)).run s).value with
  | ok code =>
    have hcall := Agree.perform_of hs (ht.assemble text code hs.world hx)
    refine .behind (Agree.emit _ hs) (.behind hcall ?_)
    simp only [Act.run_emit, hx]
    exact hnext code hcall.state
  | error f =>
    exact .stopped hs (.assembling hfail hx) (List.prefix_append ..) fun f' => .assembling hfail'

end AgreeUntil

section Agreeing

variable {tools : Tools μ} {tools' : Tools ν} (ht : tools.Agree W tools')

include ht

/-! ## Artifacts -/

theorem mark_agree (passed : Bool) : Agree W (mark tools passed) (mark tools' passed) :=
  .bind (.write _ _) fun _ => .bind (.emit _) fun _ => .perform (ht.afterMark passed)

theorem settle_agree (a : Artifact) (finding : Finding) :
    Agree W (settle tools a finding) (settle tools' a finding) :=
  .bind (.note _) fun _ => mark_agree ht _

theorem compare_agree (a : Artifact) : Agree W (compare tools a) (compare tools' a) :=
  .bind (.emit _) fun _ => .bind (.perform (ht.interpret _)) fun _ =>
    .bind (.emit _) fun _ => .bind (.perform (ht.interpret _)) fun _ =>
    .bind (.note _) fun _ => .pure _

theorem files_agree : Agree W (files : Run μ FileTree) (files : Run ν FileTree) :=
  .see fun hs => ht.files hs.world

theorem examineAssembled_agree (a : Artifact) (code : Int32) :
    Agree W (examineAssembled tools a code) (examineAssembled tools' a code) := by
  unfold examineAssembled
  split
  · exact .pure _
  · refine .bind (files_agree ht) fun t => ?_
    split
    · exact compare_agree ht a
    · exact .bind (.note _) fun _ => .pure _

/-- The examination of an artifact is where an assembler may fail. -/
theorem examine_agree (a : Artifact) :
    AgreeUntil W tools tools' (examine tools a) (examine tools' a) :=
  .assemble ht a.text (fun _ => rfl) (fun _ => rfl) fun code =>
    .behind (examineAssembled_agree ht a code) fun _ => .pure _

theorem examineAll_agree (found : Nat) (artifacts : List Artifact) (tally : Tally) :
    AgreeUntil W tools tools' (examineAll tools found artifacts tally)
      (examineAll tools' found artifacts tally) := by
  induction artifacts generalizing tally with
  | nil => exact .pure _
  | cons a rest ih =>
    refine .behind (.see fun hs => hs.cancelled) fun cancelled => ?_
    cases cancelled with
    | true => exact .behind (.note _) fun _ => .pure _
    | false =>
      exact .bind (examine_agree ht a) (fun _ => rfl) (fun _ => rfl) fun _ =>
        .behind (settle_agree ht a _) fun _ => ih _

theorem discover_agree (root : Path) :
    Agree W (discover root : Run μ (List Artifact)) (discover root : Run ν (List Artifact)) := by
  refine .bind (files_agree ht) fun t => ?_
  split
  · exact .bind (.noteAll _) fun _ => .pure _
  · exact .bind (.note _) fun _ => .pure _

theorem verify_agree (root : Path) :
    AgreeUntil W tools tools' (verify tools root) (verify tools' root) :=
  .behind (.note _) fun _ => .behind (discover_agree ht root) fun _ => .behind (.note _) fun _ =>
    .bind (examineAll_agree ht _ _ _) (fun _ => rfl) (fun _ => rfl) fun _ =>
    .behind (.bind (.write _ _) fun _ => .emit _) fun _ => .pure _

/-! ## Suites -/

theorem prepare_agree (name : String) (suite : Suite) (dir : Path) :
    Agree W (prepare tools name suite dir) (prepare tools' name suite dir) := by
  refine .bind (.emit _) fun _ => .bind (.perform (ht.prepare name suite dir)) fun status => ?_
  cases status with
  | failed => exact .bind (.note _) fun _ => .pure _
  | skipped | prepared => exact .pure _

theorem conclude_agree (name : String) (tally : Tally) :
    Agree W (conclude tools name tally) (conclude tools' name tally) :=
  .bind (.bind (.write _ _) fun _ => .bind (.emit _) fun _ => .perform (ht.afterSummary _ _))
    fun _ => .bind (.note _) fun _ => .pure _

theorem now_agree : Agree W (now tools) (now tools') := .see fun hs => ht.clock hs.world

theorem runSuite_agree (settings : Settings) (name : String) (suite : Suite) :
    AgreeUntil W tools tools' (runSuite tools settings name suite)
      (runSuite tools' settings name suite) :=
  .behind (now_agree ht) fun _ => .behind (.note _) fun _ =>
    .behind (prepare_agree ht _ _ _) fun _ =>
    .bind (verify_agree ht _) (fun _ => rfl) (fun _ => rfl) fun _ =>
    .behind (conclude_agree ht _ _) fun _ => .behind (now_agree ht) fun _ => .pure _

theorem runEachSuite_agree (settings : Settings) (suites : List (String × Suite))
    (ledger : Ledger) :
    AgreeUntil W tools tools' (runEachSuite tools settings suites ledger)
      (runEachSuite tools' settings suites ledger) := by
  induction suites generalizing ledger with
  | nil => exact .pure _
  | cons row rest ih =>
    obtain ⟨name, suite⟩ := row
    refine .behind (.see fun hs => hs.cancelled) fun cancelled => ?_
    cases cancelled with
    | true => exact .pure _
    | false =>
      exact .bind (runSuite_agree ht settings name suite) (fun _ => rfl) (fun _ => rfl) fun _ =>
        ih _

/-- Runs over suites agree until an assembler fails. -/
theorem batch_agree (generation : Generation) (settings : Settings) (runId : String)
    (suites : List (String × Suite)) :
    AgreeUntil W tools tools' (batch tools generation settings runId suites)
      (batch tools' generation settings runId suites) :=
  .behind (.emit _) fun _ => .behind (now_agree ht) fun _ => .behind (.note _) fun _ =>
    .bind (runEachSuite_agree ht settings suites _) (fun _ => rfl) (fun _ => rfl) fun _ =>
    .behind (now_agree ht) fun _ => .behind (.note _) fun _ => .pure _

end Agreeing

end Run

end RoundTrip
