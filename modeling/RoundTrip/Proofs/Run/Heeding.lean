import RoundTrip.Batch
import RoundTrip.Proofs.Run.Yields

/-!
# Heeding the flag that cancels a run

Any tool may ask for the run to be cancelled, at any call, and the run may have been cancelled
before it began. An action heeds this (`Run.Heeds`) if the flag is set behind it just if it was set
before it or a tool has asked, if it starts nothing when the flag is set before it, and if it starts
nothing behind the remark of a tool that asks. Two actions that heed the flag heed it one after the
other, because the second begins with the flag that the first has left (`Heeds.bind`).

An examination and the preparation of a corpus start something, so they heed the flag only where it
is not set; the walk and the run over suites look at the flag before each of them, so both heed it
everywhere (`examineAll_heeds`, `runEachSuite_heeds`).
-/

namespace RoundTrip

namespace Event

/-- Whether a tool asks for the run to be cancelled. -/
def isCancel : Event → Bool
  | .remark r => r.isCancel
  | _ => false

/-- Whether an artifact or a suite is started: an artifact with the call of the assembler, and a
suite with the preparation of its corpus. -/
def isStart : Event → Bool
  | .assembling _ | .preparing _ _ => true
  | _ => false

end Event

namespace Run

variable {μ α β : Type}

/-- An action that is done in a site heeds the flag that cancels a run. -/
structure Heeds (act : Run μ α) (s : Site μ) : Prop where
  flag : (act.run s).state.cancelled = (s.cancelled || (act.run s).events.any Event.isCancel)
  quiet : s.cancelled = true → ∀ e ∈ (act.run s).events, e.isStart = false
  afterCancel : (act.run s).events.Pairwise fun e later =>
    e.isCancel = true → later.isStart = false

variable {tools : Tools μ} {s : Site μ}

namespace Heeds

theorem pure (x : α) : Heeds (Pure.pure x : Run μ α) s :=
  ⟨(Bool.or_false _).symm, fun _ _ h => (nomatch h), .nil⟩

theorem see (f : Site μ → α) : Heeds (Act.see f : Run μ α) s :=
  ⟨(Bool.or_false _).symm, fun _ _ h => (nomatch h), .nil⟩

theorem write (f : Streams → Streams) : Heeds (Run.write f) s :=
  ⟨(Bool.or_false _).symm, fun _ _ h => (nomatch h), .nil⟩

/-- A change of the site that leaves the flag alone asks for nothing. -/
theorem change {f : Site μ → Site μ} (hf : (f s).cancelled = s.cancelled) :
    Heeds (Act.change f : Run μ Unit) s :=
  ⟨hf.trans (Bool.or_false _).symm, fun _ _ h => (nomatch h), .nil⟩

/-- An event that the run itself leaves asks for nothing. It may be the start of something unless
the flag is set. -/
theorem emit {e : Event} (he : e.isCancel = false) (hs : s.cancelled = true → e.isStart = false) :
    Heeds (Act.emit e : Run μ Unit) s where
  flag := by simp [he]
  quiet hc _ h := List.mem_singleton.1 h ▸ hs hc
  afterCancel := List.pairwise_singleton _ _

theorem note (n : Notice) : Heeds (Run.note n) s := emit rfl fun _ => rfl

/-- Two actions that heed the flag heed it one after the other. -/
theorem bind {act : Run μ α} {next : α → Run μ β} (h₁ : Heeds act s)
    (h₂ : Heeds (next (act.run s).value) (act.run s).state) : Heeds (act >>= next) s where
  flag := by simp only [Act.run_bind, h₂.flag, h₁.flag, List.any_append, Bool.or_assoc]
  quiet hs e he := by
    have hstate : (act.run s).state.cancelled = true := by rw [h₁.flag, hs, Bool.true_or]
    rcases List.mem_append.1 he with he | he
    · exact h₁.quiet hs e he
    · exact h₂.quiet hstate e he
  afterCancel := by
    refine List.pairwise_append.2 ⟨h₁.afterCancel, h₂.afterCancel, fun e he later hlater hc => ?_⟩
    -- what is behind the first action begins with the flag that a remark in it has set
    have hany : (act.run s).events.any Event.isCancel = true := List.any_eq_true.2 ⟨e, he, hc⟩
    have hstate : (act.run s).state.cancelled = true := by rw [h₁.flag, hany, Bool.or_true]
    exact h₂.quiet hstate later hlater

theorem noteAll (ns : List Notice) : Heeds (Run.noteAll ns) s := by
  induction ns with
  | nil => exact pure ()
  | cons n ns ih => exact bind (note n) ih

/-- A tool makes remarks alone, and starts nothing. -/
theorem perform (tool : Tool μ α) : Heeds (Run.perform tool) s := by
  have hstart : ∀ e ∈ ((Run.perform tool).run s).events, e.isStart = false := by
    intro e he
    obtain ⟨r, -, rfl⟩ := List.mem_map.1 he
    rfl
  refine ⟨?_, fun _ => hstart, ?_⟩
  · simp only [Run.perform, Act.run, List.any_map]
    rfl
  · exact List.pairwise_of_forall_mem_list fun _ _ later hlater _ => hstart later hlater

/-- Behind the remark of a tool that asks for the run to be cancelled nothing is started. -/
theorem not_isStart_behind {act : Run μ α} (h : Heeds act s) {front back : List Event} {e : Event}
    (hsplit : (act.run s).events = front ++ e :: back) (he : e.isCancel = true) :
    ∀ later ∈ back, later.isStart = false := by
  intro later hlater
  have hafter := h.afterCancel
  rw [hsplit, List.pairwise_append, List.pairwise_cons] at hafter
  exact hafter.2.1.1 later hlater he

end Heeds

/-! ## Artifacts -/

theorem mark_heeds (passed : Bool) : Heeds (mark tools passed) s :=
  .bind (.write _) (.bind (.emit rfl fun _ => rfl) (.perform _))

theorem settle_heeds (a : Artifact) (finding : Finding) : Heeds (settle tools a finding) s :=
  .bind (.note _) (mark_heeds _)

theorem compare_heeds (a : Artifact) : Heeds (compare tools a) s :=
  .bind (.emit rfl fun _ => rfl) (.bind (.perform _) (.bind (.emit rfl fun _ => rfl)
    (.bind (.perform _) (.bind (.note _) (.pure _)))))

theorem examineAssembled_heeds (a : Artifact) (code : Int32) :
    Heeds (examineAssembled tools a code) s := by
  unfold examineAssembled
  split
  · exact .pure _
  · refine .bind (.see _) ?_
    split
    · exact compare_heeds a
    · exact .bind (.note _) (.pure _)

/-- An examination is begun where the flag is not set. -/
theorem examine_heeds (a : Artifact) (hs : s.cancelled = false) : Heeds (examine tools a) s := by
  refine .bind (.emit rfl fun hc => absurd hc (by simp [hs])) (.bind (.perform _) ?_)
  split
  · exact .pure _
  · exact .bind (examineAssembled_heeds a _) (.pure _)

/-- A walk looks at the flag before each artifact. -/
theorem examineAll_heeds (found : Nat) (artifacts : List Artifact) (tally : Tally) :
    Heeds (examineAll tools found artifacts tally) s := by
  induction artifacts generalizing tally s with
  | nil => exact .pure _
  | cons a rest ih =>
    refine .bind (.see _) ?_
    split
    · exact .bind (.note _) (.pure _)
    · next hs =>
      refine .bind (examine_heeds a (Bool.eq_false_iff.2 hs)) ?_
      split
      · exact .pure _
      · exact .bind (settle_heeds a _) (ih _)

theorem discover_heeds (root : Path) : Heeds (discover root) s := by
  refine .bind (.see _) ?_
  split
  · exact .bind (.noteAll _) (.pure _)
  · exact .bind (.note _) (.pure _)

theorem verify_heeds (root : Path) : Heeds (verify tools root) s := by
  refine .bind (.note _) (.bind (discover_heeds root) (.bind (.note _)
    (.bind (examineAll_heeds _ _ _) ?_)))
  split
  · exact .pure _
  · exact .bind (.bind (.write _) (.emit rfl fun _ => rfl)) (.pure _)

/-! ## Suites -/

/-- The preparation of a corpus is begun where the flag is not set. -/
theorem prepare_heeds (name : String) (suite : Suite) (dir : Path) (hs : s.cancelled = false) :
    Heeds (prepare tools name suite dir) s := by
  refine .bind (.emit rfl fun hc => absurd hc (by simp [hs])) (.bind (.perform _) ?_)
  split
  · exact .bind (.note _) (.pure _)
  · exact .pure _

theorem conclude_heeds (name : String) (tally : Tally) : Heeds (conclude tools name tally) s :=
  .bind (.bind (.write _) (.bind (.emit rfl fun _ => rfl) (.perform _))) (.bind (.note _) (.pure _))

/-- A suite is begun where the flag is not set. -/
theorem runSuite_heeds (settings : Settings) (name : String) (suite : Suite)
    (hs : s.cancelled = false) : Heeds (runSuite tools settings name suite) s := by
  refine .bind (.see _) (.bind (.note _) (.bind (prepare_heeds _ _ _ hs)
    (.bind (verify_heeds _) ?_)))
  split
  · exact .pure _
  · exact .bind (conclude_heeds _ _) (.bind (.see _) (.pure _))

/-- A run over suites looks at the flag before each of them. -/
theorem runEachSuite_heeds (settings : Settings) (suites : List (String × Suite))
    (ledger : Ledger) :
    Heeds (runEachSuite tools settings suites ledger) s := by
  induction suites generalizing ledger s with
  | nil => exact .pure _
  | cons row rest ih =>
    obtain ⟨name, suite⟩ := row
    refine .bind (.see _) ?_
    split
    · exact .pure _
    · next hs =>
      refine .bind (runSuite_heeds settings name suite (Bool.eq_false_iff.2 hs)) ?_
      split
      · exact .pure _
      · exact ih _

theorem batch_heeds (generation : Generation) (settings : Settings) (runId : String)
    (suites : List (String × Suite)) :
    Heeds (batch tools generation settings runId suites) s := by
  refine .bind (.emit rfl fun _ => rfl) (.bind (.see _) (.bind (.note _)
    (.bind (runEachSuite_heeds settings suites _) ?_)))
  split
  · exact .pure _
  · exact .bind (.see _) (.bind (.note _) (.pure _))

end Run

end RoundTrip
