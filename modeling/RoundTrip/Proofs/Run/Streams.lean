import RoundTrip.Batch
import RoundTrip.Proofs.Run.Yields

/-!
# What the streams of a run hold

A sink with a limit holds the first bytes of all that was written to it, as many as the limit allows
(`Sink.filled`). A write that fits in part leaves such a sink, and so does a line, of which the
newline is not tried where the text before it did not fit: the sink is full by then, and would take
nothing of it (`Sink.putLine_filled`).

What a run writes is among its events (`Event.addition`), whether the streams take it or not. An
action fills the streams (`Run.Fills`) if they hold behind it what they held before, and behind that
what its events add, cut at the limit of each stream. Each function of a run does, so a run over
suites does (`batch_fills`).
-/

namespace RoundTrip

/-- The first bytes of a text, as many as a limit allows, or all of them without a limit. -/
def within (limit : Option Nat) (text : Bytes) : Bytes :=
  match limit with
  | none => text
  | some n => text.take n

/-- Nothing is cut off an empty text. -/
@[simp] theorem within_nil (limit : Option Nat) : within limit [] = [] := by
  cases limit <;> simp [within]

/-! ## Sinks -/

namespace Sink

/-- A sink with a limit to which a text was written. -/
def filled (limit : Option Nat) (text : Bytes) : Sink := { limit, held := within limit text }

/-- A write that need not fit is added to the text that was written. -/
theorem put_filled (limit : Option Nat) (text bytes : Bytes) :
    (filled limit text).put bytes = filled limit (text ++ bytes) := by
  cases limit with
  | none => rfl
  | some n =>
    have hroom : n - (text.take n).length = n - text.length := by
      rw [List.length_take]
      omega
    simp only [put, write, taken, filled, within, hroom, List.take_append]

/-- A sink that did not take all of a write is full: whatever is written behind it is lost. -/
theorem filled_append_of_write {limit : Option Nat} {text bytes : Bytes}
    (h : ((filled limit text).write bytes).1 = false) (more : Bytes) :
    filled limit (text ++ bytes ++ more) = filled limit (text ++ bytes) := by
  cases limit with
  | none => simp [write, taken, filled] at h
  | some n =>
    have hfull : n ≤ (text ++ bytes).length := by
      simp only [write, taken, filled, within, List.length_take, beq_eq_false_iff_ne] at h
      rw [List.length_append]
      omega
    simp only [filled, within, List.take_append_of_le_length hfull]

/-- A line is added to the text that was written, with its newline. -/
theorem putLine_filled (limit : Option Nat) (text : Bytes) (line : String) :
    (filled limit text).putLine line =
      filled limit (text ++ (Utf8.encode line ++ Utf8.encode "\n")) := by
  have hline : ((filled limit text).write (Utf8.encode line)).2 =
      filled limit (text ++ Utf8.encode line) := put_filled ..
  rw [putLine]
  cases hok : ((filled limit text).write (Utf8.encode line)).1 with
  | true => simp only [hok, if_true, hline, put_filled, List.append_assoc]
  | false =>
    simp only [hok, hline, Bool.false_eq_true, if_false]
    rw [← List.append_assoc, filled_append_of_write hok]

end Sink

/-- The bytes of a summary: a line for the message, and one for each artifact that fails. -/
def Verdict.text (v : Verdict) : Bytes :=
  (v.message :: v.failures).flatMap fun line => Utf8.encode line ++ Utf8.encode "\n"

/-- Lines are added to the text that was written. -/
theorem Sink.foldl_putLine_filled (limit : Option Nat) (text : Bytes) (lines : List String) :
    lines.foldl Sink.putLine (filled limit text) =
      filled limit (text ++ lines.flatMap fun line => Utf8.encode line ++ Utf8.encode "\n") := by
  induction lines generalizing text with
  | nil => simp
  | cons line lines ih => rw [List.foldl_cons, putLine_filled, ih, List.flatMap_cons,
      List.append_assoc]

/-! ## Streams -/

/-- A stream of a run. -/
inductive Outlet where
  /-- The one that takes a mark for each artifact. -/
  | progress
  /-- The one that takes the summaries of suites that pass. -/
  | out
  /-- The one that takes the summaries of all other suites. -/
  | err
  deriving DecidableEq

namespace Streams

/-- A stream. -/
def sink (s : Streams) : Outlet → Sink
  | .progress => s.progress
  | .out => s.out
  | .err => s.err

/-- Streams with limits to which nothing was written. -/
def limited (limits : Outlet → Option Nat) : Streams where
  progress := { limit := limits .progress }
  out := { limit := limits .out }
  err := { limit := limits .err }

/-- Streams with limits to which texts were written. -/
def filled (limits : Outlet → Option Nat) (texts : Outlet → Bytes) : Streams where
  progress := .filled (limits .progress) (texts .progress)
  out := .filled (limits .out) (texts .out)
  err := .filled (limits .err) (texts .err)

/-- Nothing was written to streams that hold nothing. -/
theorem limited_eq (limits : Outlet → Option Nat) : limited limits = filled limits fun _ => [] := by
  simp only [limited, filled, Sink.filled, within_nil]

/-- A stream holds what was written to it, up to its limit. -/
theorem held_sink_filled (limits : Outlet → Option Nat) (texts : Outlet → Bytes) (o : Outlet) :
    ((filled limits texts).sink o).held = within (limits o) (texts o) := by
  cases o <;> rfl

end Streams

/-- What an event adds to a stream. -/
def Event.addition (o : Outlet) : Event → Bytes
  | .marked passed => if o = .progress then Utf8.encode (markText passed) else []
  | .marksEnded => if o = .progress then Utf8.encode "\n" else []
  | .summarized _ v => if o = (if v.isSuccess then .out else .err) then v.text else []
  | _ => []

/-- What events add to a stream. -/
def Event.additions (o : Outlet) (events : List Event) : Bytes := events.flatMap (addition o)

namespace Event

@[simp] theorem additions_nil (o : Outlet) : additions o [] = [] := rfl

@[simp] theorem additions_cons (o : Outlet) (e : Event) (events : List Event) :
    additions o (e :: events) = e.addition o ++ additions o events := List.flatMap_cons

@[simp] theorem additions_append (o : Outlet) (front back : List Event) :
    additions o (front ++ back) = additions o front ++ additions o back := List.flatMap_append

/-- What is no step adds nothing. -/
theorem additions_filter_isStep (o : Outlet) (events : List Event) :
    additions o (events.filter isStep) = additions o events := by
  induction events with
  | nil => rfl
  | cons e events ih =>
    rw [additions_cons, ← ih]
    cases e with
    | remark | entered | noted | said => rfl
    | assembling | interpreting | preparing | marked | marksEnded | summarized => rfl

end Event

namespace Streams

variable (limits : Outlet → Option Nat) (texts : Outlet → Bytes)

/-- A mark is added to what was written. -/
theorem mark_filled (passed : Bool) : (filled limits texts).mark passed =
    filled limits fun o => texts o ++ Event.additions o [.marked passed] := by
  simp [mark, filled, Sink.put_filled, Event.addition]

/-- The end of the marks is added to what was written. -/
theorem markEnd_filled : (filled limits texts).markEnd =
    filled limits fun o => texts o ++ Event.additions o [.marksEnded] := by
  simp [markEnd, filled, Sink.put_filled, Event.addition]

/-- A summary is added to what was written. -/
theorem summary_filled (suite : String) (v : Verdict) : (filled limits texts).summary v =
    filled limits fun o => texts o ++ Event.additions o [.summarized suite v] := by
  have hlines : v.lines.flatMap (fun line => Utf8.encode line ++ Utf8.encode "\n") = v.text := rfl
  rw [summary, Verdict.channel]
  cases h : v.isSuccess <;> simp [filled, Sink.foldl_putLine_filled, Event.addition, hlines, h]

end Streams

namespace Run

variable {μ α β : Type}

/-! ## Actions that fill the streams -/

/-- Whatever was written to the streams before an action, what its events add is written to them by
the action, and each stream holds as much of it all as its limit allows. -/
def Fills (act : Run μ α) : Prop :=
  ∀ ⦃s limits texts⦄, s.streams = .filled limits texts → (act.run s).state.streams =
    .filled limits fun o => texts o ++ Event.additions o (act.run s).events

namespace Fills

/-- An action that writes nothing and does not touch the streams. -/
theorem of_quiet {act : Run μ α} (hstreams : ∀ s, (act.run s).state.streams = s.streams)
    (hevents : ∀ s o, Event.additions o (act.run s).events = []) : Fills act := by
  intro s limits texts hs
  simp only [hstreams, hs, hevents, List.append_nil]

theorem pure (x : α) : Fills (Pure.pure x : Run μ α) := of_quiet (fun _ => rfl) fun _ _ => rfl

theorem see (f : Site μ → α) : Fills (Act.see f : Run μ α) := of_quiet (fun _ => rfl) fun _ _ => rfl

/-- An event that adds nothing. -/
theorem emit {e : Event} (h : ∀ o, e.addition o = []) : Fills (Act.emit e : Run μ Unit) :=
  of_quiet (fun _ => rfl) fun _ o => by simp [h]

theorem note (n : Notice) : Fills (Run.note n : Run μ Unit) := emit fun _ => rfl

/-- A tool writes to no stream. -/
theorem perform (tool : Tool μ α) : Fills (Run.perform tool) := by
  refine of_quiet (fun _ => rfl) fun s o => ?_
  refine List.flatMap_eq_nil_iff.2 fun e he => ?_
  obtain ⟨r, -, rfl⟩ := List.mem_map.1 he
  rfl

/-- What a change of the streams adds may be left as an event behind it. -/
theorem writing {f : Streams → Streams} {e : Event}
    (h : ∀ limits texts, f (.filled limits texts) =
      .filled limits fun o => texts o ++ Event.additions o [e]) :
    Fills (do write f; Act.emit e : Run μ Unit) := by
  intro s limits texts hs
  exact (congrArg f hs).trans (h limits texts)

/-- Actions that fill the streams do so one after the other. -/
theorem bind {act : Run μ α} {next : α → Run μ β} (h : Fills act) (hnext : ∀ x, Fills (next x)) :
    Fills (act >>= next) := by
  intro s limits texts hs
  simp only [Act.run_bind, hnext _ (h hs), Event.additions_append, List.append_assoc]

/-- Something is written before another action. -/
theorem writingFirst {f : Streams → Streams} {e : Event} {next : Unit → Run μ α}
    (h : ∀ limits texts, f (.filled limits texts) =
      .filled limits fun o => texts o ++ Event.additions o [e]) (hnext : ∀ x, Fills (next x)) :
    Fills (do write f; Act.emit e; next ()) := by
  have hboth : Fills (do (do write f; Act.emit e : Run μ Unit); next ()) := bind (writing h) hnext
  exact hboth

theorem noteAll (ns : List Notice) : Fills (Run.noteAll ns : Run μ Unit) := by
  induction ns with
  | nil => exact pure ()
  | cons n ns ih => exact bind (note n) fun _ => ih

end Fills

variable (tools : Tools μ)

/-! ## Artifacts -/

theorem mark_fills (passed : Bool) : Fills (mark tools passed) :=
  .writingFirst (fun limits texts => Streams.mark_filled limits texts passed) fun _ => .perform _

theorem settle_fills (a : Artifact) (finding : Finding) : Fills (settle tools a finding) :=
  .bind (.note _) fun _ => mark_fills tools _

theorem compare_fills (a : Artifact) : Fills (compare tools a) :=
  .bind (.emit fun _ => rfl) fun _ => .bind (.perform _) fun _ =>
    .bind (.emit fun _ => rfl) fun _ => .bind (.perform _) fun _ =>
    .bind (.note _) fun _ => .pure _

theorem examineAssembled_fills (a : Artifact) (code : Int32) :
    Fills (examineAssembled tools a code) := by
  unfold examineAssembled
  split
  · exact .pure _
  · refine .bind (.see _) fun files => ?_
    split
    · exact compare_fills tools a
    · exact .bind (.note _) fun _ => .pure _

theorem examine_fills (a : Artifact) : Fills (examine tools a) := by
  refine .bind (.emit fun _ => rfl) fun _ => .bind (.perform _) fun answer => ?_
  cases answer with
  | error f => exact .pure _
  | ok code => exact .bind (examineAssembled_fills tools a code) fun _ => .pure _

theorem examineAll_fills (found : Nat) (artifacts : List Artifact) (tally : Tally) :
    Fills (examineAll tools found artifacts tally) := by
  induction artifacts generalizing tally with
  | nil => exact .pure _
  | cons a rest ih =>
    refine .bind (.see _) fun cancelled => ?_
    split
    · exact .bind (.note _) fun _ => .pure _
    · refine .bind (examine_fills tools a) fun answer => ?_
      cases answer with
      | error f => exact .pure _
      | ok finding => exact .bind (settle_fills tools a finding) fun _ => ih _

theorem discover_fills (root : Path) : Fills (discover root : Run μ (List Artifact)) := by
  refine .bind (.see _) fun files => ?_
  split
  · exact .bind (.noteAll _) fun _ => .pure _
  · exact .bind (.note _) fun _ => .pure _

theorem verify_fills (root : Path) : Fills (verify tools root) := by
  refine .bind (.note _) fun _ => .bind (discover_fills root) fun artifacts =>
    .bind (.note _) fun _ => .bind (examineAll_fills tools _ _ _) fun answer => ?_
  cases answer with
  | error f => exact .pure _
  | ok tally =>
    exact .bind (.writing Streams.markEnd_filled) fun _ => .pure _

/-! ## Suites -/

theorem prepare_fills (name : String) (suite : Suite) (dir : Path) :
    Fills (prepare tools name suite dir) := by
  refine .bind (.emit fun _ => rfl) fun _ => .bind (.perform _) fun status => ?_
  cases status with
  | failed => exact .bind (.note _) fun _ => .pure _
  | skipped | prepared => exact .pure _

theorem conclude_fills (name : String) (tally : Tally) : Fills (conclude tools name tally) :=
  .bind (.writingFirst (fun limits texts => Streams.summary_filled limits texts name _) fun _ =>
    .perform _) fun _ => .bind (.note _) fun _ => .pure _

theorem runSuite_fills (settings : Settings) (name : String) (suite : Suite) :
    Fills (runSuite tools settings name suite) := by
  refine .bind (.see _) fun _ => .bind (.note _) fun _ => .bind (prepare_fills tools _ _ _) fun _ =>
    .bind (verify_fills tools _) fun answer => ?_
  cases answer with
  | error f => exact .pure _
  | ok tally =>
    exact .bind (conclude_fills tools name tally) fun _ => .bind (.see _) fun _ => .pure _

theorem runEachSuite_fills (settings : Settings) (suites : List (String × Suite))
    (ledger : Ledger) : Fills (runEachSuite tools settings suites ledger) := by
  induction suites generalizing ledger with
  | nil => exact .pure _
  | cons row rest ih =>
    obtain ⟨name, suite⟩ := row
    refine .bind (.see _) fun cancelled => ?_
    split
    · exact .pure _
    · refine .bind (runSuite_fills tools settings name suite) fun answer => ?_
      cases answer with
      | error f => exact .pure _
      | ok entry => exact ih _

/-- A run over suites fills the streams. -/
theorem batch_fills (generation : Generation) (settings : Settings) (runId : String)
    (suites : List (String × Suite)) : Fills (batch tools generation settings runId suites) := by
  refine .bind (.emit fun _ => rfl) fun _ => .bind (.see _) fun _ => .bind (.note _) fun _ =>
    .bind (runEachSuite_fills tools settings suites _) fun answer => ?_
  cases answer with
  | error f => exact .pure _
  | ok ledger => exact .bind (.see _) fun _ => .bind (.note _) fun _ => .pure _

end Run

end RoundTrip
