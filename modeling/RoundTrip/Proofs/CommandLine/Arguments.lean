import RoundTrip.CommandLine.Arguments
import RoundTrip.Proofs.CommandLine.Planning

/-!
# The paths of a request

No option of a request is a path without bytes (`readRequest_named`): a value that is empty is no
path (`path?`), wherever it comes from. What is read of the arguments keeps this at every step
(`Reading.Named`), whichever side of the name of the task the option stands on.
-/

namespace RoundTrip

/-- No path that options name is empty. -/
structure Options.Named (o : Options) : Prop where
  config : ∀ p ∈ o.config, p.isEmpty = false
  cacheDir : ∀ p ∈ o.cacheDir, p.isEmpty = false
  toolDirs : ∀ p ∈ o.toolDirs, p.isEmpty = false
  reportTo : ∀ p ∈ o.reportTo, p.isEmpty = false

/-- Options that name nothing. -/
theorem Options.named_default : ({} : Options).Named := ⟨nofun, nofun, nofun, nofun⟩

/-- The options of two places name what those of one of them name. -/
theorem Options.Named.before {o o' : Options} (h : o.Named) (h' : o'.Named) :
    (o.before o').Named := by
  have hor : ∀ {x y : Option Path}, (∀ p ∈ x, p.isEmpty = false) → (∀ p ∈ y, p.isEmpty = false) →
      ∀ p ∈ x.or y, p.isEmpty = false := by
    rintro (_ | x) y hx hy
    · exact hy
    · exact hx
  refine ⟨hor h.config h'.config, hor h.cacheDir h'.cacheDir, ?_, hor h.reportTo h'.reportTo⟩
  rw [Options.before]
  split
  · exact h'.toolDirs
  · exact h.toolDirs

namespace CommandLine

/-- A value that is a path is not empty. -/
theorem isEmpty_of_path? {value : Bytes} {p : Path} (h : path? value = some p) :
    p.isEmpty = false := by
  rw [path?] at h
  split at h
  · cases h
  · next hvalue =>
    cases h
    exact Bool.eq_false_iff.2 hvalue

/-- A path that is taken in is not empty. -/
theorem isEmpty_of_once {old new : Option Path} {value : Bytes}
    (h : once old (path? value) = some new) : ∀ p ∈ new, p.isEmpty = false := by
  cases old with
  | some => cases h
  | none =>
    obtain ⟨p, hp, rfl⟩ := Option.map_eq_some_iff.1 h
    rintro _ ⟨⟩
    exact isEmpty_of_path? hp

namespace Reading

/-- No path among the options so far is empty. -/
def Named (r : Reading) : Prop := r.options.Named

variable {r r' : Reading} {s : Switch} {value : Bytes}

/-- Taking in an option with a value keeps all paths named. -/
theorem Named.put? (h : r.Named) (hput : r.put? value s = some r') : r'.Named := by
  cases s with
  | config =>
    obtain ⟨new, hnew, ⟨⟩⟩ := Option.bind_eq_some_iff.1 hput
    exact { h with config := isEmpty_of_once hnew }
  | cacheDir =>
    obtain ⟨new, hnew, ⟨⟩⟩ := Option.bind_eq_some_iff.1 hput
    exact { h with cacheDir := isEmpty_of_once hnew }
  | reportTo =>
    obtain ⟨new, hnew, ⟨⟩⟩ := Option.bind_eq_some_iff.1 hput
    exact { h with reportTo := isEmpty_of_once hnew }
  | toolDir =>
    obtain ⟨dir, hdir, ⟨⟩⟩ := Option.bind_eq_some_iff.1 hput
    refine { h with toolDirs := List.forall_mem_append.2 ⟨h.toolDirs, ?_⟩ }
    simpa using isEmpty_of_path? hdir
  | timeoutSecs | generation =>
    obtain ⟨new, -, ⟨⟩⟩ := Option.bind_eq_some_iff.1 hput
    exact { h with }
  | verbose | json | help | version => cases hput

/-- Taking in an option with a value keeps all paths named. -/
theorem Named.put (h : r.Named) (hput : r.put s value = .ok r') : r'.Named := by
  rw [Reading.put] at hput
  split at hput
  · next hsome =>
    cases hput
    exact h.put? hsome
  · cases hput

/-- Checking the value that waits keeps all paths named. -/
theorem Named.settle (h : r.Named) (hsettle : r.settle = .ok r') : r'.Named := by
  rw [Reading.settle] at hsettle
  split at hsettle
  · cases hsettle
    exact h
  · exact Named.put (r := { r with waiting := none }) h hsettle

/-- Taking in an option that has no value keeps all paths named. -/
theorem Named.raise (h : r.Named) (hraise : r.raise s = .ok r') : r'.Named := by
  obtain ⟨r₁, hsettle, hraise⟩ := bind_eq_ok_iff.1 hraise
  have h₁ := h.settle hsettle
  cases s with
  | verbose | json =>
    dsimp only at hraise
    split at hraise
    · cases hraise
    · cases hraise
      exact { h₁ with }
  | help | version | config | cacheDir | toolDir | timeoutSecs | reportTo | generation =>
    cases hraise

/-- Taking in an option with a value that is attached to it keeps all paths named. -/
theorem Named.give (h : r.Named) (hgive : r.give s value = .ok r') : r'.Named := by
  obtain ⟨r₁, hsettle, hput⟩ := bind_eq_ok_iff.1 hgive
  exact (h.settle hsettle).put hput

/-- Taking in an option with a value that is a word keeps all paths named. -/
theorem Named.await (h : r.Named) (hawait : r.await s value = .ok r') : r'.Named := by
  obtain ⟨r₁, hsettle, ⟨⟩⟩ := bind_eq_ok_iff.1 hawait
  have h₁ := h.settle hsettle
  exact { h₁ with }

/-- Taking in a word that belongs to no option keeps all paths named. -/
theorem Named.addWord {t : TaskName} {word : Bytes} (h : r.Named)
    (hadd : r.addWord t word = .ok r') : r'.Named := by
  obtain ⟨r₁, hsettle, hadd⟩ := bind_eq_ok_iff.1 hadd
  obtain ⟨-, rfl⟩ := guarded_eq_ok_iff.1 hadd
  have h₁ := h.settle hsettle
  exact { h₁ with }

end Reading

variable {side : Side} {r r' : Reading} {more : Option Switch}

/-- Reading an option by its name keeps all paths named. -/
theorem readName_named {name : Bytes} {value : Option Bytes} (hr : r.Named)
    (h : readName side name value r = .ok (r', more)) : r'.Named := by
  unfold readName at h
  split at h
  · cases h
  · split at h
    · obtain ⟨r₁, hgive, ⟨⟩⟩ := map_eq_ok_iff.1 h
      exact hr.give hgive
    · cases h
  · split at h
    · cases h
      exact hr
    · obtain ⟨r₁, hraise, ⟨⟩⟩ := map_eq_ok_iff.1 h
      exact hr.raise hraise

/-- Reading options by their letters keeps all paths named. -/
theorem readLetters_named {letters : Bytes} (hr : r.Named)
    (h : readLetters side letters r = .ok (r', more)) : r'.Named := by
  induction letters generalizing r with
  | nil =>
    cases h
    exact hr
  | cons b letters ih =>
    rw [readLetters] at h
    split at h
    · cases h
    · split at h
      · split at h
        · cases h
          exact hr
        · obtain ⟨r₁, hgive, ⟨⟩⟩ := map_eq_ok_iff.1 h
          exact hr.give hgive
      · obtain ⟨r₁, hraise, h⟩ := bind_eq_ok_iff.1 h
        exact ih (hr.raise hraise) h

/-- Reading the options of an argument keeps all paths named. -/
theorem readOptions_named {form : Form} (hr : r.Named)
    (h : readOptions side r form = .ok (r', more)) : r'.Named := by
  cases form with
  | named => exact readName_named hr h
  | lettered => exact readLetters_named hr h
  | word | dashes =>
    cases h
    exact hr

/-- Reading words keeps all paths named. -/
theorem foldlM_addWord_named {t : TaskName} {words : List Bytes} (hr : r.Named)
    (h : words.foldlM (·.addWord t) r = .ok r') : r'.Named := by
  induction words generalizing r with
  | nil =>
    cases h
    exact hr
  | cons word words ih =>
    rw [List.foldlM_cons] at h
    obtain ⟨r₁, hadd, h⟩ := bind_eq_ok_iff.1 h
    exact ih (hr.addWord hadd) h

/-- What is read of the arguments on a side begins with the first of them. -/
theorem readSide_cons (side : Side) (arg : Bytes) (rest : List Bytes) (r : Reading) :
    readSide side (arg :: rest) r = (do
      match Form.of arg, side with
      | .word, .front => return (r, arg :: rest)
      | .word, .behind t => readSide side rest (← r.addWord t arg)
      | .dashes, .front => .error .misuse
      | .dashes, .behind t => return (← rest.foldlM (·.addWord t) r, [])
      | form, _ =>
        match ← readOptions side r form, rest with
        | (r, none), rest => readSide side rest r
        | (_, some _), [] => .error .misuse
        | (r, some s), value :: rest =>
          if Form.of value = .word then readSide side rest (← r.await s value)
          else .error .misuse) := by
  -- the rest is split behind a step that may fail, so that the recursion has no equation of its own
  delta readSide readSide._f
  dsimp only [List.brecOn, List.brecOn.go]
  generalize Form.of arg = form
  cases form with
  | word | dashes => cases side <;> rfl
  | named | lettered =>
    refine congrArg (bind _) (funext fun p => ?_)
    obtain ⟨r, _ | s⟩ := p <;> cases rest <;> rfl

/-- Reading the arguments on one side keeps all paths named. -/
theorem readSide_named {args rest : List Bytes} (hr : r.Named)
    (h : readSide side args r = .ok (r', rest)) : r'.Named := by
  -- by induction on the number of arguments, since an option may take the next one as its value
  induction hn : args.length using Nat.strongRecOn generalizing args r with
  | ind n ih =>
    subst hn
    cases args with
    | nil =>
      cases h
      exact hr
    | cons arg args =>
      have hargs : args.length < (arg :: args).length := Nat.lt_succ_self _
      rw [readSide_cons] at h
      split at h
      · cases h
        exact hr
      · obtain ⟨r₁, hadd, h⟩ := bind_eq_ok_iff.1 h
        exact ih _ hargs (hr.addWord hadd) h rfl
      · cases h
      · obtain ⟨r₁, hwords, ⟨⟩⟩ := bind_eq_ok_iff.1 h
        exact foldlM_addWord_named hr hwords
      · obtain ⟨⟨r₁, more⟩, hoptions, h⟩ := bind_eq_ok_iff.1 h
        have hr₁ := readOptions_named hr hoptions
        match more, args, h with
        | none, args, h => exact ih _ hargs hr₁ h rfl
        | some s, value :: args, h =>
          dsimp only at h
          split at h
          · obtain ⟨r₂, hawait, h⟩ := bind_eq_ok_iff.1 h
            exact ih _ (Nat.lt_trans (Nat.lt_succ_self _) hargs) (hr₁.await hawait) h rfl
          · cases h

/-- The cache root that a variable of the environment sets is not empty. -/
theorem named_of_cacheDirOf {fromEnv : Option Bytes} {front behind : Options}
    {cacheDir : Option Path} (h : cacheDirOf fromEnv front behind = .ok cacheDir) :
    ({ cacheDir } : Options).Named := by
  have hpath : ∀ p ∈ cacheDir, p.isEmpty = false := by
    unfold cacheDirOf at h
    split at h
    · cases h
      exact nofun
    · cases h
      exact nofun
    · split at h
      · next hdir =>
        cases h
        rintro _ ⟨⟩
        exact isEmpty_of_path? hdir
      · cases h
  exact { Options.named_default with cacheDir := hpath }

/-- No path that the options of a request name is empty. -/
theorem readRequest_named {args : List Bytes} {fromEnv : Option Bytes} {request : Request}
    (h : readRequest args fromEnv = .ok request) : request.options.Named := by
  have hnone : ({} : Reading).Named := Options.named_default
  obtain ⟨⟨front, rest⟩, hfront, h⟩ := bind_eq_ok_iff.1 h
  cases rest with
  | nil => cases h
  | cons name rest =>
    dsimp only at h
    split at h
    · cases h
    split at h
    · cases h
    next t ht =>
    obtain ⟨⟨behind, left⟩, hbehind, h⟩ := bind_eq_ok_iff.1 h
    obtain ⟨behind', hbehind', h⟩ := bind_eq_ok_iff.1 h
    obtain ⟨front', hfront', h⟩ := bind_eq_ok_iff.1 h
    obtain ⟨cacheDir, hcacheDir, h⟩ := bind_eq_ok_iff.1 h
    split at h
    · cases h
    next task htask =>
    cases h
    have hbehind := (readSide_named hnone hbehind).settle hbehind'
    have hfront := (readSide_named hnone hfront).settle hfront'
    exact (hbehind.before hfront).before (named_of_cacheDirOf hcacheDir)

/-- The request that is read from the words of a command line. -/
theorem readRequest_eq_ok {words : List String} {r : Request}
    (h : (readRequest (words.map Utf8.encode) none).toOption = some r) :
    readRequest (words.map Utf8.encode) none = .ok r := by
  cases hr : readRequest (words.map Utf8.encode) none with
  | error stop =>
    rw [hr] at h
    cases h
  | ok r' =>
    rw [hr] at h
    exact congrArg Except.ok (Option.some.inj h)

end CommandLine

end RoundTrip
