import MITuna.Store.SessionRetry

namespace MITuna.RocMLIR

/-!
# The rocMLIR worker's step

`RocMLIRWorker.step` (`tuna/rocmlir/rocmlir_worker.py`) runs one claimed job.
It marks the job `running` and runs the tuning command inside tenacity's
`Retrying(stop=stop_after_attempt(3), reraise=True)`.  It records `error` or
`completed` with `set_job_state`, and on success hands the output to
`process_result`, which inserts the parsed row through `session_retry`.
What the command, the result parser and the store do is an environment, so
every behaviour across attempts is one environment.  A run is the trace of
what reached the store.
-/

/-- `JobEnum` of the rocMLIR job tables. -/
inductive JobEnum
  | new
  | running
  | completed
  | error
  deriving Repr, DecidableEq

/-- The `result` that `set_job_state` is given: none, a text, or the
`ValueError` object itself. -/
inductive ResultArg
  | none
  | text (text : String)
  | exception (exc : Exc)
  deriving Repr, DecidableEq

/-- What `update_result_table` reads of the tuple `obj.parse` returns:
`perf_config`, `None` or a string, and `tflops`, `none` unless a string. -/
structure Parsed where
  perfConfig : Option String
  tflops : Option String
  deriving Repr, DecidableEq

/-- The sanity check `not perf_config or perf_config == 'None' or tflops == '-inf'`. -/
def Parsed.badData (parsed : Parsed) : Bool :=
  parsed.perfConfig.all String.isEmpty || parsed.perfConfig == some "None" ||
    parsed.tflops == some "-inf"

/-- What reached the store during a step, in order. -/
inductive Event
  | runCmd
  | recorded (state : JobEnum) (result : ResultArg)
  | inserted (parsed : Parsed)
  deriving Repr, DecidableEq

/-- What the world does during one step. -/
structure Environment where
  /-- `run_cmd()` on attempt `n`, from 0: what it raised, or `(retcode, cmd_output)`. -/
  runCmd : Nat → Except Exc (Int × String)
  /-- `obj.parse(result_str)`: the fields, or what it raised. -/
  parse : String → Except Exc Parsed
  /-- The store's answer to the results insert, call `k` of `session_retry` in attempt `n`. -/
  insert : Nat → Nat → Option Exc
  /-- The store's answer to the `UPDATE` of `set_job_state` for a state and a result. -/
  update : JobEnum → ResultArg → Option Exc

/-- `text.replace(old, new)` for a one-character `old`. -/
def replaceChar (old : Char) (new text : String) : String :=
  ⟨text.data.flatMap fun c => if c = old then new.data else [c]⟩

/-- Run `next` on the trace unless the first part raised. -/
def andThen (first : List Event × Option Exc) (next : List Event → List Event × Option Exc) :
    List Event × Option Exc :=
  match first with
  | (trace, none) => next trace
  | (trace, some exc) => (trace, some exc)

@[simp] theorem andThen_none (trace : List Event) (next : List Event → List Event × Option Exc) :
    andThen (trace, none) next = next trace := rfl

@[simp] theorem andThen_some (trace : List Event) (exc : Exc)
    (next : List Event → List Event × Option Exc) :
    andThen (trace, some exc) next = (trace, some exc) := rfl

/-- What the first part's trace has and every continuation keeps, the whole has. -/
theorem andThen_keeps {P : List Event → Prop} (first : List Event × Option Exc)
    (next : List Event → List Event × Option Exc) (start : P first.1)
    (keeps : ∀ trace, P trace → P (next trace).1) : P (andThen first next).1 := by
  rcases first with ⟨trace, _ | exc⟩
  · exact keeps trace start
  · exact start

section Step

variable (numSqlRetries : Nat) (env : Environment)

/--
Modelled from the spec: `set_job_state` (`tuna/worker_interface.py`) is not
in the source.  It writes the state and the result into the job's row and
commits when the store takes its `UPDATE`, and raises what the store raised
otherwise.
-/
def setJobState (state : JobEnum) (result : ResultArg) (trace : List Event) :
    List Event × Option Exc :=
  match env.update state result with
  | none => (trace ++ [.recorded state result], none)
  | some exc => (trace, some exc)

/-- `update_result_table` as call `k` of `session_retry` in attempt `n`. -/
def updateResultTable (n : Nat) (resultStr : String) : Actuator (List Event) Bool :=
  fun k trace =>
    match env.parse resultStr with
    | .error exc => .error exc
    | .ok parsed =>
        if parsed.badData then
          .ok (true, trace)
        else
          match env.insert n k with
          | none => .ok (true, trace ++ [.inserted parsed])
          | some exc => .error exc

/-- `process_result` in attempt `n`: the trace and what escaped it.  Its
`True` or `False` only reaches a log line. -/
def processResult (n : Nat) (resultStr : String) (trace : List Event) :
    List Event × Option Exc :=
  let retried := sessionRetry numSqlRetries (updateResultTable env n resultStr) trace
  match retried.result with
  | .error exc => (retried.store, some exc)
  | .ok _ => (retried.store, none)

/-- The body of `with attempt:` on attempt `n`. -/
def attemptBody (n : Nat) (trace : List Event) : List Event × Option Exc :=
  match env.runCmd n with
  | .error exc =>
      if exc.cls = .valueError then
        setJobState env .error (.exception exc) (trace ++ [.runCmd])
      else
        (trace ++ [.runCmd], some exc)
  | .ok (retcode, cmdOutput) =>
      if retcode ≠ 0 then
        setJobState env .error
          (.text ("Error code " ++ toString retcode ++ ", output " ++
            replaceChar '\'' "\\'" cmdOutput))
          (trace ++ [.runCmd])
      else
        andThen
          (setJobState env .completed (.text (replaceChar ':' "\\:" cmdOutput)) (trace ++ [.runCmd]))
          (processResult numSqlRetries env n (replaceChar ':' "\\:" cmdOutput))

end Step

/--
tenacity's `Retrying(reraise=True)` from attempt `n`, with `later` attempts
still allowed after it: the body runs until it does not raise, and the
exception of the last allowed attempt is re-raised.
-/
def retrying (body : Nat → List Event → List Event × Option Exc) :
    Nat → Nat → List Event → List Event × Option Exc
  | n, later, trace =>
      match body n trace with
      | (after, none) => (after, none)
      | (after, some exc) =>
          match later with
          | 0 => (after, some exc)
          | later + 1 => retrying body (n + 1) later after

/--
`RocMLIRWorker.step` once `get_job` has answered: what it returned, or what
escaped it, with the trace.  `stop_after_attempt(3)` allows two attempts
after the first.
-/
def step (numSqlRetries : Nat) (env : Environment) (claimed : Bool) :
    Except Exc Bool × List Event :=
  if !claimed then
    (.ok false, [])
  else
    match setJobState env .running .none [] with
    | (trace, some exc) => (.error exc, trace)
    | (trace, none) =>
        match retrying (attemptBody numSqlRetries env) 0 2 trace with
        | (trace, none) => (.ok true, trace)
        | (trace, some exc) =>
            match setJobState env .error (.text (replaceChar '\'' "\\'" exc.text)) trace with
            | (trace, none) => (.ok true, trace)
            | (trace, some raised) => (.error raised, trace)

/-- The states a trace records, in order. -/
def recordedStates (trace : List Event) : List JobEnum :=
  trace.filterMap fun
    | .recorded state _ => some state
    | _ => none

/-- The runs of the command in a trace. -/
def runs (trace : List Event) : Nat :=
  trace.count .runCmd

/-- The results rows a trace inserts, in order. -/
def insertedRows (trace : List Event) : List Parsed :=
  trace.filterMap fun
    | .inserted parsed => some parsed
    | _ => none

@[simp] theorem insertedRows_append (first second : List Event) :
    insertedRows (first ++ second) = insertedRows first ++ insertedRows second :=
  List.filterMap_append ..

@[simp] theorem insertedRows_nil : insertedRows [] = [] := rfl

@[simp] theorem insertedRows_runCmd (trace : List Event) :
    insertedRows (.runCmd :: trace) = insertedRows trace := rfl

@[simp] theorem insertedRows_recorded (state : JobEnum) (result : ResultArg)
    (trace : List Event) :
    insertedRows (.recorded state result :: trace) = insertedRows trace := rfl

@[simp] theorem insertedRows_inserted (parsed : Parsed) (trace : List Event) :
    insertedRows (.inserted parsed :: trace) = parsed :: insertedRows trace := rfl

@[simp] theorem runs_append (first second : List Event) :
    runs (first ++ second) = runs first + runs second :=
  List.count_append ..

@[simp] theorem recordedStates_append (first second : List Event) :
    recordedStates (first ++ second) = recordedStates first ++ recordedStates second :=
  List.filterMap_append ..

@[simp] theorem runs_nil : runs [] = 0 := rfl

@[simp] theorem runs_runCmd (trace : List Event) : runs (.runCmd :: trace) = runs trace + 1 :=
  List.count_cons_self ..

@[simp] theorem runs_recorded (state : JobEnum) (result : ResultArg) (trace : List Event) :
    runs (.recorded state result :: trace) = runs trace := rfl

@[simp] theorem runs_inserted (parsed : Parsed) (trace : List Event) :
    runs (.inserted parsed :: trace) = runs trace := rfl

@[simp] theorem recordedStates_nil : recordedStates [] = [] := rfl

@[simp] theorem recordedStates_runCmd (trace : List Event) :
    recordedStates (.runCmd :: trace) = recordedStates trace := rfl

@[simp] theorem recordedStates_recorded (state : JobEnum) (result : ResultArg)
    (trace : List Event) :
    recordedStates (.recorded state result :: trace) = state :: recordedStates trace := rfl

@[simp] theorem recordedStates_inserted (parsed : Parsed) (trace : List Event) :
    recordedStates (.inserted parsed :: trace) = recordedStates trace := rfl

/-! ## One attempt -/

section Attempt

variable {numSqlRetries : Nat} {env : Environment}

theorem setJobState_runs (state : JobEnum) (result : ResultArg) (trace : List Event) :
    runs (setJobState env state result trace).1 = runs trace := by
  unfold setJobState
  split <;> simp

theorem setJobState_of_accepts (accepts : ∀ state result, env.update state result = none)
    (state : JobEnum) (result : ResultArg) (trace : List Event) :
    setJobState env state result trace = (trace ++ [.recorded state result], none) := by
  simp [setJobState, accepts]

/-- The results insert neither runs the command nor records a state. -/
theorem updateResultTable_commits {n : Nat} {resultStr : String} {k : Nat}
    {trace committed : List Event} {value : Bool}
    (ok : updateResultTable env n resultStr k trace = .ok (value, committed)) :
    runs committed = runs trace ∧ recordedStates committed = recordedStates trace := by
  unfold updateResultTable at ok
  split at ok
  · cases ok
  · split_ifs at ok
    · cases ok
      exact ⟨rfl, rfl⟩
    · split at ok
      · cases ok
        simp
      · cases ok

theorem processResult_keeps (n : Nat) (resultStr : String) (trace : List Event) :
    runs (processResult numSqlRetries env n resultStr trace).1 = runs trace ∧
      recordedStates (processResult numSqlRetries env n resultStr trace).1 =
        recordedStates trace := by
  have kept := sessionRetry_store
    (P := fun after => runs after = runs trace ∧ recordedStates after = recordedStates trace)
    numSqlRetries (updateResultTable env n resultStr) trace ⟨rfl, rfl⟩
    fun _ _ _ => updateResultTable_commits
  unfold processResult
  dsimp only
  split <;> exact kept

/-- Each attempt runs the command once. -/
theorem attemptBody_runs (n : Nat) (trace : List Event) :
    runs (attemptBody numSqlRetries env n trace).1 = runs trace + 1 := by
  unfold attemptBody
  split
  · split_ifs <;> simp [setJobState_runs]
  · split_ifs
    · simp [setJobState_runs]
    · refine andThen_keeps (P := fun after => runs after = runs trace + 1) _ _ ?_
        fun after kept => (processResult_keeps _ _ after).1.trans kept
      simp [setJobState_runs]

/-- With a store that takes every write, an attempt that does not raise
leaves `error` recorded last, or `completed` when its command exited 0. -/
theorem attemptBody_settled (accepts : ∀ state result, env.update state result = none)
    {n : Nat} {trace after : List Event}
    (settled : attemptBody numSqlRetries env n trace = (after, none)) :
    (recordedStates after).getLast? = some .error ∨
      (recordedStates after).getLast? = some .completed ∧
        ∃ output, env.runCmd n = .ok (0, output) := by
  unfold attemptBody at settled
  split at settled
  · split_ifs at settled
    · rw [setJobState_of_accepts accepts] at settled
      cases settled
      simp
    · cases settled
  · rename_i retcode output ran
    split_ifs at settled with failed
    · rw [setJobState_of_accepts accepts] at settled
      cases settled
      simp
    · rw [setJobState_of_accepts accepts, andThen_none] at settled
      rw [not_not] at failed
      subst failed
      have result : (processResult numSqlRetries env n _ _).1 = after := congrArg Prod.fst settled
      refine .inr ⟨?_, output, ran⟩
      rw [← result, (processResult_keeps _ _ _).2]
      simp

/-- A `ValueError` from `run_cmd` is caught in the attempt and recorded as `error`. -/
theorem attemptBody_of_valueError {n : Nat} {exc : Exc} (raised : env.runCmd n = .error exc)
    (value : exc.cls = .valueError) (trace : List Event) :
    attemptBody numSqlRetries env n trace =
      setJobState env .error (.exception exc) (trace ++ [.runCmd]) := by
  simp [attemptBody, raised, value]

/-- Any other raise of `run_cmd` leaves the attempt to tenacity. -/
theorem attemptBody_of_raised {n : Nat} {exc : Exc} (raised : env.runCmd n = .error exc)
    (notValue : exc.cls ≠ .valueError) (trace : List Event) :
    attemptBody numSqlRetries env n trace = (trace ++ [.runCmd], some exc) := by
  simp [attemptBody, raised, notValue]

/-- A results parser that raises what `session_retry` does not catch makes the
exception escape `process_result`, with nothing inserted. -/
theorem processResult_of_escaping {numSqlRetries n : Nat} {resultStr : String} {exc : Exc}
    (retries : 0 < numSqlRetries) (raised : env.parse resultStr = .error exc)
    (notOperational : ¬ exc.cls.IsOperational) (notIntegrity : exc.cls ≠ .integrityError)
    (trace : List Event) :
    processResult numSqlRetries env n resultStr trace = (trace, some exc) := by
  obtain ⟨later, rfl⟩ : ∃ later, numSqlRetries = later + 1 :=
    ⟨numSqlRetries - 1, by omega⟩
  have escaped : sessionRetry (later + 1) (updateResultTable env n resultStr) trace =
      ⟨[.call], .error exc, trace⟩ :=
    sessionRetry_of_escaping (by simp [updateResultTable, raised]) notOperational notIntegrity
  simp [processResult, escaped]

/-- An attempt whose command exits 0 and whose result escapes `process_result`
records `completed` and leaves the exception to tenacity: it is raised in the
`else` clause, which the `except ValueError` does not cover. -/
theorem attemptBody_of_escaping_result {n : Nat} {output : String} {exc : Exc}
    (retries : 0 < numSqlRetries) (accepts : ∀ state result, env.update state result = none)
    (exited : env.runCmd n = .ok (0, output))
    (raised : env.parse (replaceChar ':' "\\:" output) = .error exc)
    (notOperational : ¬ exc.cls.IsOperational) (notIntegrity : exc.cls ≠ .integrityError)
    (trace : List Event) :
    attemptBody numSqlRetries env n trace =
      (trace ++ [.runCmd, .recorded .completed (.text (replaceChar ':' "\\:" output))],
        some exc) := by
  simp [attemptBody, exited, setJobState_of_accepts accepts,
    processResult_of_escaping retries raised notOperational notIntegrity]

end Attempt

/-! ## The attempts -/

/-- At most `later + 1` attempts run. -/
theorem runs_retrying_le (body : Nat → List Event → List Event × Option Exc)
    (once : ∀ n trace, runs (body n trace).1 = runs trace + 1) (n later : Nat)
    (trace : List Event) :
    runs (retrying body n later trace).1 ≤ runs trace + (later + 1) := by
  induction later generalizing n trace with
  | zero =>
      have ran := once n trace
      rw [retrying]
      rcases tried : body n trace with ⟨after, _ | exc⟩ <;> rw [tried] at ran <;>
        dsimp only at ran ⊢ <;> omega
  | succ later inductionHypothesis =>
      have ran := once n trace
      rw [retrying]
      rcases tried : body n trace with ⟨after, _ | exc⟩ <;> rw [tried] at ran <;>
        dsimp only at ran ⊢
      · omega
      · have rest := inductionHypothesis (n + 1) after
        omega

/-- tenacity leaves what one of the allowed attempts left. -/
theorem retrying_eq_body (body : Nat → List Event → List Event × Option Exc)
    (n later : Nat) (trace : List Event) :
    ∃ m, n ≤ m ∧ m ≤ n + later ∧ ∃ before, retrying body n later trace = body m before := by
  induction later generalizing n trace with
  | zero =>
      refine ⟨n, le_rfl, le_rfl, trace, ?_⟩
      rw [retrying]
      rcases body n trace with ⟨after, _ | exc⟩ <;> rfl
  | succ later inductionHypothesis =>
      rw [retrying]
      rcases tried : body n trace with ⟨after, _ | exc⟩
      · exact ⟨n, le_rfl, by omega, trace, tried.symm⟩
      · obtain ⟨m, low, high, before, equal⟩ := inductionHypothesis (n + 1) after
        exact ⟨m, by omega, by omega, before, equal⟩

/-! ## The step -/

/--
With a store that takes every write, a claimed job is never left `running`:
the step returns `True` with `error` recorded last, or `completed` when one
of the three attempts' command exited 0.
-/
theorem step_settles (numSqlRetries : Nat) (env : Environment)
    (accepts : ∀ state result, env.update state result = none) :
    (step numSqlRetries env true).1 = .ok true ∧
      ((recordedStates (step numSqlRetries env true).2).getLast? = some .error ∨
        (recordedStates (step numSqlRetries env true).2).getLast? = some .completed ∧
          ∃ n < 3, ∃ output, env.runCmd n = .ok (0, output)) := by
  unfold step
  simp only [Bool.not_true, Bool.false_eq_true, ↓reduceIte, setJobState_of_accepts accepts,
    List.nil_append]
  obtain ⟨m, -, high, before, equal⟩ :=
    retrying_eq_body (attemptBody numSqlRetries env) 0 2 [.recorded .running .none]
  rw [equal]
  rcases settled : attemptBody numSqlRetries env m before with ⟨after, _ | exc⟩
  · refine ⟨rfl, ?_⟩
    rcases attemptBody_settled accepts settled with last | ⟨last, output, ran⟩
    · exact .inl last
    · exact .inr ⟨last, m, by omega, output, ran⟩
  · simp [setJobState_of_accepts accepts]

/--
With a store that takes every write, a `run_cmd` that raises the same
exception on every attempt leaves the job `error`.  A `ValueError` is caught
inside the attempt, so the step stops after one run with the exception itself
as the result.  Any other exception reaches tenacity, which runs all three
attempts before the outer handler records its escaped text.
-/
theorem step_of_raising_runCmd (numSqlRetries : Nat) (env : Environment) (exc : Exc)
    (accepts : ∀ state result, env.update state result = none)
    (raises : ∀ n, env.runCmd n = .error exc) :
    step numSqlRetries env true =
      (.ok true, .recorded .running .none ::
        if exc.cls = .valueError then [.runCmd, .recorded .error (.exception exc)]
        else [.runCmd, .runCmd, .runCmd,
          .recorded .error (.text (replaceChar '\'' "\\'" exc.text))]) := by
  by_cases value : exc.cls = .valueError
  · simp [step, retrying, attemptBody_of_valueError (raises 0) value,
      setJobState_of_accepts accepts, value]
  · simp [step, retrying, attemptBody_of_raised (raises _) value,
      setJobState_of_accepts accepts, value]

/--
With a store that takes every write, a tuning command that exits 0 on every
attempt and a results parser that raises, on the escaped output, what
`session_retry` does not catch, the step records the job `completed` three
times and then `error`.  The exception escapes `process_result`, so tenacity
re-runs a job the worker has already recorded completed, and the outer
handler overwrites that state with the exception's text.
-/
theorem step_reruns_unrecorded_results (numSqlRetries : Nat) (env : Environment)
    (output : Nat → String) (failure : String → Exc) (retries : 0 < numSqlRetries)
    (accepts : ∀ state result, env.update state result = none)
    (exits : ∀ n, env.runCmd n = .ok (0, output n))
    (raises : ∀ text, env.parse text = .error (failure text))
    (escapes : ∀ text,
      ¬ (failure text).cls.IsOperational ∧ (failure text).cls ≠ .integrityError) :
    step numSqlRetries env true =
      (.ok true,
        [.recorded .running .none,
          .runCmd, .recorded .completed (.text (replaceChar ':' "\\:" (output 0))),
          .runCmd, .recorded .completed (.text (replaceChar ':' "\\:" (output 1))),
          .runCmd, .recorded .completed (.text (replaceChar ':' "\\:" (output 2))),
          .recorded .error (.text (replaceChar '\'' "\\'"
            (failure (replaceChar ':' "\\:" (output 2))).text))]) := by
  have attempt := fun n => attemptBody_of_escaping_result retries accepts (exits n)
    (raises _) (escapes _).1 (escapes _).2
  simp [step, retrying, attempt, setJobState_of_accepts accepts]

/-! ## Results rows -/

/-- What one attempt may insert: no row when it raises, otherwise at most one,
and then as its last event, with `completed` the state it recorded last. -/
def InsertsAtMostOne (before : List Event) (after : List Event × Option Exc) : Prop :=
  (after.2.isSome → insertedRows after.1 = insertedRows before) ∧
    (insertedRows after.1 = insertedRows before ∨
      ∃ parsed, insertedRows after.1 = insertedRows before ++ [parsed] ∧
        after.1.getLast? = some (.inserted parsed) ∧
        (recordedStates after.1).getLast? = some .completed)

theorem InsertsAtMostOne.refl (trace : List Event) (raised : Option Exc) :
    InsertsAtMostOne trace (trace, raised) :=
  ⟨fun _ => rfl, .inl rfl⟩

section Rows

variable {numSqlRetries : Nat} {env : Environment}

/-- `set_job_state` writes the state, or raises and writes nothing. -/
theorem setJobState_cases (state : JobEnum) (result : ResultArg) (trace : List Event) :
    setJobState env state result trace = (trace ++ [.recorded state result], none) ∨
      ∃ exc, setJobState env state result trace = (trace, some exc) := by
  unfold setJobState
  split
  · exact .inl rfl
  · exact .inr ⟨_, rfl⟩

theorem setJobState_insertedRows (state : JobEnum) (result : ResultArg) (trace : List Event) :
    insertedRows (setJobState env state result trace).1 = insertedRows trace := by
  rcases @setJobState_cases env state result trace with written | ⟨exc, written⟩ <;>
    simp [written]

/-- A results insert that returns committed the trace, or the trace and one row. -/
theorem updateResultTable_committed {n : Nat} {resultStr : String} {k : Nat}
    {trace committed : List Event} {value : Bool}
    (ok : updateResultTable env n resultStr k trace = .ok (value, committed)) :
    committed = trace ∨ ∃ parsed, committed = trace ++ [.inserted parsed] := by
  unfold updateResultTable at ok
  split at ok
  · cases ok
  · split_ifs at ok
    · cases ok
      exact .inl rfl
    · split at ok
      · cases ok
        exact .inr ⟨_, rfl⟩
      · cases ok

/-- `process_result` inserts at most one row, and none when an exception escapes it. -/
theorem processResult_inserts (n : Nat) (resultStr : String) (trace : List Event) :
    ((processResult numSqlRetries env n resultStr trace).2.isSome →
        (processResult numSqlRetries env n resultStr trace).1 = trace) ∧
      ((processResult numSqlRetries env n resultStr trace).1 = trace ∨
        ∃ parsed, (processResult numSqlRetries env n resultStr trace).1 =
          trace ++ [.inserted parsed]) := by
  have kept := sessionRetry_store
    (P := fun after => after = trace ∨ ∃ parsed, after = trace ++ [.inserted parsed])
    numSqlRetries (updateResultTable env n resultStr) trace (.inl rfl)
    fun _ _ _ => updateResultTable_committed
  unfold processResult
  dsimp only
  split
  · rename_i raised
    exact ⟨fun _ => sessionRetry_store_of_error raised, kept⟩
  · exact ⟨fun none => by simp at none, kept⟩

theorem attemptBody_inserts (n : Nat) (trace : List Event) :
    InsertsAtMostOne trace (attemptBody numSqlRetries env n trace) := by
  have recorded : ∀ state result, InsertsAtMostOne trace
      (setJobState env state result (trace ++ [.runCmd])) := fun state result =>
    ⟨fun _ => by simp [setJobState_insertedRows], .inl (by simp [setJobState_insertedRows])⟩
  unfold attemptBody
  split
  · split_ifs
    · exact recorded _ _
    · exact ⟨fun _ => by simp, .inl (by simp)⟩
  · rename_i output _
    split_ifs
    · exact recorded _ _
    · rcases @setJobState_cases env .completed (.text (replaceChar ':' "\\:" output))
        (trace ++ [.runCmd]) with completed | ⟨exc, raised⟩
      · rw [completed, andThen_none]
        obtain ⟨escaped, added⟩ := @processResult_inserts numSqlRetries env n
          (replaceChar ':' "\\:" output)
          (trace ++ [.runCmd] ++ [.recorded .completed (.text (replaceChar ':' "\\:" output))])
        refine ⟨fun isSome => by rw [escaped isSome]; simp, ?_⟩
        rcases added with same | ⟨parsed, inserted⟩
        · exact .inl (by rw [same]; simp)
        · refine .inr ⟨parsed, ?_, ?_, ?_⟩ <;> rw [inserted] <;> simp
      · rw [raised, andThen_some]
        exact ⟨fun _ => by simp, .inl (by simp)⟩

/-- With a results parser that never returns, `process_result` writes nothing. -/
theorem processResult_of_unparsed
    (unparsed : ∀ text, ∃ exc, env.parse text = .error exc) (n : Nat) (resultStr : String)
    (trace : List Event) : (processResult numSqlRetries env n resultStr trace).1 = trace := by
  obtain ⟨exc, raised⟩ := unparsed resultStr
  have kept := sessionRetry_store (P := (· = trace)) numSqlRetries
    (updateResultTable env n resultStr) trace rfl
    fun _ _ _ committed => by simp [updateResultTable, raised] at committed
  unfold processResult
  dsimp only
  split <;> exact kept

/-- With a results parser that never returns, an attempt inserts no row. -/
theorem attemptBody_insertedRows_of_unparsed
    (unparsed : ∀ text, ∃ exc, env.parse text = .error exc) (n : Nat) (trace : List Event) :
    insertedRows (attemptBody numSqlRetries env n trace).1 = insertedRows trace := by
  unfold attemptBody
  split
  · split_ifs <;> simp [setJobState_insertedRows]
  · split_ifs
    · simp [setJobState_insertedRows]
    · refine andThen_keeps (P := fun after => insertedRows after = insertedRows trace) _ _
        (by simp [setJobState_insertedRows]) fun after kept => ?_
      rw [processResult_of_unparsed unparsed]
      exact kept

end Rows

/-- tenacity's attempts together insert what one attempt may: every attempt
but the last raised, and inserted nothing. -/
theorem retrying_inserts (body : Nat → List Event → List Event × Option Exc)
    (attempt : ∀ n trace, InsertsAtMostOne trace (body n trace)) (n later : Nat)
    (trace : List Event) : InsertsAtMostOne trace (retrying body n later trace) := by
  induction later generalizing n trace with
  | zero =>
      rw [retrying]
      have once := attempt n trace
      rcases tried : body n trace with ⟨after, _ | exc⟩ <;> rw [tried] at once <;> exact once
  | succ later inductionHypothesis =>
      rw [retrying]
      have once := attempt n trace
      rcases tried : body n trace with ⟨after, _ | exc⟩ <;> rw [tried] at once
      · exact once
      · have unchanged := once.1 rfl
        obtain ⟨raisedLater, rows⟩ := inductionHypothesis (n + 1) after
        refine ⟨fun isSome => (raisedLater isSome).trans unchanged, ?_⟩
        rw [unchanged] at rows
        exact rows

/-- What a trace has and every attempt keeps, tenacity's attempts keep. -/
theorem retrying_keeps {P : List Event → Prop}
    (body : Nat → List Event → List Event × Option Exc)
    (keeps : ∀ n trace, P trace → P (body n trace).1) (n later : Nat) (trace : List Event)
    (start : P trace) : P (retrying body n later trace).1 := by
  induction later generalizing n trace with
  | zero =>
      rw [retrying]
      have once := keeps n trace start
      rcases tried : body n trace with ⟨after, _ | exc⟩ <;> rw [tried] at once <;> exact once
  | succ later inductionHypothesis =>
      rw [retrying]
      have once := keeps n trace start
      rcases tried : body n trace with ⟨after, _ | exc⟩ <;> rw [tried] at once
      · exact once
      · exact inductionHypothesis (n + 1) after once

/-- What the empty trace has, and every state write and every attempt keeps,
the trace of a step has. -/
theorem step_keeps {P : List Event → Prop} (numSqlRetries : Nat) (env : Environment)
    (claimed : Bool) (start : P [])
    (recorded : ∀ state result trace, P trace → P (setJobState env state result trace).1)
    (attempt : ∀ n trace, P trace → P (attemptBody numSqlRetries env n trace).1) :
    P (step numSqlRetries env claimed).2 := by
  unfold step
  cases claimed
  · exact start
  · simp only [Bool.not_true, Bool.false_eq_true, ↓reduceIte]
    have started := recorded .running .none [] start
    rcases running : setJobState env .running .none [] with ⟨trace, _ | exc⟩ <;>
      rw [running] at started <;> dsimp only
    · have tried := retrying_keeps (attemptBody numSqlRetries env) attempt 0 2 trace started
      rcases attempts : retrying (attemptBody numSqlRetries env) 0 2 trace with
        ⟨after, _ | exc⟩ <;> rw [attempts] at tried <;> dsimp only
      · exact tried
      · have final := recorded .error (.text (replaceChar '\'' "\\'" exc.text)) after tried
        rcases written : setJobState env .error (.text (replaceChar '\'' "\\'" exc.text)) after
          with ⟨last, _ | raised⟩ <;> rw [written] at final <;> exact final
    · exact started

/-- With a results parser that never returns, no step inserts a results row. -/
theorem step_insertedRows_of_unparsed (numSqlRetries : Nat) (env : Environment) (claimed : Bool)
    (unparsed : ∀ text, ∃ exc, env.parse text = .error exc) :
    insertedRows (step numSqlRetries env claimed).2 = [] := by
  refine step_keeps (P := fun trace => insertedRows trace = []) numSqlRetries env claimed rfl
    (fun state result trace none => (setJobState_insertedRows state result trace).trans none)
    fun n trace none => (attemptBody_insertedRows_of_unparsed unparsed n trace).trans none

/--
Whatever the command, the results parser and the store do, one step of the
rocMLIR worker inserts at most one results row.  When it inserts one, the
insert is the step's last event, `completed` is the job's last recorded state,
and the step returns `True`: the attempt that inserted did not raise, so
tenacity runs no further attempt and the handler records no `error` after it.
-/
theorem step_inserts_at_most_once (numSqlRetries : Nat) (env : Environment) (claimed : Bool) :
    (insertedRows (step numSqlRetries env claimed).2).length ≤ 1 ∧
      ∀ parsed, insertedRows (step numSqlRetries env claimed).2 = [parsed] →
        (step numSqlRetries env claimed).1 = .ok true ∧
        (step numSqlRetries env claimed).2.getLast? = some (.inserted parsed) ∧
        (recordedStates (step numSqlRetries env claimed).2).getLast? = some .completed := by
  cases claimed
  · simp [step]
  · unfold step
    simp only [Bool.not_true, Bool.false_eq_true, ↓reduceIte]
    rcases @setJobState_cases env .running .none [] with started | ⟨exc, raised⟩
    · rw [started, List.nil_append]
      dsimp only
      have attempts := retrying_inserts (attemptBody numSqlRetries env) attemptBody_inserts 0 2
        [.recorded .running .none]
      rcases tried : retrying (attemptBody numSqlRetries env) 0 2 [.recorded .running .none] with
        ⟨after, _ | exc⟩ <;> rw [tried] at attempts <;> dsimp only
      · rcases attempts.2 with same | ⟨parsed, inserted, lastEvent, lastState⟩
        · simp only at same
          simp [same]
        · simp only at inserted lastEvent lastState
          simp [inserted, lastEvent, lastState]
      · have none : insertedRows after = [] := attempts.1 rfl
        rcases @setJobState_cases env .error (.text (replaceChar '\'' "\\'" exc.text)) after with
          written | ⟨raised, written⟩ <;> rw [written] <;> simp [none]
    · rw [raised]
      simp

/-- A tuning command that prints a colon, a results parser that raises a
`ValueError` on it, and a store that takes every statement. -/
def colonOutputs : Environment where
  runCmd n := .ok (0, "tflops:" ++ toString n)
  parse _ := .error ⟨.valueError, "could not convert string to float: 'tflops'"⟩
  insert _ _ := none
  update _ _ := none

theorem step_reruns_on_value_error_in_results :
    step 3 colonOutputs true =
      (.ok true,
        [.recorded .running .none,
          .runCmd, .recorded .completed (.text "tflops\\:0"),
          .runCmd, .recorded .completed (.text "tflops\\:1"),
          .runCmd, .recorded .completed (.text "tflops\\:2"),
          .recorded .error (.text "could not convert string to float: \\'tflops\\'")]) :=
  step_reruns_unrecorded_results 3 colonOutputs (fun n => "tflops:" ++ toString n)
    (fun _ => ⟨.valueError, "could not convert string to float: 'tflops'"⟩) (by decide)
    (fun _ _ => rfl) (fun _ => rfl) (fun _ => rfl)
    (fun _ => ⟨by simp [ExcClass.IsOperational], by simp⟩)

theorem step_settles_on_colon_outputs :
    (∀ state result, colonOutputs.update state result = none) ∧
      (step 3 colonOutputs true).1 = .ok true ∧
      ((recordedStates (step 3 colonOutputs true).2).getLast? = some .error ∨
        (recordedStates (step 3 colonOutputs true).2).getLast? = some .completed ∧
          ∃ n < 3, ∃ output, colonOutputs.runCmd n = .ok (0, output)) :=
  ⟨fun _ _ => rfl, step_settles 3 colonOutputs fun _ _ => rfl⟩

/-- A tuning command that exits 0 with the output `results`, which the
results parser cannot unpack, against a store that takes every statement. -/
def unparsableResults : Environment where
  runCmd _ := .ok (0, "results")
  parse _ := .error ⟨.other, "cannot unpack non-iterable bool object"⟩
  insert _ _ := none
  update _ _ := none

theorem step_reruns_completed_job :
    step 3 unparsableResults true =
      (.ok true,
        [.recorded .running .none,
          .runCmd, .recorded .completed (.text "results"),
          .runCmd, .recorded .completed (.text "results"),
          .runCmd, .recorded .completed (.text "results"),
          .recorded .error (.text "cannot unpack non-iterable bool object")]) :=
  rfl

end MITuna.RocMLIR
