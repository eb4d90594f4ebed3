import MITuna.Job.Basic

namespace MITuna

/-!
# Result ingestion

`process_compile_results` and `process_eval_results` read a worker's payload,
hand a recognised result to the find-db writers, ask `get_fin_result` for a
verdict and move the job on with `set_job_state`.  The store calls they make
may raise; an oracle says what each one does, so every path of the two
functions is one branch here.  The find-db writers and `get_fin_result` are
not in the source: the first are the oracle, the second a parameter.
-/

/-- The `sqlalchemy.exc` errors the result processor names. -/
inductive StoreError
  | operational
  | integrity
  | data
  deriving Repr, DecidableEq

/-- What escapes `process_*_results`: a store error no handler catches, or
the `UnboundLocalError` of reading `status` before it is assigned. -/
inductive Raised
  | store (error : StoreError)
  | unboundLocal
  deriving Repr, DecidableEq

/-- The keys of the payload dictionary a worker returns (`fin_json`). -/
abbrev FinJson := List String

/-- What the store calls of one ingestion do: the find-db writer
(`process_fdb_w_kernels` or `process_pdb_compile`) returns a status or
raises, and `clean_cache_table` raises or not. -/
structure StoreBehaviour (Status : Type) where
  processing : Except StoreError Status
  cleanCache : Option StoreError

section Ingestion

variable {Status : Type} (getFinResult : Option Status → Bool × String)

/--
The `try` block of `process_compile_results`, up to `failed_job = not
success`: the final `(failed_job, result_str)`, or the error it raised.
-/
def compileTry (finJson : FinJson) (store : StoreBehaviour Status) :
    Except StoreError (Bool × String) :=
  if finJson.isEmpty then
    .ok (false, "")
  else do
    let status ←
      if "miopen_find_compile_result" ∈ finJson then some <$> store.processing
      else if "miopen_perf_compile_result" ∈ finJson then some <$> store.processing
      else pure none
    let (success, resultStr) := getFinResult status
    pure (!success, resultStr)

/--
`MIOpen.process_compile_results`: both handlers roll back and mark the job
failed, so it always returns `True`; the job becomes `errored` or `compiled`.
-/
def processCompileResults (finJson : FinJson) (store : StoreBehaviour Status)
    (job : JobRow) (table : JobTable) : Except Raised Bool × JobTable :=
  let (failedJob, resultStr) :=
    match compileTry getFinResult finJson store with
    | .ok outcome => outcome
    | .error _ => (true, "")
  (.ok true,
    setJobState job (if failedJob then .errored else .compiled) false resultStr table)

/--
The payload part of `process_eval_results`'s `try` block: the final
`(failed_job, result_str)`, or what it raised.  With a non-empty payload
carrying neither eval key, `status` is read before it is assigned.
-/
def evalOutcome (finJson : FinJson) (store : StoreBehaviour Status) :
    Except Raised (Bool × String) :=
  if finJson.isEmpty then
    .ok (true, "")
  else do
    let status ←
      if "miopen_find_eval_result" ∈ finJson then store.processing.mapError .store
      else if "miopen_perf_eval_result" ∈ finJson then store.processing.mapError .store
      else throw .unboundLocal
    let (success, resultStr) := getFinResult (some status)
    pure (!success, resultStr)

/--
The whole `try` block of `process_eval_results`: what it raised, if anything,
the `result_str` at that point, and the table it leaves.  A successful job is
written `evaluated` before `clean_cache_table` runs.
-/
def evalTry (finJson : FinJson) (store : StoreBehaviour Status) (job : JobRow)
    (table : JobTable) : Option Raised × String × JobTable :=
  match evalOutcome getFinResult finJson store with
  | .error raised => (some raised, "", table)
  | .ok (true, resultStr) =>
      if MAX_ERRORED_JOB_RETRIES - 1 ≤ job.retries then
        (none, resultStr, setJobState job .errored false resultStr table)
      else
        (none, resultStr, setJobState job .compiled true resultStr table)
  | .ok (false, resultStr) =>
      (store.cleanCache.map .store, resultStr,
        setJobState job .evaluated false resultStr table)

/--
`MIOpen.process_eval_results`: only `OperationalError` and `IntegrityError`
are caught, and they mark the job `errored`; anything else escapes.
-/
def processEvalResults (finJson : FinJson) (store : StoreBehaviour Status)
    (job : JobRow) (table : JobTable) : Except Raised Bool × JobTable :=
  match evalTry getFinResult finJson store job table with
  | (none, _, after) => (.ok true, after)
  | (some (.store .operational), resultStr, after)
  | (some (.store .integrity), resultStr, after) =>
      (.ok true, setJobState job .errored false resultStr after)
  | (some raised, _, after) => (.error raised, after)

/-- The result handler runs the ingestion of the context's operation. -/
def processResults : Operation → FinJson → StoreBehaviour Status → JobRow → JobTable →
    Except Raised Bool × JobTable
  | .compile => processCompileResults getFinResult
  | .eval => processEvalResults getFinResult

variable {getFinResult}

/-- An ingestion writes nothing but the job's own row, through `set_job_state`. -/
theorem processResults_writes_job_row (operation : Operation) (finJson : FinJson)
    (store : StoreBehaviour Status) (job : JobRow) (table : JobTable) :
    (processResults getFinResult operation finJson store job table).2 = table ∨
      ∃ state incrementRetries result,
        (processResults getFinResult operation finJson store job table).2 =
          setJobState job state incrementRetries result table := by
  cases operation with
  | compile =>
      exact .inr ⟨_, _, _, rfl⟩
  | eval =>
      simp only [processResults, processEvalResults, evalTry]
      rcases evalOutcome getFinResult finJson store with raised | ⟨_ | _, resultStr⟩
      · rcases raised with (_ | _ | _) | _
        all_goals first | exact .inl rfl | exact .inr ⟨_, _, _, rfl⟩
      · rcases store.cleanCache with _ | (_ | _ | _)
        all_goals first
          | exact .inr ⟨_, _, _, rfl⟩
          | exact .inr ⟨_, _, _, setJobState_setJobState ..⟩
      · split_ifs
        all_goals exact .inr ⟨_, _, _, rfl⟩

/-- Every other row keeps its value. -/
theorem processResults_rows_ne (operation : Operation) (finJson : FinJson)
    (store : StoreBehaviour Status) (job : JobRow) (table : JobTable) (other : Nat)
    (distinct : other ≠ job.id) :
    (processResults getFinResult operation finJson store job table).2.rows other =
      table.rows other := by
  rcases processResults_writes_job_row operation finJson store job table with
    same | ⟨state, incrementRetries, result, written⟩
  · rw [same]
  · rw [written, setJobState_ne _ _ _ _ distinct]

end Ingestion


/-- What one ingestion comes to: the verdict of `get_fin_result`, or a store
fault that the handler turns into `errored`. -/
inductive Verdict
  | success (resultStr : String)
  | failure (resultStr : String)
  | storeFault (resultStr : String)
  deriving Repr, DecidableEq

namespace Verdict

/-- The verdict a `get_fin_result` answer gives. -/
def ofFinResult : Bool × String → Verdict
  | (true, resultStr) => .success resultStr
  | (false, resultStr) => .failure resultStr

/-- The row change a compile ingestion of a verdict makes: new state and result. -/
def compileReference : Verdict → JobState × String
  | .success resultStr => (.compiled, resultStr)
  | .failure resultStr => (.errored, resultStr)
  | .storeFault resultStr => (.errored, resultStr)

/-- The row change an eval ingestion of a verdict makes: new state, whether
`retries` grows, and result.  A failed evaluation goes back to `compiled`
while retries are left, and to `errored` after the last. -/
def evalReference (retries : Nat) : Verdict → JobState × Bool × String
  | .success resultStr => (.evaluated, false, resultStr)
  | .failure resultStr =>
      if retries < MAX_ERRORED_JOB_RETRIES - 1 then (.compiled, true, resultStr)
      else (.errored, false, resultStr)
  | .storeFault resultStr => (.errored, false, resultStr)

end Verdict

/-- The payload carries a compile result key. -/
def RecognisedCompile (finJson : FinJson) : Prop :=
  "miopen_find_compile_result" ∈ finJson ∨ "miopen_perf_compile_result" ∈ finJson

/-- The payload carries an eval result key. -/
def RecognisedEval (finJson : FinJson) : Prop :=
  "miopen_find_eval_result" ∈ finJson ∨ "miopen_perf_eval_result" ∈ finJson

instance (finJson : FinJson) : Decidable (RecognisedCompile finJson) :=
  inferInstanceAs (Decidable (_ ∨ _))

instance (finJson : FinJson) : Decidable (RecognisedEval finJson) :=
  inferInstanceAs (Decidable (_ ∨ _))

section Reference

variable {Status : Type} (getFinResult : Option Status → Bool × String)

/-- The verdict of a compile ingestion: a store fault while a recognised
result is written, or what `get_fin_result` says. -/
def compileVerdict (finJson : FinJson) (store : StoreBehaviour Status) : Verdict :=
  if RecognisedCompile finJson then
    match store.processing with
    | .error _ => .storeFault ""
    | .ok status => .ofFinResult (getFinResult (some status))
  else
    .ofFinResult (getFinResult none)

/-- The verdict of an eval ingestion: an empty payload fails; a store fault
while the result is written, or while `clean_cache_table` runs after a
success, is a fault; otherwise it is what `get_fin_result` says. -/
def evalVerdict (finJson : FinJson) (store : StoreBehaviour Status) : Verdict :=
  match finJson, store.processing with
  | [], _ => .failure ""
  | _ :: _, .error _ => .storeFault ""
  | _ :: _, .ok status =>
      match getFinResult (some status), store.cleanCache with
      | (true, resultStr), some _ => .storeFault resultStr
      | finResult, _ => .ofFinResult finResult

variable {getFinResult}

theorem compileTry_eq {finJson : FinJson} {store : StoreBehaviour Status}
    (nonempty : finJson ≠ []) :
    compileTry getFinResult finJson store =
      if RecognisedCompile finJson then
        store.processing.map fun status =>
          (!(getFinResult (some status)).1, (getFinResult (some status)).2)
      else .ok (!(getFinResult none).1, (getFinResult none).2) := by
  cases finJson with
  | nil => exact absurd rfl nonempty
  | cons key rest =>
      unfold compileTry RecognisedCompile
      cases processing : store.processing <;>
        by_cases findKey : "miopen_find_compile_result" ∈ key :: rest <;>
        by_cases perfKey : "miopen_perf_compile_result" ∈ key :: rest <;>
        simp_all [bind, Except.bind, Functor.map, Except.map, pure, Except.pure]


theorem evalOutcome_of_recognised {finJson : FinJson} {store : StoreBehaviour Status}
    (recognised : RecognisedEval finJson) :
    evalOutcome getFinResult finJson store =
      (store.processing.mapError .store).map fun status =>
        (!(getFinResult (some status)).1, (getFinResult (some status)).2) := by
  have nonempty : finJson.isEmpty = false := by
    cases finJson with
    | nil => simp [RecognisedEval] at recognised
    | cons => rfl
  unfold evalOutcome RecognisedEval at *
  cases processing : store.processing <;>
    by_cases findKey : "miopen_find_eval_result" ∈ finJson <;>
    simp_all [bind, Except.bind, Functor.map, Except.map, pure, Except.pure, Except.mapError]

theorem processEvalResults_of_fault {finJson : FinJson} {store : StoreBehaviour Status}
    {fault : StoreError} (job : JobRow) (table : JobTable)
    (outcome : evalOutcome getFinResult finJson store = .error (.store fault))
    (caught : fault ≠ .data) :
    processEvalResults getFinResult finJson store job table =
      (.ok true, setJobState job .errored false "" table) := by
  cases fault <;> simp_all [processEvalResults, evalTry]

theorem processEvalResults_of_failure {finJson : FinJson} {store : StoreBehaviour Status}
    {resultStr : String} (job : JobRow) (table : JobTable)
    (outcome : evalOutcome getFinResult finJson store = .ok (true, resultStr)) :
    processEvalResults getFinResult finJson store job table =
      (.ok true,
        if MAX_ERRORED_JOB_RETRIES - 1 ≤ job.retries then
          setJobState job .errored false resultStr table
        else setJobState job .compiled true resultStr table) := by
  simp only [processEvalResults, evalTry, outcome]
  split_ifs <;> rfl

theorem processEvalResults_of_success {finJson : FinJson} {store : StoreBehaviour Status}
    {resultStr : String} (job : JobRow) (table : JobTable)
    (outcome : evalOutcome getFinResult finJson store = .ok (false, resultStr))
    (cleanNoDataError : store.cleanCache ≠ some .data) :
    processEvalResults getFinResult finJson store job table =
      (.ok true,
        if store.cleanCache.isSome then setJobState job .errored false resultStr table
        else setJobState job .evaluated false resultStr table) := by
  unfold processEvalResults evalTry
  rw [outcome]
  rcases clean : store.cleanCache with _ | _ | _ | _ <;>
    simp_all [setJobState_setJobState]

theorem processEvalResults_reference {finJson : FinJson} {store : StoreBehaviour Status}
    (job : JobRow) (table : JobTable)
    (shape : finJson = [] ∨ RecognisedEval finJson)
    (noDataError : store.processing ≠ .error .data)
    (cleanNoDataError : store.cleanCache ≠ some .data) :
    processEvalResults getFinResult finJson store job table =
      (.ok true,
        let (state, increment, resultStr) :=
          (evalVerdict getFinResult finJson store).evalReference job.retries
        setJobState job state increment resultStr table) := by
  rcases shape with rfl | recognised
  · have outcome : evalOutcome getFinResult [] store = .ok (true, "") := by simp [evalOutcome]
    rw [processEvalResults_of_failure job table outcome]
    simp only [evalVerdict, Verdict.evalReference]
    split <;> split <;> first | rfl | omega
  · obtain ⟨key, rest, rfl⟩ : ∃ key rest, finJson = key :: rest := by
      cases finJson with
      | nil => simp [RecognisedEval] at recognised
      | cons key rest => exact ⟨key, rest, rfl⟩
    have outcome : evalOutcome getFinResult (key :: rest) store = _ :=
      evalOutcome_of_recognised recognised
    cases processing : store.processing with
    | error fault =>
        have faulted : evalOutcome getFinResult (key :: rest) store = .error (.store fault) := by
          simp [outcome, processing, Except.mapError, Functor.map, Except.map]
        rw [processEvalResults_of_fault job table faulted
          (by rintro rfl; exact noDataError processing)]
        simp [evalVerdict, processing, Verdict.evalReference]
    | ok status =>
        rcases finResult : getFinResult (some status) with ⟨_ | _, resultStr⟩
        · have failed : evalOutcome getFinResult (key :: rest) store = .ok (true, resultStr) := by
            simp [outcome, processing, finResult, Except.mapError, Functor.map, Except.map]
          rw [processEvalResults_of_failure job table failed]
          simp only [evalVerdict, processing, finResult, Verdict.ofFinResult, Verdict.evalReference]
          split <;> split <;> first | rfl | omega
        · have succeeded :
              evalOutcome getFinResult (key :: rest) store = .ok (false, resultStr) := by
            simp [outcome, processing, finResult, Except.mapError, Functor.map, Except.map]
          rw [processEvalResults_of_success job table succeeded cleanNoDataError]
          rcases clean : store.cleanCache with _ | _ <;>
            simp [evalVerdict, processing, finResult, clean, Verdict.ofFinResult,
              Verdict.evalReference]

theorem processCompileResults_reference {finJson : FinJson}
    {store : StoreBehaviour Status} (job : JobRow) (table : JobTable)
    (nonempty : finJson ≠ []) :
    processCompileResults getFinResult finJson store job table =
      (.ok true,
        let (state, resultStr) :=
          (compileVerdict getFinResult finJson store).compileReference
        setJobState job state false resultStr table) := by
  rw [processCompileResults, compileTry_eq nonempty, compileVerdict]
  by_cases recognised : RecognisedCompile finJson
  · simp only [if_pos recognised]
    cases store.processing with
    | error => rfl
    | ok status =>
        rcases finResult : getFinResult (some status) with ⟨_ | _, _⟩ <;>
          simp [Except.map, finResult, Verdict.ofFinResult, Verdict.compileReference]
  · simp only [if_neg recognised]
    rcases finResult : getFinResult none with ⟨_ | _, _⟩ <;>
      simp [finResult, Verdict.ofFinResult, Verdict.compileReference]

end Reference

/-- A job claimed for compilation, at its first attempt. -/
def claimedCompileJob : JobRow where
  id := 0
  config := 1
  solver := "ConvHipImplicitGemmV4R1Fwd"
  session := 1
  state := .compileStart
  valid := true
  retries := 0
  reason := "tuning"
  finStep := "miopen_find_compile"
  result := ""

/--
A contention error while the compile result is written to the find db does
not leave the job where it was: the handler marks it `errored`.
-/
theorem processCompileResults_contention_errors_job :
    claimedCompileJob.state = .compileStart ∧
      ((processCompileResults (fun _ : Option Unit => (true, ""))
          ["miopen_find_compile_result"] ⟨.error .operational, none⟩
          claimedCompileJob (.single claimedCompileJob)).2.rows 0).map
        JobRow.state = some .errored := by
  decide

/--
Both handlers return `True` and change the job row by exactly one
`set_job_state` write, the one `compileReference` or `evalReference` gives for
the ingestion's verdict.  This holds for a non-empty compile payload, and for
an eval payload that is empty or holds an eval key when no `DataError` is
raised; the other payloads are not covered (`failed_job` starts `False` for
an empty compile payload, `status` is unbound for an eval payload with
neither key, and no handler catches a `DataError`).
-/
theorem processResults_reference_transition {Status : Type}
    (getFinResult : Option Status → Bool × String) (job : JobRow) (table : JobTable) :
    (∀ finJson store, finJson ≠ [] →
      processCompileResults getFinResult finJson store job table =
        (.ok true,
          let (state, resultStr) :=
            (compileVerdict getFinResult finJson store).compileReference
          setJobState job state false resultStr table)) ∧
    (∀ finJson store, (finJson = [] ∨ RecognisedEval finJson) →
      store.processing ≠ .error .data → store.cleanCache ≠ some .data →
      processEvalResults getFinResult finJson store job table =
        (.ok true,
          let (state, increment, resultStr) :=
            (evalVerdict getFinResult finJson store).evalReference job.retries
          setJobState job state increment resultStr table)) :=
  ⟨fun _ _ nonempty => processCompileResults_reference job table nonempty,
    fun _ _ shape noDataError cleanNoDataError =>
      processEvalResults_reference job table shape noDataError cleanNoDataError⟩

/-- A job claimed for evaluation, at its first attempt. -/
def claimedEvalJob : JobRow :=
  { claimedCompileJob with state := .evalStart, finStep := "miopen_find_eval" }

/-- A failed first evaluation sends the job back to `compiled` with one more retry. -/
theorem processResults_reference_on_failed_eval :
    processEvalResults (fun _ : Option Unit => (false, "no solution"))
        ["miopen_find_eval_result"] ⟨.ok (), none⟩ claimedEvalJob
        (.single claimedEvalJob) =
      (.ok true, setJobState claimedEvalJob .compiled true "no solution"
        (.single claimedEvalJob)) :=
  (processResults_reference_transition _ claimedEvalJob _).2 _ _
    (.inr (.inl (by simp))) (by simp) (by simp)

end MITuna
