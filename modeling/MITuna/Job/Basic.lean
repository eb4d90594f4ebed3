import Mathlib.Data.List.Basic

namespace MITuna

/-!
# Jobs, job states and the job table

The MIOpen tuning loop keeps every unit of work as one row of a job table.
A claim moves rows from the states an operation fetches into that
operation's start state, and result ingestion moves them on to a terminal
state or back for a retry.  This module fixes the rows, the states the
scheduler reads and writes, the table as a map from row ids, and the one
write every transition goes through.
-/

/-- Text order by code points, compared from the left with a proper prefix
first: Python's `<` on `str`, and MySQL's on strings once a collation has
folded them. -/
def textLt : List Char → List Char → Bool
  | _, [] => false
  | [], _ :: _ => true
  | c :: rest, d :: others => if c = d then textLt rest others else decide (c.toNat < d.toNat)

/-- The job states the MIOpen scheduler reads or writes (`JobEnum`). -/
inductive JobState
  | new
  | compileStart
  | compiled
  | evalStart
  | evaluated
  | errored
  deriving Repr, DecidableEq

namespace JobState

/-- The enum name a state has in SQL text. -/
def name : JobState → String
  | .new => "new"
  | .compileStart => "compile_start"
  | .compiled => "compiled"
  | .evalStart => "eval_start"
  | .evaluated => "evaluated"
  | .errored => "errored"

/-- Distinct states have distinct names. -/
theorem name_injective : Function.Injective name := by
  intro state other same
  cases state <;> cases other <;> first | rfl | exact absurd same (by decide)

/-- Terminal states: ingestion never moves a job out of them. -/
def IsTerminal (state : JobState) : Prop :=
  state = .evaluated ∨ state = .errored

instance : DecidablePred IsTerminal :=
  fun state => inferInstanceAs (Decidable (state = .evaluated ∨ state = .errored))

/-- In-flight states: a claimant owns the job until its result is ingested. -/
def IsInFlight (state : JobState) : Prop :=
  state = .compileStart ∨ state = .evalStart

instance : DecidablePred IsInFlight :=
  fun state => inferInstanceAs (Decidable (state = .compileStart ∨ state = .evalStart))

end JobState

/-- The tuning operations of `tuna.libraries.Operation` that claim jobs. -/
inductive Operation
  | compile
  | eval
  deriving Repr, DecidableEq

/--
`MIOpen.update_operation`: the operation a fin-step list selects.  Compile
steps are tested first, as in the source.
-/
def updateOperation (finSteps : List String) : Option Operation :=
  if "miopen_find_compile" ∈ finSteps ∨ "miopen_perf_compile" ∈ finSteps then
    some .compile
  else if "miopen_find_eval" ∈ finSteps ∨ "miopen_perf_eval" ∈ finSteps then
    some .eval
  else
    none

namespace Operation

/-- `fetch_state` after `update_operation`: the states a claim selects from. -/
def fetchState : Operation → List JobState
  | .compile => [.new]
  | .eval => [.new, .compiled]

/-- `set_state` after `update_operation`: the state a claim moves rows to. -/
def setState : Operation → JobState
  | .compile => .compileStart
  | .eval => .evalStart

/-- Every set state is in flight. -/
theorem setState_inFlight (operation : Operation) :
    operation.setState.IsInFlight := by
  cases operation <;> decide

/-- No operation fetches a terminal or in-flight state. -/
theorem not_terminal_of_mem_fetchState
    {operation : Operation} {state : JobState}
    (member : state ∈ operation.fetchState) :
    ¬ state.IsTerminal ∧ ¬ state.IsInFlight := by
  cases operation <;> simp [fetchState] at member <;>
    rcases member with rfl | rfl <;> decide

end Operation

/-- One row of the job table, with the columns the scheduler reads or writes. -/
structure JobRow where
  id : Nat
  config : Nat
  solver : String
  session : Nat
  state : JobState
  valid : Bool
  retries : Nat
  reason : String
  finStep : String
  result : String
  deriving Repr, DecidableEq

/-- The job table, addressed by row id; every row sits under its own id. -/
structure JobTable where
  rows : Nat → Option JobRow
  keyed : ∀ id row, rows id = some row → row.id = id

namespace JobTable

@[ext] theorem ext {first second : JobTable} (same : first.rows = second.rows) :
    first = second := by
  cases first
  cases second
  cases same
  rfl

/-- The table holding one row. -/
def single (row : JobRow) : JobTable where
  rows id := if id = row.id then some row else none
  keyed id other found := by
    by_cases same : id = row.id <;> simp_all

/-- An `UPDATE ... WHERE id=...`: rewrite one row, if it exists, keeping its id. -/
def modify (table : JobTable) (id : Nat) (change : JobRow → JobRow)
    (keepsId : ∀ row, (change row).id = row.id) : JobTable where
  rows other := if other = id then (table.rows other).map change else table.rows other
  keyed other row found := by
    by_cases same : other = id
    · simp only [same, ↓reduceIte, Option.map_eq_some'] at found
      obtain ⟨original, present, rfl⟩ := found
      rw [keepsId, table.keyed id original present, same]
    · simp only [same, ↓reduceIte] at found
      exact table.keyed other row found

@[simp] theorem modify_self (table : JobTable) (id : Nat) (change : JobRow → JobRow)
    (keepsId : ∀ row, (change row).id = row.id) :
    (table.modify id change keepsId).rows id = (table.rows id).map change := by
  simp [modify]

@[simp] theorem modify_ne {table : JobTable} {id other : Nat} (change : JobRow → JobRow)
    (keepsId : ∀ row, (change row).id = row.id) (distinct : other ≠ id) :
    (table.modify id change keepsId).rows other = table.rows other := by
  simp [modify, distinct]

end JobTable

/-- The largest `retries` for which a failed evaluation is retried, plus one. -/
def MAX_ERRORED_JOB_RETRIES : Nat := 3

/--
Modelled from the spec: `set_job_state` (`tuna/miopen/utils/helper.py`) is
not in the source.  Following the spec ("`result` ... overwritten on each
transition", "increment `retries`"), it writes the new state and result
text into the job's row, and, when asked, the retries of the job object it
is given plus one, as the `UPDATE` that `gen_update_query` builds from that
object.  It commits; the spec gives it no failure of its own.
-/
def setJobState (job : JobRow) (state : JobState) (incrementRetries : Bool)
    (result : String) (table : JobTable) : JobTable :=
  table.modify job.id
    (fun row =>
      { row with
        state := state
        result := result
        retries := if incrementRetries then job.retries + 1 else row.retries })
    fun _ => rfl

@[simp] theorem setJobState_self
    (job : JobRow) (state : JobState) (incrementRetries : Bool)
    (result : String) (table : JobTable) :
    (setJobState job state incrementRetries result table).rows job.id =
      (table.rows job.id).map fun row =>
        { row with
          state := state
          result := result
          retries := if incrementRetries then job.retries + 1 else row.retries } :=
  JobTable.modify_self ..

@[simp] theorem setJobState_ne
    {job : JobRow} {other : Nat} (state : JobState) (incrementRetries : Bool)
    (result : String) (table : JobTable) (distinct : other ≠ job.id) :
    (setJobState job state incrementRetries result table).rows other = table.rows other :=
  JobTable.modify_ne _ _ distinct

/-- A second write without a retry increment keeps the first write's retries. -/
theorem setJobState_setJobState (job : JobRow) (first second : JobState)
    (incrementRetries : Bool) (firstResult secondResult : String) (table : JobTable) :
    setJobState job second false secondResult
        (setJobState job first incrementRetries firstResult table) =
      setJobState job second incrementRetries secondResult table := by
  ext1
  funext other
  by_cases same : other = job.id
  · subst same
    cases row : table.rows job.id <;> simp [row]
  · simp [same]

end MITuna
