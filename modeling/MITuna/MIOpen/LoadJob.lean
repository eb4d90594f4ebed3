import Mathlib.Data.List.Sort
import MITuna.Job.Basic
import MITuna.PyText

namespace MITuna

/-!
# Loading jobs

`add_jobs` (`tuna/miopen/subcmd/load_job.py`) turns the (config, solver)
pairs the applicability query returns into `new` jobs of one session.  It
reads which pairs already have a job whose `fin_step` is the string it
compares with, adds a job for every other pair and commits them at once.
When that commit raises `IntegrityError` it rolls back and adds them again
one by one, each in its own commit.  The store's unique key is (config,
solver, session, fin_step): a table is a list of rows with distinct keys,
and a commit that would repeat a key raises.  The job table's definition is
not in the source, so how its `fin_step` column stores the value `add_jobs`
gives it is a parameter.
-/

/-- `arg_fin_steps`: the `--fin_steps` text as a set of steps, each
`strip()`ped, empty for `''`, `None` when not given. -/
def argFinSteps : Option String → Option (List String)
  | none => none
  | some "" => some []
  | some text => some ((splitText ',' text).map stripSpace).dedup

/-- `fin_step_str`: the text the pre-existence query compares `fin_step` with. -/
def finStepStr : Option (List String) → String
  | some (step :: steps) =>
      ",".intercalate ((step :: steps).insertionSort fun a b => textLt b.data a.data = false)
  | _ => "not_fin"

/-- The unique key of the job table. -/
structure JobKey where
  config : Nat
  solver : String
  session : Nat
  finStep : String
  deriving Repr, DecidableEq

/-- The columns of a job row that `add_jobs` reads or writes. -/
structure LoadedJob where
  key : JobKey
  state : JobState
  valid : Bool
  reason : Option String
  deriving Repr, DecidableEq

/-- The job table: its rows, no two with one key. -/
structure KeyedJobs where
  rows : List LoadedJob
  unique : (rows.map (·.key)).Nodup

/-- `session.commit()` of pending rows: the store takes them unless two rows
would share a key, and raises `IntegrityError` then. -/
def KeyedJobs.commit (table : KeyedJobs) (pending : List LoadedJob) : Option KeyedJobs :=
  if unique : ((table.rows ++ pending).map (·.key)).Nodup then some ⟨_, unique⟩ else none

namespace KeyedJobs

theorem commit_rows {table committed : KeyedJobs} {pending : List LoadedJob}
    (taken : table.commit pending = some committed) : committed.rows = table.rows ++ pending := by
  unfold commit at taken
  split at taken
  · cases taken
    rfl
  · cases taken

/-- A single row is refused only when its key is already in the table. -/
theorem mem_of_commit_eq_none {table : KeyedJobs} {job : LoadedJob}
    (refused : table.commit [job] = none) : job.key ∈ table.rows.map (·.key) := by
  unfold commit at refused
  split at refused
  · cases refused
  · rename_i repeated
    by_contra absent
    exact repeated (by simp [List.nodup_append, table.unique, absent])

end KeyedJobs

/-- What `add_jobs` reads of its arguments, after `arg_fin_steps`. -/
structure LoadArgs where
  sessionId : Nat
  label : Option String
  finSteps : Option (List String)

section AddJobs

variable (column : Option (List String) → String) (args : LoadArgs)

/-- The job `add_jobs` makes for a pair, its `fin_step` as the column stores it. -/
def newJob (pair : Nat × String) : LoadedJob :=
  ⟨⟨pair.1, pair.2, args.sessionId, column args.finSteps⟩, .new, true, args.label⟩

/-- `pre_ex`: the pairs of the session's jobs whose `fin_step` is `fin_step_str`. -/
def preEx (table : KeyedJobs) : List (Nat × String) :=
  table.rows.filterMap fun row =>
    if row.key.session = args.sessionId ∧ row.key.finStep = finStepStr args.finSteps then
      some (row.key.config, row.key.solver)
    else
      none

/-- The one-by-one pass: every pair not skipped is added and committed
alone, and an `IntegrityError` rolls it back. -/
def addOneByOne (skip : List (Nat × String)) :
    List (Nat × String) → KeyedJobs → Nat → Nat × KeyedJobs
  | [], table, counts => (counts, table)
  | pair :: rest, table, counts =>
      if pair ∈ skip then
        addOneByOne skip rest table counts
      else
        match table.commit [newJob column args pair] with
        | some committed => addOneByOne skip rest committed (counts + 1)
        | none => addOneByOne skip rest table counts

/-- `add_jobs`: the number of jobs it inserted and the table it leaves. -/
def addJobs (res : List (Nat × String)) (table : KeyedJobs) : Nat × KeyedJobs :=
  let skip := preEx args table
  let pending := (res.filter (· ∉ skip)).map (newJob column args)
  match table.commit pending with
  | some loaded => (pending.length, loaded)
  | none => addOneByOne column args skip res table 0

theorem addOneByOne_skip {skip : List (Nat × String)} {pair : Nat × String}
    (skipped : pair ∈ skip) (rest : List (Nat × String)) (table : KeyedJobs) (counts : Nat) :
    addOneByOne column args skip (pair :: rest) table counts =
      addOneByOne column args skip rest table counts := by
  simp [addOneByOne, skipped]

theorem addOneByOne_taken {skip : List (Nat × String)} {pair : Nat × String}
    (fresh : pair ∉ skip) (rest : List (Nat × String)) {table committed : KeyedJobs}
    (taken : table.commit [newJob column args pair] = some committed) (counts : Nat) :
    addOneByOne column args skip (pair :: rest) table counts =
      addOneByOne column args skip rest committed (counts + 1) := by
  simp [addOneByOne, fresh, taken]

theorem addOneByOne_refused {skip : List (Nat × String)} {pair : Nat × String}
    (fresh : pair ∉ skip) (rest : List (Nat × String)) {table : KeyedJobs}
    (refused : table.commit [newJob column args pair] = none) (counts : Nat) :
    addOneByOne column args skip (pair :: rest) table counts =
      addOneByOne column args skip rest table counts := by
  simp [addOneByOne, fresh, refused]

/-- What a load leaves: the table's rows followed by new jobs for pairs of
the list, as many as it counts, and a job for every pair it did not skip. -/
def Loads (pairs skip : List (Nat × String)) (table : KeyedJobs) (counts : Nat)
    (result : Nat × KeyedJobs) : Prop :=
  ∃ added, result.2.rows = table.rows ++ added ∧ result.1 = counts + added.length ∧
    (∀ job ∈ added, ∃ pair ∈ pairs, job = newJob column args pair) ∧
    ∀ pair ∈ pairs, pair ∉ skip → (newJob column args pair).key ∈ result.2.rows.map (·.key)

theorem addOneByOne_loads (skip pairs : List (Nat × String)) (table : KeyedJobs)
    (counts : Nat) :
    Loads column args pairs skip table counts (addOneByOne column args skip pairs table counts) := by
  induction pairs generalizing table counts with
  | nil => exact ⟨[], by simp [addOneByOne]⟩
  | cons pair rest inductionHypothesis =>
      by_cases skipped : pair ∈ skip
      · rw [addOneByOne_skip column args skipped]
        obtain ⟨added, rows, count, made, loaded⟩ := inductionHypothesis table counts
        refine ⟨added, rows, count, fun job member => ?_, fun other member fresh => ?_⟩
        · obtain ⟨source, present, rfl⟩ := made job member
          exact ⟨source, List.mem_cons_of_mem _ present, rfl⟩
        · rcases List.mem_cons.mp member with rfl | later
          · exact absurd skipped fresh
          · exact loaded other later fresh
      · cases committed : table.commit [newJob column args pair] with
        | none =>
            rw [addOneByOne_refused column args skipped rest committed]
            obtain ⟨added, rows, count, made, loaded⟩ := inductionHypothesis table counts
            refine ⟨added, rows, count, fun job member => ?_, fun other member fresh => ?_⟩
            · obtain ⟨source, present, rfl⟩ := made job member
              exact ⟨source, List.mem_cons_of_mem _ present, rfl⟩
            · rcases List.mem_cons.mp member with rfl | later
              · rw [rows, List.map_append]
                exact List.mem_append_left _ (KeyedJobs.mem_of_commit_eq_none committed)
              · exact loaded other later fresh
        | some next =>
            rw [addOneByOne_taken column args skipped rest committed]
            obtain ⟨added, rows, count, made, loaded⟩ := inductionHypothesis next (counts + 1)
            rw [KeyedJobs.commit_rows committed] at rows
            refine ⟨newJob column args pair :: added, by simp [rows], by simp [count]; omega,
              fun job member => ?_, fun other member fresh => ?_⟩
            · rcases List.mem_cons.mp member with rfl | later
              · exact ⟨pair, List.mem_cons_self _ _, rfl⟩
              · obtain ⟨source, present, rfl⟩ := made job later
                exact ⟨source, List.mem_cons_of_mem _ present, rfl⟩
            · rcases List.mem_cons.mp member with rfl | later
              · simp [rows]
              · exact loaded other later fresh

/-- `add_jobs` loads the list whether the bulk commit is taken or it falls
back to one-by-one commits. -/
theorem addJobs_loads (res : List (Nat × String)) (table : KeyedJobs) :
    Loads column args res (preEx args table) table 0 (addJobs column args res table) := by
  unfold addJobs
  dsimp only
  cases committed : table.commit ((res.filter (· ∉ preEx args table)).map (newJob column args)) with
  | none => exact addOneByOne_loads column args _ res table 0
  | some loaded =>
      refine ⟨_, KeyedJobs.commit_rows committed, by simp, fun job member => ?_,
        fun pair member fresh => ?_⟩
      · obtain ⟨pair, kept, rfl⟩ := List.mem_map.mp member
        exact ⟨pair, (List.mem_filter.mp kept).1, rfl⟩
      · rw [KeyedJobs.commit_rows committed, List.map_append]
        exact List.mem_append_right _ (List.mem_map.mpr ⟨_, List.mem_map.mpr
          ⟨pair, List.mem_filter.mpr ⟨member, by simpa using fresh⟩, rfl⟩, rfl⟩)

/-- A skipped pair has a job of the session whose `fin_step` is `fin_step_str`. -/
theorem mem_preEx {table : KeyedJobs} {pair : Nat × String} (skipped : pair ∈ preEx args table) :
    ⟨pair.1, pair.2, args.sessionId, finStepStr args.finSteps⟩ ∈ table.rows.map (·.key) := by
  obtain ⟨⟨⟨config, solver, session, finStep⟩, state, valid, reason⟩, present, picked⟩ :=
    List.mem_filterMap.mp skipped
  split at picked
  · rename_i same
    cases picked
    obtain ⟨rfl, rfl⟩ := same
    exact List.mem_map.mpr ⟨_, present, rfl⟩
  · cases picked

/--
When the column stores the requested steps as the text the pre-existence
query compares with, `add_jobs` leaves exactly one job of the session with
those steps for each pair of the list, adds none for a pair that had one,
and returns the number of rows it inserted.
-/
theorem addJobs_one_job_per_pair (res : List (Nat × String)) (table : KeyedJobs)
    (stored : column args.finSteps = finStepStr args.finSteps) :
    ∃ added, (addJobs column args res table).2.rows = table.rows ++ added ∧
      (addJobs column args res table).1 = added.length ∧
      (∀ job ∈ added, job.key ∉ table.rows.map (·.key)) ∧
      ∀ pair ∈ res,
        ((addJobs column args res table).2.rows.map (·.key)).count (newJob column args pair).key = 1 := by
  obtain ⟨added, rows, count, -, loaded⟩ := addJobs_loads column args res table
  have unique := (addJobs column args res table).2.unique
  refine ⟨added, rows, by simpa using count, fun job member present => ?_, fun pair member => ?_⟩
  · rw [rows, List.map_append] at unique
    exact List.disjoint_of_nodup_append unique present (List.mem_map_of_mem _ member)
  · refine List.count_eq_one_of_mem unique ?_
    by_cases skipped : pair ∈ preEx args table
    · rw [rows, List.map_append]
      refine List.mem_append_left _ ?_
      simpa [newJob, stored] using mem_preEx args skipped
    · exact loaded pair member skipped

end AddJobs

/-- A `fin_step` column that stores a set as its members joined by commas,
the empty set as the empty text, and `None` as its default `not_fin`. -/
def commaColumn : Option (List String) → String
  | none => "not_fin"
  | some steps => ",".intercalate steps

/-- Session 1 with one `not_fin` job of the pair. -/
def notFinJobs : KeyedJobs where
  rows := [⟨⟨1, "ConvDirectNaiveConvFwd", 1, "not_fin"⟩, .new, true, some "conv"⟩]
  unique := by decide

theorem addJobs_empty_fin_steps_skips_pair :
    (addJobs commaColumn ⟨1, some "conv", argFinSteps (some "")⟩ [(1, "ConvDirectNaiveConvFwd")]
        notFinJobs).1 = 0 ∧
      ((addJobs commaColumn ⟨1, some "conv", argFinSteps (some "")⟩
          [(1, "ConvDirectNaiveConvFwd")] notFinJobs).2.rows.map (·.key)).count
        ⟨1, "ConvDirectNaiveConvFwd", 1, commaColumn (argFinSteps (some ""))⟩ = 0 := by
  decide

end MITuna
