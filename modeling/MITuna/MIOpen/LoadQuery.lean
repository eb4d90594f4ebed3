import MITuna.MIOpen.LoadJob
import MITuna.MIOpen.Context

namespace MITuna

/-!
# What `load_job` asks the database for

`run_load_job` (`tuna/miopen/subcmd/load_job.py`) turns its arguments into the
(config, solver) pairs that `add_jobs` loads.  `arg_fin_steps` reads the
steps.  `arg_solvers` maps the names of `--solvers`, or the solvers of
`--algo`, to solver ids.  `config_query` selects the valid configs of a tag and
a precision.  `compose_query` joins the session's applicability rows with the
solver table under the filters the arguments ask for.  It restricts the
solvers only when the first listed name has a truthy id, so an unknown first
name turns the restriction off.

The tables' schemas are not in the source: a table is the list of its rows
with the columns these queries read, and the config's input tensor's
`data_type` is read as a column of the config.  `get_solver_ids`,
`ALG_SLV_MAP` and `TENSOR_PRECISION` are not in the source either and are
parameters; `ConfigType` is taken with its two members.  MySQL returns the
joined rows in no promised order: the model scans the applicability rows and,
for each, the solver rows, and nothing proved below depends on that order.
`test_tag_name` only logs, so it is left out.
-/

/-- `ConfigType`, as `compose_query` tells its members apart. -/
inductive ConfigType
  | convolution
  | batchNorm
  deriving Repr, DecidableEq

/-- A row of the solver table, with the columns `compose_query` reads. -/
structure SolverRow where
  id : Nat
  solver : String
  valid : Bool
  tunable : Bool
  configType : ConfigType
  isDynamic : Bool
  deriving Repr, DecidableEq

/-- A row of the applicability table `solver_app`. -/
structure SolverAppRow where
  config : Nat
  solver : Nat
  session : Nat
  applicable : Bool
  deriving Repr, DecidableEq

/-- A row of the config table: its id, `valid`, and its input tensor's `data_type`. -/
structure ConfigRow where
  id : Nat
  valid : Bool
  dataType : String
  deriving Repr, DecidableEq

/-- A row of `config_tags`. -/
structure ConfigTagRow where
  config : Nat
  tag : String
  deriving Repr, DecidableEq

/-- The tables the two queries read. -/
structure LoadTables where
  solverApp : List SolverAppRow
  solvers : List SolverRow
  configs : List ConfigRow
  configTags : List ConfigTagRow

/-- What `run_load_job` reads of its arguments. -/
structure LoadJobArgs where
  finSteps : Option String
  solvers : Option String
  algo : Option String
  tag : Option String
  cmd : Option String
  sessionId : Nat
  label : Option String
  tunable : Bool
  configType : ConfigType
  onlyDynamic : Bool

/-- Python's truth value of an optional text: given and not empty. -/
def truthyText : Option String → Bool
  | some text => text != ""
  | none => false

section Queries

variable (solverIdMap : String → Option Nat) (algSlvMap : String → Option (List String))
  (tensorPrecision : String → Option String)

/-- `solver_arr`: the names of `--solvers` split at commas, else the solvers
`ALG_SLV_MAP` gives `--algo` (a `KeyError` for an unknown one), else none. -/
def solverArr (solvers algo : Option String) : Except PyError (List String) :=
  if truthyText solvers then
    .ok ((solvers.getD "").splitOn ",")
  else if truthyText algo then
    match algSlvMap (algo.getD "") with
    | some names => .ok names
    | none => .error .keyError
  else
    .ok []

/-- `arg_solvers`: each name with the id `get_solver_ids()` gives it, `None`
for an unknown name (logged and kept), and `[('', None)]` when there is no name. -/
def argSolvers (solvers algo : Option String) : Except PyError (List (String × Option Nat)) :=
  (solverArr algSlvMap solvers algo).map fun names =>
    if names = [] then [("", none)] else names.map fun name => (name, solverIdMap name)

/-- The ids `compose_query` restricts `solver_app.solver` to, `[x for _, x in
args.solvers]`: present only when `args.solvers[0][1]` is truthy. -/
def solverFilter : List (String × Option Nat) → Option (List (Option Nat))
  | solvers@((_, some (_ + 1)) :: _) => some (solvers.map Prod.snd)
  | _ => none

/-- `TENSOR_PRECISION[args.cmd]` when `--cmd` is given, a `KeyError` for an
unknown one. -/
def cmdPrecision (cmd : Option String) : Except PyError (Option String) :=
  if truthyText cmd then
    match tensorPrecision (cmd.getD "") with
    | some dataType => .ok (some dataType)
    | none => .error .keyError
  else
    .ok none

/-- The filters of `config_query` on a config: `valid`, the tag's subquery,
and the precision. -/
def configSelected (tables : LoadTables) (tag : Option String) (precision : Option String)
    (config : ConfigRow) : Bool :=
  config.valid &&
    (!truthyText tag ||
      tables.configTags.any fun row => row.tag == tag.getD "" && row.config == config.id) &&
    precision.all (· == config.dataType)

/-- `config_query` evaluated: the ids of the configs that pass its filters. -/
def configQuery (tables : LoadTables) (tag cmd : Option String) : Except PyError (List Nat) :=
  (cmdPrecision tensorPrecision cmd).map fun precision =>
    (tables.configs.filter (configSelected tables tag precision)).map ConfigRow.id

/-- The filters of `compose_query` on one joined row.  `solver_app.solver IN
(...)` never matches the `NULL` of an unknown name. -/
def appliesTo (args : LoadJobArgs) (solvers : List (String × Option Nat)) (cfgIds : List Nat)
    (app : SolverAppRow) (solver : SolverRow) : Bool :=
  app.session == args.sessionId && app.solver == solver.id && app.applicable && solver.valid &&
    (solverFilter solvers).all (·.contains (some app.solver)) &&
    (!args.tunable || solver.tunable) &&
    solver.configType == (if args.configType = .batchNorm then .batchNorm else .convolution) &&
    (!args.onlyDynamic || solver.isDynamic) &&
    cfgIds.contains app.config

/-- `compose_query(...).all()`: the (config, solver name) pairs of the joined
rows that pass the filters. -/
def composeQuery (args : LoadJobArgs) (solvers : List (String × Option Nat))
    (tables : LoadTables) (cfgIds : List Nat) : List (Nat × String) :=
  tables.solverApp.flatMap fun app =>
    (tables.solvers.filter (appliesTo args solvers cfgIds app)).map fun solver =>
      (app.config, solver.solver)

/-- `args.solvers` as `run_load_job` hands it on: `arg_solvers` runs only
when `--solvers` or `--algo` is given, and the falsy argument stays otherwise. -/
def loadSolvers (args : LoadJobArgs) : Except PyError (List (String × Option Nat)) :=
  if truthyText args.solvers || truthyText args.algo then
    argSolvers solverIdMap algSlvMap args.solvers args.algo
  else
    .ok []

/-- `run_load_job` after `connect_db`: the number of jobs `add_jobs` inserted
and the job table it leaves, or the `KeyError` of an unknown `--algo` or
`--cmd`. -/
def runLoadJob (column : Option (List String) → String) (args : LoadJobArgs)
    (tables : LoadTables) (jobs : KeyedJobs) : Except PyError (Nat × KeyedJobs) := do
  let solvers ← loadSolvers solverIdMap algSlvMap args
  let cfgIds ← configQuery tensorPrecision tables args.tag args.cmd
  pure (addJobs column ⟨args.sessionId, args.label, argFinSteps args.finSteps⟩
    (composeQuery args solvers tables cfgIds) jobs)

/-- The first listed name has a truthy id. -/
def firstResolves (names : List String) : Bool :=
  match names.head?.bind solverIdMap with
  | some (_ + 1) => true
  | _ => false

/-! ## The queries' rows -/

/-- The solver list `run_load_job` hands `compose_query`: `arg_solvers`'
list when it runs, and the falsy argument otherwise. -/
def passedSolvers (names : List String) (args : LoadJobArgs) : List (String × Option Nat) :=
  if truthyText args.solvers || truthyText args.algo then
    if names = [] then [("", none)] else names.map fun name => (name, solverIdMap name)
  else
    []

/-- The restriction draws on the names alone: none unless the first name has
a truthy id, and then the ids of all the names. -/
theorem solverFilter_passedSolvers {names : List String} {args : LoadJobArgs}
    (listed : solverArr algSlvMap args.solvers args.algo = .ok names) :
    solverFilter (passedSolvers solverIdMap names args) =
      if firstResolves solverIdMap names then some (names.map solverIdMap) else none := by
  unfold passedSolvers
  split
  · cases names with
    | nil => rfl
    | cons first rest =>
        simp only [reduceCtorEq, if_false, List.map_cons, firstResolves, List.head?_cons,
          Option.some_bind]
        cases solverIdMap first with
        | none => rfl
        | some id => cases id <;> simp [solverFilter]
  · rename_i given
    simp only [Bool.or_eq_true, not_or, Bool.not_eq_true] at given
    simp only [solverArr, given, Bool.false_eq_true, if_false, Except.ok.injEq] at listed
    simp [← listed, solverFilter, firstResolves]

/-- The solver clause of `compose_query` on a solver id, through the names. -/
theorem solverClause_iff {names : List String} {args : LoadJobArgs}
    (listed : solverArr algSlvMap args.solvers args.algo = .ok names) (id : Nat) :
    (solverFilter (passedSolvers solverIdMap names args)).all (·.contains (some id)) = true ↔
      (firstResolves solverIdMap names = true →
        ∃ name ∈ names, solverIdMap name = some id) := by
  rw [solverFilter_passedSolvers solverIdMap algSlvMap listed]
  split_ifs with resolves <;> simp [resolves, eq_comm]

theorem mem_composeQuery {args : LoadJobArgs} {solvers : List (String × Option Nat)}
    {tables : LoadTables} {cfgIds : List Nat} {pair : Nat × String} :
    pair ∈ composeQuery args solvers tables cfgIds ↔
      ∃ app ∈ tables.solverApp, ∃ solver ∈ tables.solvers,
        appliesTo args solvers cfgIds app solver = true ∧ (app.config, solver.solver) = pair := by
  simp [composeQuery, and_assoc]

theorem precision_all_iff {cmd precision : Option String}
    (read : cmdPrecision tensorPrecision cmd = .ok precision) (dataType : String) :
    precision.all (· == dataType) = true ↔
      (truthyText cmd = true → tensorPrecision (cmd.getD "") = some dataType) := by
  unfold cmdPrecision at read
  split_ifs at read with given
  · cases known : tensorPrecision (cmd.getD "") <;> rw [known] at read <;> cases read
    simp [given]
  · cases read
    simp [given]

theorem mem_configQuery {tables : LoadTables} {tag cmd : Option String} {ids : List Nat}
    (queried : configQuery tensorPrecision tables tag cmd = .ok ids) (id : Nat) :
    id ∈ ids ↔ ∃ config ∈ tables.configs, config.id = id ∧ config.valid ∧
      (truthyText tag = true →
        ∃ row ∈ tables.configTags, row.tag = tag.getD "" ∧ row.config = id) ∧
      (truthyText cmd = true → tensorPrecision (cmd.getD "") = some config.dataType) := by
  cases read : cmdPrecision tensorPrecision cmd with
  | error _ =>
      rw [configQuery, read] at queried
      cases queried
  | ok precision =>
      rw [configQuery, read] at queried
      cases queried
      simp only [List.mem_map, List.mem_filter, configSelected, Bool.and_eq_true,
        Bool.or_eq_true, Bool.not_eq_true', List.any_eq_true, beq_iff_eq,
        precision_all_iff tensorPrecision read]
      constructor
      · rintro ⟨config, ⟨member, ⟨valid, tagged⟩, typed⟩, rfl⟩
        refine ⟨config, member, rfl, valid, fun given => ?_, typed⟩
        simpa [given] using tagged
      · rintro ⟨config, member, rfl, valid, tagged, typed⟩
        refine ⟨config, ⟨member, ⟨valid, ?_⟩, typed⟩, rfl⟩
        cases given : truthyText tag
        · exact .inl rfl
        · exact .inr (by simpa using tagged given)

/-! ## What the arguments ask for -/

/-- A pair the arguments ask `load_job` for, stated over the tables: an
applicable `solver_app` row of the session for the config and the solver, a
valid config of the tag and the precision asked for, and a valid solver of the
config type, tunable and dynamic when asked, and one of the listed solvers
when the first listed name has an id. -/
structure Requested (names : List String) (args : LoadJobArgs) (tables : LoadTables)
    (config : Nat) (solver : SolverRow) : Prop where
  listed : solver ∈ tables.solvers
  applicable : ∃ app ∈ tables.solverApp, app.config = config ∧ app.solver = solver.id ∧
    app.session = args.sessionId ∧ app.applicable
  configured : ∃ row ∈ tables.configs, row.id = config ∧ row.valid ∧
    (truthyText args.tag = true →
      ∃ tagRow ∈ tables.configTags,
        tagRow.tag = args.tag.getD "" ∧ tagRow.config = config) ∧
    (truthyText args.cmd = true → tensorPrecision (args.cmd.getD "") = some row.dataType)
  valid : solver.valid
  ofType : solver.configType = if args.configType = .batchNorm then .batchNorm else .convolution
  tunable : args.tunable = true → solver.tunable
  dynamic : args.onlyDynamic = true → solver.isDynamic
  named : firstResolves solverIdMap names = true →
    ∃ name ∈ names, solverIdMap name = some solver.id

/-- The query's pairs are the pairs the arguments ask for. -/
theorem mem_composeQuery_iff {names : List String} {args : LoadJobArgs} {tables : LoadTables}
    {cfgIds : List Nat} (listed : solverArr algSlvMap args.solvers args.algo = .ok names)
    (queried : configQuery tensorPrecision tables args.tag args.cmd = .ok cfgIds)
    (config : Nat) (name : String) :
    (config, name) ∈ composeQuery args (passedSolvers solverIdMap names args) tables cfgIds ↔
      ∃ solver, solver.solver = name ∧
        Requested solverIdMap tensorPrecision names args tables config solver := by
  rw [mem_composeQuery]
  constructor
  · rintro ⟨app, appMember, solver, solverMember, applies, same⟩
    simp only [appliesTo, Bool.and_eq_true, beq_iff_eq, Bool.or_eq_true, Bool.not_eq_true',
      List.elem_iff, solverClause_iff solverIdMap algSlvMap listed] at applies
    obtain ⟨⟨⟨⟨⟨⟨⟨⟨session, joined⟩, applicable⟩, valid⟩, named⟩, tunable⟩,
      ofType⟩, dynamic⟩, configured⟩ := applies
    obtain ⟨rfl, rfl⟩ := Prod.mk.inj same
    refine ⟨solver, rfl, solverMember, ⟨app, appMember, rfl, joined, session, applicable⟩,
      (mem_configQuery tensorPrecision queried _).mp configured, valid, ofType, ?_, ?_, ?_⟩
    · exact fun asked => tunable.resolve_left (by simp [asked])
    · exact fun asked => dynamic.resolve_left (by simp [asked])
    · exact joined ▸ named
  · rintro ⟨solver, rfl, requested⟩
    obtain ⟨app, appMember, rfl, joined, session, applicable⟩ := requested.applicable
    refine ⟨app, appMember, solver, requested.listed, ?_, rfl⟩
    simp only [appliesTo, Bool.and_eq_true, beq_iff_eq, Bool.or_eq_true, Bool.not_eq_true',
      List.elem_iff, solverClause_iff solverIdMap algSlvMap listed,
      mem_configQuery tensorPrecision queried, joined]
    refine ⟨⟨⟨⟨⟨⟨⟨⟨session, trivial⟩, applicable⟩, requested.valid⟩,
      requested.named⟩, ?_⟩, requested.ofType⟩, ?_⟩, requested.configured⟩
    · cases asked : args.tunable
      · exact .inl rfl
      · exact .inr (requested.tunable asked)
    · cases asked : args.onlyDynamic
      · exact .inl rfl
      · exact .inr (requested.dynamic asked)

/-! ## The whole load -/

/-- A run that returns read its names and its configs, and is `add_jobs` on
the query's pairs. -/
theorem runLoadJob_eq_ok {column : Option (List String) → String} {args : LoadJobArgs}
    {tables : LoadTables} {jobs : KeyedJobs} {result : Nat × KeyedJobs}
    (ran : runLoadJob solverIdMap algSlvMap tensorPrecision column args tables jobs = .ok result) :
    ∃ names cfgIds, solverArr algSlvMap args.solvers args.algo = .ok names ∧
      configQuery tensorPrecision tables args.tag args.cmd = .ok cfgIds ∧
      result = addJobs column ⟨args.sessionId, args.label, argFinSteps args.finSteps⟩
        (composeQuery args (passedSolvers solverIdMap names args) tables cfgIds) jobs := by
  obtain ⟨solvers, solved, rest⟩ := except_bind_eq_ok.mp ran
  obtain ⟨cfgIds, queried, loaded⟩ := except_bind_eq_ok.mp rest
  cases loaded
  unfold loadSolvers at solved
  split_ifs at solved with given
  · cases listed : solverArr algSlvMap args.solvers args.algo with
    | error _ =>
        rw [argSolvers, listed] at solved
        cases solved
    | ok names =>
        rw [argSolvers, listed] at solved
        cases solved
        exact ⟨names, cfgIds, rfl, queried, by rw [passedSolvers, if_pos given]⟩
  · cases solved
    simp only [Bool.or_eq_true, not_or, Bool.not_eq_true] at given
    exact ⟨[], cfgIds, by simp [solverArr, given], queried, by simp [passedSolvers, given]⟩

/--
`run_load_job`, where the `fin_step` column stores the steps as the text the
pre-existence query compares with: the table it leaves is the old one followed
by the jobs it counts, each a new job for a pair the arguments ask for whose
key the table did not have, and it holds exactly one job of the session with
those steps for every pair the arguments ask for.
-/
theorem runLoadJob_loads_requested {column : Option (List String) → String}
    {args : LoadJobArgs} {tables : LoadTables} {jobs loaded : KeyedJobs} {count : Nat}
    {names : List String}
    (stored : column (argFinSteps args.finSteps) = finStepStr (argFinSteps args.finSteps))
    (listed : solverArr algSlvMap args.solvers args.algo = .ok names)
    (ran : runLoadJob solverIdMap algSlvMap tensorPrecision column args tables jobs =
      .ok (count, loaded)) :
    ∃ added, loaded.rows = jobs.rows ++ added ∧ count = added.length ∧
      (∀ job ∈ added, job.key ∉ jobs.rows.map (·.key) ∧
        ∃ config solver, Requested solverIdMap tensorPrecision names args tables config solver ∧
          job = newJob column ⟨args.sessionId, args.label, argFinSteps args.finSteps⟩
            (config, solver.solver)) ∧
      ∀ config solver, Requested solverIdMap tensorPrecision names args tables config solver →
        (loaded.rows.map (·.key)).count
          ⟨config, solver.solver, args.sessionId, column (argFinSteps args.finSteps)⟩ = 1 := by
  obtain ⟨names', cfgIds, listed', queried, result⟩ := runLoadJob_eq_ok solverIdMap algSlvMap
    tensorPrecision ran
  obtain rfl : names' = names := Except.ok.inj (listed'.symm.trans listed)
  obtain ⟨added, rows, counted, fresh, once⟩ := addJobs_one_job_per_pair column
    ⟨args.sessionId, args.label, argFinSteps args.finSteps⟩
    (composeQuery args (passedSolvers solverIdMap names' args) tables cfgIds) jobs stored
  obtain ⟨added', rows', -, made, -⟩ := addJobs_loads column
    ⟨args.sessionId, args.label, argFinSteps args.finSteps⟩
    (composeQuery args (passedSolvers solverIdMap names' args) tables cfgIds) jobs
  obtain rfl : added' = added := List.append_cancel_left (rows'.symm.trans rows)
  rw [← result] at rows counted once
  refine ⟨added', rows, counted, fun job member => ⟨fresh job member, ?_⟩,
    fun config solver requested => ?_⟩
  · obtain ⟨⟨config, name⟩, inQuery, rfl⟩ := made job member
    obtain ⟨solver, rfl, requested⟩ :=
      (mem_composeQuery_iff solverIdMap algSlvMap tensorPrecision listed queried config name).mp
        inQuery
    exact ⟨config, solver, requested, rfl⟩
  · exact once (config, solver.solver)
      ((mem_composeQuery_iff solverIdMap algSlvMap tensorPrecision listed queried config
        solver.solver).mpr ⟨solver, rfl, requested⟩)

/-- `args.solvers` after `run_load_job`'s step is `arg_solvers`' list of the names. -/
theorem loadSolvers_eq (args : LoadJobArgs) :
    loadSolvers solverIdMap algSlvMap args =
      (solverArr algSlvMap args.solvers args.algo).map (passedSolvers solverIdMap · args) := by
  unfold loadSolvers passedSolvers
  split_ifs with given
  · rfl
  · simp only [Bool.or_eq_true, not_or, Bool.not_eq_true] at given
    simp only [solverArr, given]
    rfl

/-- `compose_query` reads the solver list only through its restriction. -/
theorem composeQuery_congr {args : LoadJobArgs} {solvers others : List (String × Option Nat)}
    (same : solverFilter solvers = solverFilter others) (tables : LoadTables) (cfgIds : List Nat) :
    composeQuery args solvers tables cfgIds = composeQuery args others tables cfgIds := by
  have filters : appliesTo args solvers = appliesTo args others := by
    funext cfgIds app solver
    simp only [appliesTo, same]
  rw [composeQuery, composeQuery, filters]

/-- When the first listed solver has no id, or the id 0, `load_job` loads
exactly what it loads with neither `--solvers` nor `--algo`: every applicable
solver, the listed ones or not. -/
theorem runLoadJob_unresolved_first_solver {column : Option (List String) → String}
    {args : LoadJobArgs} {tables : LoadTables} {jobs : KeyedJobs} {names : List String}
    (listed : solverArr algSlvMap args.solvers args.algo = .ok names)
    (unresolved : firstResolves solverIdMap names = false) :
    runLoadJob solverIdMap algSlvMap tensorPrecision column args tables jobs =
      runLoadJob solverIdMap algSlvMap tensorPrecision column
        { args with solvers := none, algo := none } tables jobs := by
  have unlisted : solverArr algSlvMap none none = .ok [] := rfl
  have same : solverFilter (passedSolvers solverIdMap names args) =
      solverFilter (passedSolvers solverIdMap [] { args with solvers := none, algo := none }) := by
    rw [solverFilter_passedSolvers solverIdMap algSlvMap listed,
      solverFilter_passedSolvers solverIdMap algSlvMap unlisted, unresolved]
    rfl
  simp only [runLoadJob, loadSolvers_eq, listed, unlisted]
  show (configQuery tensorPrecision tables args.tag args.cmd >>= _) =
    (configQuery tensorPrecision tables args.tag args.cmd >>= _)
  simp only [composeQuery_congr same]
  rfl

end Queries

/-- Two valid convolution solvers applicable to config 7 in session 1. -/
def twoSolverTables : LoadTables where
  solverApp := [⟨7, 1, 1, true⟩, ⟨7, 2, 1, true⟩]
  solvers := [⟨1, "ConvDirectNaiveConvFwd", true, false, .convolution, false⟩,
    ⟨2, "ConvBinWinograd3x3U", true, true, .convolution, false⟩]
  configs := [⟨7, true, "FP32"⟩]
  configTags := []

/-- `get_solver_ids()` for the two solvers. -/
def twoSolverIds : String → Option Nat
  | "ConvDirectNaiveConvFwd" => some 1
  | "ConvBinWinograd3x3U" => some 2
  | _ => none

/-- `ALG_SLV_MAP` with an algorithm of the direct solver, and one that lists
a solver the table does not have before it. -/
def twoSolverAlgs : String → Option (List String)
  | "direct" => some ["ConvDirectNaiveConvFwd"]
  | "legacy" => some ["ConvOclDirectFwd", "ConvDirectNaiveConvFwd"]
  | _ => none

/-- `load_job --session_id 1 -l conv --algo <algo>`. -/
def algoArgs (algo : String) : LoadJobArgs :=
  ⟨none, none, some algo, none, none, 1, some "conv", false, .convolution, false⟩

/-- The job `load_job --algo direct` leaves in an empty table. -/
def directJobs : KeyedJobs where
  rows := [⟨⟨7, "ConvDirectNaiveConvFwd", 1, "not_fin"⟩, .new, true, some "conv"⟩]
  unique := by decide

theorem runLoadJob_loads_direct_solver :
    runLoadJob twoSolverIds twoSolverAlgs (fun _ => none) finStepStr (algoArgs "direct")
        twoSolverTables ⟨[], List.nodup_nil⟩ = .ok (1, directJobs) ∧
      (directJobs.rows.map (·.key)).count ⟨7, "ConvDirectNaiveConvFwd", 1, "not_fin"⟩ = 1 := by
  have ran : runLoadJob twoSolverIds twoSolverAlgs (fun _ => none) finStepStr (algoArgs "direct")
      twoSolverTables ⟨[], List.nodup_nil⟩ = .ok (1, directJobs) := rfl
  have listed : solverArr twoSolverAlgs (algoArgs "direct").solvers (algoArgs "direct").algo =
      .ok ["ConvDirectNaiveConvFwd"] := rfl
  obtain ⟨-, -, -, -, once⟩ := runLoadJob_loads_requested twoSolverIds twoSolverAlgs
    (fun _ => none) rfl listed ran
  exact ⟨ran, once 7 ⟨1, "ConvDirectNaiveConvFwd", true, false, .convolution, false⟩
    ⟨.head _, ⟨⟨7, 1, 1, true⟩, .head _, rfl, rfl, rfl, rfl⟩,
      ⟨⟨7, true, "FP32"⟩, .head _, rfl, rfl, by decide, by decide⟩, rfl, rfl, by decide,
      by decide, fun _ => ⟨_, .head _, rfl⟩⟩⟩

theorem runLoadJob_legacy_algo_loads_every_solver :
    runLoadJob twoSolverIds twoSolverAlgs (fun _ => none) finStepStr (algoArgs "legacy")
        twoSolverTables ⟨[], List.nodup_nil⟩ =
      runLoadJob twoSolverIds twoSolverAlgs (fun _ => none) finStepStr
        { algoArgs "legacy" with solvers := none, algo := none } twoSolverTables
        ⟨[], List.nodup_nil⟩ ∧
    (runLoadJob twoSolverIds twoSolverAlgs (fun _ => none) finStepStr (algoArgs "legacy")
        twoSolverTables ⟨[], List.nodup_nil⟩).map Prod.fst = .ok 2 :=
  ⟨runLoadJob_unresolved_first_solver twoSolverIds twoSolverAlgs (fun _ => none) rfl rfl, rfl⟩

end MITuna
