import MITuna.PyText
import MITuna.MIOpen.LoadQuery

namespace MITuna

/-!
# `MIOpen.parse_args` and what reads its result

`MIOpen.parse_args` (`tuna/miopen/miopen_lib.py`) checks what jsonargparse
parsed, turns `--fin_steps` and `--blacklist` into lists, and ends with
`update_operation`.  `go_fish` then asks `has_tunable_operation` whether to
run the celery tuning loop, and the workers get their environment from
`get_envmt`.

jsonargparse is not modelled: its result, after `overwrite_common_args`
copied a subcommand's values over the common ones, is the input.  `FinStep`,
`MIOPEN_ALG_LIST`, the interface's `db_name` and Python's `int()` of a text
are not in the source and are parameters.  Python keeps `fin_steps` a text
when `check_fin_args` does not run and a list when it does, and `in` tests a
substring of the one and a member of the other: both are kept apart.
-/

/-- Python's `str` of a list of names that hold no quote or backslash. -/
def listStr (names : List String) : String :=
  "[" ++ ", ".intercalate (names.map fun name => "'" ++ name ++ "'") ++ "]"

/-- Python's `str` of an optional number. -/
def optionStr : Option Nat → String
  | some n => toString n
  | none => "None"

/-- Python's truth value of an optional number: given and not `0`. -/
def truthyNat : Option Nat → Bool
  | some (_ + 1) => true
  | _ => false

/-- How `parse_args` stops instead of returning. -/
inductive ArgError
  /-- `parser.print_help()` and `sys.exit(-1)`. -/
  | printHelp
  /-- `raise CustomError(msg)`. -/
  | customError (msg : String)
  /-- `parser.error(msg)`: the usage, the message, and exit status 2. -/
  | parserError (msg : String)
  /-- A failed `assert`. -/
  | assertionError
  /-- `int()` of a text that is not a number. -/
  | valueError
  deriving Repr, DecidableEq

/-- What `parser.parse_args()` leaves in `self.args` that `parse_args` and
the functions after it read. -/
structure MIOpenArgs where
  /-- `len(sys.argv)`. -/
  argc : Nat
  subcommand : Option String
  configType : Option ConfigType
  listSolvers : Bool
  finSteps : Option String
  findMode : Option Int
  checkStatus : Bool
  restartMachine : Bool
  executeCmd : Option String
  blacklist : Option String
  machines : Option String
  remoteMachine : Bool
  initSession : Bool
  label : Option String
  updateApplicability : Bool
  sessionId : Option Nat
  shutdownWorkers : Bool
  deriving Repr, DecidableEq

/-- `self.args.fin_steps` after `parse_args`: the text as given, or the list
`check_fin_args` made of it. -/
inductive FinStepsArg
  | text (steps : String)
  | list (steps : List String)
  deriving Repr, DecidableEq

/-- What `parse_args` leaves in `self.args` and `self.prefix`. -/
structure CheckedArgs where
  subcommand : Option String
  configType : ConfigType
  finSteps : Option FinStepsArg
  /-- `self.prefix`, which `set_prefix` writes when `check_fin_args` ran. -/
  prefixText : Option String
  findMode : Option Int
  /-- The list `check_blacklist` made, or none when `--blacklist` was falsy. -/
  blacklist : Option (List String)
  machines : Option (List Int)
  localMachine : Bool
  label : Option String
  updateApplicability : Bool
  sessionId : Option Nat
  shutdownWorkers : Bool
  deriving Repr, DecidableEq

/-- The steps `parse_args` asks a session for. -/
def finSessionSteps : List String :=
  ["miopen_find_compile", "miopen_find_eval", "miopen_perf_compile", "miopen_perf_eval",
    "get_applicability", "find_compile", "find_eval"]

/-- `MIOPEN_CELERY_STEPS` (`tuna/miopen/metadata.py`). -/
def MIOPEN_CELERY_STEPS : List String :=
  ["miopen_find_compile", "miopen_find_eval", "miopen_perf_compile", "miopen_perf_eval"]

section Checks

variable (finStepNames algList : List String) (pyInt : String → Option Int) (dbName : String)

/-- One `if ...: parser.error(...)` (or another way out) of `parse_args`. -/
def failWhen (condition : Bool) (error : ArgError) : Except ArgError Unit :=
  if condition then .error error else .ok ()

/-- `check_fin_args`, with `finStepNames` for `FinStep.__members__`.  The loop
stops at the first unknown step with a message that names none, so it is `all`. -/
def checkFinArgs (finSteps : String) : Except ArgError (List String) := do
  failWhen (',' ∈ finSteps.data) (.parserError "Multiple fin_steps currently not supported")
  let fSteps := splitText ',' finSteps
  failWhen (!fSteps.all finStepNames.contains)
    (.parserError ("Supported fin steps are: " ++ listStr finStepNames))
  failWhen (fSteps.length != 1) .assertionError
  pure fSteps

/-- `set_prefix` on the list `check_fin_args` left, which is `Iterable`. -/
def setPrefix (sessionId : Option Nat) (finSteps : List String) : String :=
  "d_" ++ dbName ++ "_sess_" ++ optionStr sessionId ++ "_" ++ "-".intercalate finSteps

/-- `check_blacklist`, with `algList` for `MIOPEN_ALG_LIST`. -/
def checkBlacklist (blacklist : String) : Except ArgError (List String) :=
  let names := splitText ',' blacklist
  if names.all algList.contains then .ok names
  else .error (.parserError "Incorrect blacklist value")

/-- Python's `int()` of a text. -/
def pyIntOf (text : String) : Except ArgError Int :=
  match pyInt text with
  | some value => .ok value
  | none => .error .valueError

/-- `[int(x) for x in machines.split(',')] if ',' in machines else [int(machines)]`. -/
def machineIds (text : String) : Except ArgError (List Int) :=
  if ',' ∈ text.data then (splitText ',' text).mapM (pyIntOf pyInt)
  else (fun id => [id]) <$> pyIntOf pyInt text

/-- `args_check` (`tuna/parse_args.py`): the machine ids, `local_machine`, and
the label a new session needs. -/
def argsCheck (args : MIOpenArgs) : Except ArgError (Option (List Int) × Bool) := do
  let machines ← match args.machines with
    | some text => some <$> machineIds pyInt text
    | none => pure none
  failWhen (args.initSession && !truthyText args.label)
    (.parserError "When setting up a new tunning session the following must be specified: label.")
  pure (machines, !args.remoteMachine)

/-- `has_fin`: every fin step is a session step.  `x in fin_session_steps`
for a text iterates its characters. -/
def hasFin : Option FinStepsArg → Bool
  | some (.list steps) => steps != [] && steps.all finSessionSteps.contains
  | some (.text steps) => steps != "" && steps.data.all fun c => finSessionSteps.contains c.toString
  | none => false

/-- The block under `if self.args.fin_steps and self.args.subcommand != 'load_job'`:
`check_fin_args`, then `set_prefix`. -/
def checkedFinSteps (args : MIOpenArgs) : Except ArgError (Option FinStepsArg × Option String) :=
  match args.finSteps with
  | some steps =>
      if steps ≠ "" ∧ args.subcommand ≠ some "load_job" then
        (fun list => (some (.list list), some (setPrefix dbName args.sessionId list))) <$>
          checkFinArgs finStepNames steps
      else .ok (some (.text steps), none)
  | none => .ok (none, none)

/-- The block under `if self.args.blacklist`. -/
def checkedBlacklist (args : MIOpenArgs) : Except ArgError (Option (List String)) :=
  match args.blacklist with
  | some text => if text ≠ "" then some <$> checkBlacklist algList text else .ok none
  | none => .ok none

/-- `MIOpen.parse_args` after `parser.parse_args()`, up to `update_operation`. -/
def parseArgs (args : MIOpenArgs) : Except ArgError CheckedArgs := do
  failWhen (args.argc == 1) .printHelp
  failWhen args.listSolvers (.customError "Printing solvers...")
  let (finSteps, prefixText) ← checkedFinSteps finStepNames dbName args
  failWhen (args.findMode.isNone &&
      !(args.checkStatus || args.restartMachine || truthyText args.executeCmd))
    (.parserError "find_mode must be specified for a tuning run")
  let blacklist ← checkedBlacklist algList args
  let (machines, localMachine) ← argsCheck pyInt args
  failWhen ((args.updateApplicability || hasFin finSteps) && !truthyNat args.sessionId)
    (.parserError "session_id must be specified with this operation")
  pure {
    subcommand := args.subcommand
    configType := args.configType.getD .convolution
    finSteps, prefixText
    findMode := args.findMode
    blacklist, machines, localMachine
    label := args.label
    updateApplicability := args.updateApplicability
    sessionId := args.sessionId
    shutdownWorkers := args.shutdownWorkers }

/-- The argument sets `parse_args` returns on, one field per check, stated
without the order the code makes them in. -/
structure Accepted (args : MIOpenArgs) : Prop where
  given : args.argc ≠ 1
  notListing : args.listSolvers = false
  finStep : ∀ step, args.finSteps = some step → step ≠ "" →
    args.subcommand ≠ some "load_job" → ',' ∉ step.data ∧ step ∈ finStepNames
  findMode : args.findMode.isSome ∨ args.checkStatus ∨ args.restartMachine ∨
    truthyText args.executeCmd
  blacklist : ∀ text, args.blacklist = some text → text ≠ "" →
    ∀ name ∈ splitText ',' text, name ∈ algList
  machines : ∀ text, args.machines = some text →
    ∀ id ∈ splitText ',' text, (pyInt id).isSome
  label : args.initSession → truthyText args.label
  session : args.updateApplicability ∨
      (∃ step ∈ finSessionSteps, args.finSteps = some step ∧
        args.subcommand ≠ some "load_job") →
    truthyNat args.sessionId

end Checks

/-- `update_operation` on a text: `in` is a substring test. -/
def textOperation (steps : String) : Option Operation :=
  if hasInfix "miopen_find_compile" steps || hasInfix "miopen_perf_compile" steps then
    some .compile
  else if hasInfix "miopen_find_eval" steps || hasInfix "miopen_perf_eval" steps then
    some .eval
  else
    none

/-- `update_operation`: the operation the fin steps select and the states it
adds to `fetch_state`. -/
def CheckedArgs.updateOperation (checked : CheckedArgs) : Option Operation × List JobState :=
  let operation := match checked.finSteps with
    | some (.list steps) => MITuna.updateOperation steps
    | some (.text steps) => textOperation steps
    | none => none
  (operation, (operation.map Operation.fetchState).getD [] ++
    if checked.updateApplicability then [.new] else [])

/-- `has_tunable_operation` once `parse_args` has run. -/
def CheckedArgs.hasTunableOperation (checked : CheckedArgs) : Bool :=
  if checked.subcommand.any (hasInfix "load_job") then false
  else if checked.shutdownWorkers then true
  else match checked.finSteps with
    | some (.list steps) => steps != [] && MIOPEN_CELERY_STEPS.any (steps.contains ·)
    | some (.text steps) => steps != "" && MIOPEN_CELERY_STEPS.any (hasInfix · steps)
    | none => false

/-- `get_envmt`. -/
def CheckedArgs.getEnvmt (checked : CheckedArgs) : List String :=
  let envmt := ["MIOPEN_LOG_LEVEL=4", "MIOPEN_SQLITE_KERN_CACHE=ON",
    "MIOPEN_DEBUG_IMPLICIT_GEMM_FIND_ALL_SOLUTIONS=1"]
  let envmt := match checked.findMode with
    | some mode => if mode ≠ 0 then envmt ++ ["MIOPEN_FIND_MODE=" ++ toString mode] else envmt
    | none => envmt
  match checked.blacklist with
  | some names =>
      if names ≠ [] then envmt ++ splitText ',' (", ".intercalate (names.map (· ++ "=0")))
      else envmt
  | none => envmt

/-! ## Splitting at a comma -/

/-- Splitting a `", "`-join at its commas gives the parts back, each one after
the first with the blank of the separator before it. -/
theorem splitOn_comma_blank_join (first : List Char) (rest : List (List Char))
    (firstFree : ',' ∉ first) (restFree : ∀ part ∈ rest, ',' ∉ part) :
    ([',', ' '].intercalate (first :: rest)).splitOn ',' = first :: rest.map (' ' :: ·) := by
  induction rest generalizing first with
  | nil => simpa [List.intercalate] using splitOn_of_not_mem firstFree
  | cons second rest inductionHypothesis =>
      have later := inductionHypothesis second (restFree second (List.mem_cons_self _ _))
        fun part member => restFree part (List.mem_cons_of_mem _ member)
      have joined : [',', ' '].intercalate (first :: second :: rest) =
          first ++ ',' :: ' ' :: [',', ' '].intercalate (second :: rest) := by
        simp [List.intercalate, List.intersperse_cons_cons]
      rw [joined, List.splitOn, List.splitOnP_first (· == ',') first
        (fun _ mem same => firstFree (beq_iff_eq.mp same ▸ mem)) ',' (beq_self_eq_true _),
        List.splitOnP_cons]
      simp only [List.splitOn] at later
      simp [later]

/-- `", ".join` then `split(',')` of comma-free parts: the first part as it
was, every later one with the blank of the separator before it. -/
theorem splitText_comma_blank_join {first : String} {rest : List String}
    (commaFree : ∀ part ∈ first :: rest, ',' ∉ part.data) :
    splitText ',' (", ".intercalate (first :: rest)) = first :: rest.map (" " ++ ·) := by
  rw [splitText, Sql.intercalate_data, List.map_cons,
    splitOn_comma_blank_join _ _ (commaFree first (List.mem_cons_self _ _))
      (by simpa using fun part mem => commaFree part (List.mem_cons_of_mem _ mem))]
  simp only [List.map_cons, List.map_map]
  rfl

/-! ## The checks -/

@[simp] theorem failWhen_false_bind {α : Type} (error : ArgError)
    (f : Unit → Except ArgError α) : failWhen false error >>= f = f () := rfl

@[simp] theorem failWhen_true_bind {α : Type} (error : ArgError)
    (f : Unit → Except ArgError α) : failWhen true error >>= f = .error error := rfl

@[simp] theorem failWhen_false_map {α : Type} (error : ArgError) (f : Unit → α) :
    f <$> failWhen false error = .ok (f ()) := rfl

@[simp] theorem failWhen_true_map {α : Type} (error : ArgError) (f : Unit → α) :
    f <$> failWhen true error = .error error := rfl

theorem failWhen_eq_ok {condition : Bool} {error : ArgError} {done : Unit} :
    failWhen condition error = .ok done ↔ condition = false := by
  cases condition <;> simp [failWhen]

section Accepting

variable {finStepNames algList : List String} {pyInt : String → Option Int} {dbName : String}

/-- The `fin_steps` block: a checked list and its prefix, or the value as it was. -/
theorem checkedFinSteps_eq_ok {args : MIOpenArgs} {result : Option FinStepsArg × Option String} :
    checkedFinSteps finStepNames dbName args = .ok result ↔
      (∃ step, args.finSteps = some step ∧ step ≠ "" ∧
        args.subcommand ≠ some "load_job" ∧ ',' ∉ step.data ∧ step ∈ finStepNames ∧
        result = (some (.list [step]), some (setPrefix dbName args.sessionId [step]))) ∨
      ((∀ step, args.finSteps = some step → step ≠ "" →
          args.subcommand = some "load_job") ∧
        result = (args.finSteps.map .text, none)) := by
  unfold checkedFinSteps
  cases given : args.finSteps with
  | none => simp [eq_comm]
  | some step =>
      dsimp only
      by_cases checked : step ≠ "" ∧ args.subcommand ≠ some "load_job"
      · rw [if_pos checked]
        by_cases comma : ',' ∈ step.data
        · simp [checkFinArgs, Functor.map, Except.map, checked, comma]
        · by_cases named : step ∈ finStepNames <;>
            simp [checkFinArgs, failWhen, bind, Except.bind, pure, Except.pure, Functor.map,
              Except.map, checked, comma, named, eq_comm, splitText_of_not_mem comma]
      · rw [if_neg checked]
        rcases not_and_or.mp checked with empty | loadJob
        · simp [not_not.mp empty, eq_comm]
        · simp [not_not.mp loadJob, eq_comm]

theorem checkedFinSteps_isOk {args : MIOpenArgs} :
    (∃ result, checkedFinSteps finStepNames dbName args = .ok result) ↔
      ∀ step, args.finSteps = some step → step ≠ "" →
        args.subcommand ≠ some "load_job" → ',' ∉ step.data ∧ step ∈ finStepNames := by
  simp only [checkedFinSteps_eq_ok]
  constructor
  · rintro ⟨result, ⟨step, given, -, -, comma, named, -⟩ | ⟨skipped, -⟩⟩
      other same nonempty kept
    · cases given.symm.trans same
      exact ⟨comma, named⟩
    · exact absurd (skipped other same nonempty) kept
  · intro checked
    by_cases run :
        ∃ step, args.finSteps = some step ∧ step ≠ "" ∧ args.subcommand ≠ some "load_job"
    · obtain ⟨step, given, nonempty, kept⟩ := run
      obtain ⟨comma, named⟩ := checked step given nonempty kept
      exact ⟨_, .inl ⟨step, given, nonempty, kept, comma, named, rfl⟩⟩
    · refine ⟨_, .inr ⟨fun step given nonempty => ?_, rfl⟩⟩
      by_contra kept
      exact run ⟨step, given, nonempty, kept⟩

/-- A text `fin_steps` is never all session steps: its characters are not steps. -/
theorem hasFin_text (steps : String) : hasFin (some (.text steps)) = false := by
  rcases steps with ⟨_ | ⟨c, rest⟩⟩
  · rfl
  · have short : c.toString ∉ finSessionSteps := fun mem => by
      have lengths : ∀ step ∈ finSessionSteps, 1 < step.length := by decide
      exact absurd (lengths _ mem) (by simp [Char.toString])
    simp [hasFin, short]

theorem ne_empty_of_mem_finSessionSteps {step : String} (mem : step ∈ finSessionSteps) :
    step ≠ "" := by
  rintro rfl
  simp [finSessionSteps] at mem

/-- `has_fin` after the block holds exactly for one session step that was checked. -/
theorem hasFin_of_checkedFinSteps {args : MIOpenArgs} {finSteps : Option FinStepsArg}
    {prefixText : Option String}
    (checked : checkedFinSteps finStepNames dbName args = .ok (finSteps, prefixText)) :
    hasFin finSteps = true ↔
      ∃ step ∈ finSessionSteps, args.finSteps = some step ∧
        args.subcommand ≠ some "load_job" := by
  rcases checkedFinSteps_eq_ok.mp checked with
    ⟨step, given, -, kept, -, -, same⟩ | ⟨skipped, same⟩
  · cases same
    simp [hasFin, given, kept]
  · cases same
    have text : hasFin (args.finSteps.map .text) = false := by
      cases args.finSteps with
      | none => rfl
      | some steps => exact hasFin_text steps
    simp only [text, Bool.false_eq_true, false_iff, not_exists, not_and]
    exact fun step mem given kept =>
      kept (skipped step given (ne_empty_of_mem_finSessionSteps mem))

/-- The `blacklist` block: the checked names, or none when it was falsy. -/
theorem checkedBlacklist_eq_ok {args : MIOpenArgs} {result : Option (List String)} :
    checkedBlacklist algList args = .ok result ↔
      (∃ text, args.blacklist = some text ∧ text ≠ "" ∧
        (∀ name ∈ splitText ',' text, name ∈ algList) ∧
        result = some (splitText ',' text)) ∨
      ((∀ text, args.blacklist = some text → text = "") ∧ result = none) := by
  unfold checkedBlacklist checkBlacklist
  cases given : args.blacklist with
  | none => simp [eq_comm]
  | some text =>
      dsimp only
      by_cases empty : text = ""
      · simp [empty, eq_comm]
      · have allListed : (splitText ',' text).all algList.contains = true ↔
            ∀ name ∈ splitText ',' text, name ∈ algList := by
          simp [List.all_eq_true]
        rw [if_pos empty]
        by_cases listed : ∀ name ∈ splitText ',' text, name ∈ algList
        · rw [if_pos (allListed.mpr listed)]
          simp [Functor.map, Except.map, empty, eq_comm]
          exact fun _ => listed
        · rw [if_neg (mt allListed.mp listed)]
          simp [Functor.map, Except.map, empty, listed]

theorem checkedBlacklist_isOk {args : MIOpenArgs} :
    (∃ result, checkedBlacklist algList args = .ok result) ↔
      ∀ text, args.blacklist = some text → text ≠ "" →
        ∀ name ∈ splitText ',' text, name ∈ algList := by
  simp only [checkedBlacklist_eq_ok]
  constructor
  · rintro ⟨result, ⟨text, given, -, listed, -⟩ | ⟨skipped, -⟩⟩ other same nonempty
    · cases given.symm.trans same
      exact listed
    · exact absurd (skipped other same) nonempty
  · intro listed
    by_cases run : ∃ text, args.blacklist = some text ∧ text ≠ ""
    · obtain ⟨text, given, nonempty⟩ := run
      exact ⟨_, .inl ⟨text, given, nonempty, listed text given nonempty, rfl⟩⟩
    · exact ⟨_, .inr ⟨fun text given =>
        by_contra fun nonempty => run ⟨text, given, nonempty⟩, rfl⟩⟩

theorem mapM_isOk_iff {ε α β : Type} {f : α → Except ε β} {xs : List α} :
    (∃ ys, xs.mapM f = .ok ys) ↔ ∀ x ∈ xs, ∃ y, f x = .ok y :=
  ⟨fun ⟨_, mapped⟩ _ member =>
    let ⟨y, _, ran⟩ := Forall₂.exists_of_mem_left (mapM_eq_ok.mp mapped) member
    ⟨y, ran⟩,
   mapM_exists_ok⟩

theorem pyIntOf_isOk {text : String} :
    (∃ value, pyIntOf pyInt text = .ok value) ↔ (pyInt text).isSome := by
  unfold pyIntOf
  cases pyInt text <;> simp

theorem except_map_isOk {ε α β : Type} {f : α → β} {x : Except ε α} :
    (∃ b, f <$> x = .ok b) ↔ ∃ a, x = .ok a := by
  cases x <;> simp [Functor.map, Except.map]

theorem machineIds_isOk {text : String} :
    (∃ ids, machineIds pyInt text = .ok ids) ↔
      ∀ id ∈ splitText ',' text, (pyInt id).isSome := by
  unfold machineIds
  by_cases comma : ',' ∈ text.data
  · simp only [comma, if_true, mapM_isOk_iff, pyIntOf_isOk]
  · simp only [comma, if_false, except_map_isOk, pyIntOf_isOk, splitText_of_not_mem comma,
      List.mem_singleton, forall_eq]

theorem argsCheck_isOk {args : MIOpenArgs} :
    (∃ result, argsCheck pyInt args = .ok result) ↔
      (∀ text, args.machines = some text → ∀ id ∈ splitText ',' text, (pyInt id).isSome) ∧
      (args.initSession → truthyText args.label) := by
  have label : (args.initSession && !truthyText args.label) = false ↔
      (args.initSession → truthyText args.label) := by
    cases args.initSession <;> simp
  cases given : args.machines with
  | none => simp [argsCheck, given, except_bind_eq_ok, failWhen_eq_ok, label, pure, Except.pure]
  | some text =>
      simp only [argsCheck, given, except_bind_eq_ok, failWhen_eq_ok, label, pure, Except.pure,
        exists_const, Except.ok.injEq, Option.some.injEq, forall_eq', ← machineIds_isOk]
      constructor
      · rintro ⟨_, _, mapped, labelled, -⟩
        exact ⟨except_map_isOk.mp ⟨_, mapped⟩, labelled⟩
      · rintro ⟨⟨ids, ran⟩, labelled⟩
        exact ⟨_, some ids, by rw [ran]; rfl, labelled, rfl⟩

/-- `parse_args` returns exactly when every check passes, with what the blocks left. -/
theorem parseArgs_eq_ok {args : MIOpenArgs} {checked : CheckedArgs} :
    parseArgs finStepNames algList pyInt dbName args = .ok checked ↔
      args.argc ≠ 1 ∧ args.listSolvers = false ∧
      ∃ finSteps prefixText,
        checkedFinSteps finStepNames dbName args = .ok (finSteps, prefixText) ∧
        (args.findMode.isNone &&
          !(args.checkStatus || args.restartMachine || truthyText args.executeCmd)) = false ∧
      ∃ blacklist, checkedBlacklist algList args = .ok blacklist ∧
      ∃ machines localMachine, argsCheck pyInt args = .ok (machines, localMachine) ∧
        ((args.updateApplicability || hasFin finSteps) && !truthyNat args.sessionId) = false ∧
        { subcommand := args.subcommand
          configType := args.configType.getD .convolution
          finSteps, prefixText
          findMode := args.findMode
          blacklist, machines, localMachine
          label := args.label
          updateApplicability := args.updateApplicability
          sessionId := args.sessionId
          shutdownWorkers := args.shutdownWorkers } = checked := by
  simp only [parseArgs, except_bind_eq_ok, failWhen_eq_ok, Prod.exists, exists_const,
    beq_eq_false_iff_ne, pure, Except.pure, Except.ok.injEq]

/-- `parse_args` returns exactly on the argument sets that pass every check. -/
theorem parseArgs_ok_iff (args : MIOpenArgs) :
    (∃ checked, parseArgs finStepNames algList pyInt dbName args = .ok checked) ↔
      Accepted finStepNames algList pyInt args := by
  have findMode : (args.findMode.isNone &&
      !(args.checkStatus || args.restartMachine || truthyText args.executeCmd)) = false ↔
      args.findMode.isSome ∨ args.checkStatus ∨ args.restartMachine ∨
        truthyText args.executeCmd := by
    cases args.findMode <;> cases args.checkStatus <;> cases args.restartMachine <;> simp
  have session : ∀ finSteps : Option FinStepsArg,
      ((args.updateApplicability || hasFin finSteps) && !truthyNat args.sessionId) = false ↔
        (args.updateApplicability ∨ hasFin finSteps → truthyNat args.sessionId) := by
    intro finSteps
    cases truthyNat args.sessionId <;> simp
  simp only [parseArgs_eq_ok, findMode, session]
  constructor
  · rintro ⟨_, given, notListing, finSteps, prefixText, fins, asked, blacklist, listed,
      machines, localMachine, checked, sessionGiven, -⟩
    obtain ⟨machineIds, labelled⟩ := argsCheck_isOk.mp ⟨_, checked⟩
    exact { given, notListing, machines := machineIds, label := labelled
            finStep := checkedFinSteps_isOk.mp ⟨_, fins⟩
            findMode := asked
            blacklist := checkedBlacklist_isOk.mp ⟨_, listed⟩
            session := fun needed => sessionGiven
              (needed.imp_right (hasFin_of_checkedFinSteps fins).mpr) }
  · intro accepted
    obtain ⟨⟨finSteps, prefixText⟩, fins⟩ := checkedFinSteps_isOk.mpr accepted.finStep
    obtain ⟨blacklist, listed⟩ := checkedBlacklist_isOk.mpr accepted.blacklist
    obtain ⟨⟨machines, localMachine⟩, checked⟩ :=
      argsCheck_isOk.mpr ⟨accepted.machines, accepted.label⟩
    exact ⟨_, accepted.given, accepted.notListing, finSteps, prefixText, fins, accepted.findMode,
      blacklist, listed, machines, localMachine, checked,
      fun needed => accepted.session (needed.imp_right (hasFin_of_checkedFinSteps fins).mp), rfl⟩

end Accepting

/-- What `check_fin_args` does with every text: a comma is refused first; a
comma-free text is one step, accepted as the one-element list when it names a
`FinStep` and refused with the list of names otherwise.  So the `assert` never
fails: once the text holds no comma, `split(',')` gives exactly one step. -/
theorem checkFinArgs_eq (finStepNames : List String) (steps : String) :
    checkFinArgs finStepNames steps =
      if ',' ∈ steps.data then .error (.parserError "Multiple fin_steps currently not supported")
      else if steps ∈ finStepNames then .ok [steps]
      else .error (.parserError ("Supported fin steps are: " ++ listStr finStepNames)) := by
  by_cases comma : ',' ∈ steps.data
  · simp [checkFinArgs, comma]
  · by_cases named : steps ∈ finStepNames <;>
      simp [checkFinArgs, comma, named, splitText_of_not_mem comma]

/-! ## After `parse_args` -/

section Environment

variable {finStepNames algList : List String} {pyInt : String → Option Int} {dbName : String}

/--
After `parse_args`, `get_envmt` passes a non-empty `--blacklist` on as one
`=0` entry per name, after the entries it makes without one.  Every name is in
`MIOPEN_ALG_LIST`, and every entry but the first starts with the blank that
`", ".join` put after the comma `split(',')` cut at.
-/
theorem getEnvmt_blacklist {args : MIOpenArgs} {checked : CheckedArgs} {text : String}
    (parsed : parseArgs finStepNames algList pyInt dbName args = .ok checked)
    (given : args.blacklist = some text) (nonempty : text ≠ "") :
    ∃ first rest, splitText ',' text = first :: rest ∧
      (∀ name ∈ first :: rest, name ∈ algList) ∧
      checked.getEnvmt = { checked with blacklist := none }.getEnvmt ++
        (first ++ "=0") :: rest.map fun name => " " ++ (name ++ "=0") := by
  obtain ⟨-, -, -, -, -, -, blacklist, listed, -, -, -, -, rfl⟩ := parseArgs_eq_ok.mp parsed
  rcases checkedBlacklist_eq_ok.mp listed with ⟨other, given', -, names, rfl⟩ | ⟨empty, -⟩
  · cases given.symm.trans given'
    obtain ⟨first, rest, split⟩ : ∃ first rest, splitText ',' text = first :: rest :=
      List.exists_cons_of_ne_nil (mt List.map_eq_nil_iff.mp (List.splitOnP_ne_nil _ text.data))
    refine ⟨first, rest, split, split ▸ names, ?_⟩
    have commaFree : ∀ part ∈ (first :: rest).map (· ++ "=0"), ',' ∉ part.data := by
      simp only [List.mem_map, forall_exists_index, and_imp, forall_apply_eq_imp_iff₂,
        String.data_append, List.mem_append, not_or]
      exact fun name mem => ⟨not_mem_of_mem_splitText (split ▸ mem), by decide⟩
    simp only [CheckedArgs.getEnvmt, split, ne_eq, reduceCtorEq, not_false_eq_true, if_true]
    rw [List.map_cons, splitText_comma_blank_join commaFree, List.map_map]
    rfl
  · exact absurd (empty text given) nonempty

end Environment

/-- `go_fish.py miopen --session_id 3 --fin_steps miopen_find_compile -B
MIOPEN_DEBUG_CONV_FFT,MIOPEN_DEBUG_CONV_GEMM` as jsonargparse reads it, once
`clean_args` has taken `miopen` out of `sys.argv`. -/
def blacklistArgs : MIOpenArgs where
  argc := 7
  subcommand := none
  configType := none
  listSolvers := false
  finSteps := some "miopen_find_compile"
  findMode := some 1
  checkStatus := false
  restartMachine := false
  executeCmd := none
  blacklist := some "MIOPEN_DEBUG_CONV_FFT,MIOPEN_DEBUG_CONV_GEMM"
  machines := none
  remoteMachine := false
  initSession := false
  label := none
  updateApplicability := false
  sessionId := some 3
  shutdownWorkers := false

/-- What `parse_args` leaves for `blacklistArgs` in a database named `tuna`. -/
def blacklistChecked : CheckedArgs where
  subcommand := none
  configType := .convolution
  finSteps := some (.list ["miopen_find_compile"])
  prefixText := some "d_tuna_sess_3_miopen_find_compile"
  findMode := some 1
  blacklist := some ["MIOPEN_DEBUG_CONV_FFT", "MIOPEN_DEBUG_CONV_GEMM"]
  machines := none
  localMachine := true
  label := none
  updateApplicability := false
  sessionId := some 3
  shutdownWorkers := false

theorem getEnvmt_blanks_second_blacklist_name :
    parseArgs ["miopen_find_compile"] ["MIOPEN_DEBUG_CONV_FFT", "MIOPEN_DEBUG_CONV_GEMM"]
        (fun _ => none) "tuna" blacklistArgs = .ok blacklistChecked ∧
      ∃ first rest,
        splitText ',' "MIOPEN_DEBUG_CONV_FFT,MIOPEN_DEBUG_CONV_GEMM" = first :: rest ∧
        (∀ name ∈ first :: rest,
          name ∈ ["MIOPEN_DEBUG_CONV_FFT", "MIOPEN_DEBUG_CONV_GEMM"]) ∧
        blacklistChecked.getEnvmt = { blacklistChecked with blacklist := none }.getEnvmt ++
          (first ++ "=0") :: rest.map fun name => " " ++ (name ++ "=0") :=
  ⟨rfl, @getEnvmt_blacklist ["miopen_find_compile"] _ (fun _ => none) "tuna" blacklistArgs
    blacklistChecked _ rfl rfl (by decide)⟩

example : blacklistChecked.getEnvmt =
    ["MIOPEN_LOG_LEVEL=4", "MIOPEN_SQLITE_KERN_CACHE=ON",
      "MIOPEN_DEBUG_IMPLICIT_GEMM_FIND_ALL_SOLUTIONS=1", "MIOPEN_FIND_MODE=1",
      "MIOPEN_DEBUG_CONV_FFT=0", " MIOPEN_DEBUG_CONV_GEMM=0"] := rfl

theorem celery_any_list (steps : List String) :
    (steps != [] && MIOPEN_CELERY_STEPS.any (steps.contains ·)) =
      (updateOperation steps).isSome := by
  unfold updateOperation
  split_ifs with compile eval
  · rcases compile with mem | mem <;> simp [MIOPEN_CELERY_STEPS, List.ne_nil_of_mem mem, mem]
  · rcases eval with mem | mem <;> simp [MIOPEN_CELERY_STEPS, List.ne_nil_of_mem mem, mem]
  · simp only [not_or] at compile eval
    simp [MIOPEN_CELERY_STEPS, compile, eval]

theorem celery_any_text (steps : String) :
    (steps != "" && MIOPEN_CELERY_STEPS.any (hasInfix · steps)) =
      (textOperation steps).isSome := by
  unfold textOperation
  by_cases empty : steps = ""
  · subst empty
    decide
  · split_ifs with compile eval
    · simp only [Bool.or_eq_true] at compile
      rcases compile with found | found <;> simp [MIOPEN_CELERY_STEPS, empty, found]
    · simp only [Bool.or_eq_true] at eval
      rcases eval with found | found <;> simp [MIOPEN_CELERY_STEPS, empty, found]
    · simp only [Bool.or_eq_true, not_or, Bool.not_eq_true] at compile eval
      simp [MIOPEN_CELERY_STEPS, compile, eval]

/-- `go_fish` runs the celery tuning loop exactly when no `load_job`
subcommand is given and either `--shutdown_workers` is or `update_operation`
chose the operation whose states the loop claims jobs in: `MIOPEN_CELERY_STEPS`
are the four steps `update_operation` tests for. -/
theorem hasTunableOperation_iff (checked : CheckedArgs) :
    checked.hasTunableOperation = true ↔
      checked.subcommand.any (hasInfix "load_job") = false ∧
        (checked.shutdownWorkers = true ∨ checked.updateOperation.1.isSome) := by
  unfold CheckedArgs.hasTunableOperation CheckedArgs.updateOperation
  cases checked.subcommand.any (hasInfix "load_job") <;> cases checked.shutdownWorkers <;>
    rcases checked.finSteps with _ | ⟨steps | steps⟩ <;>
    simp only [celery_any_list, celery_any_text] <;> simp

end MITuna
