import MITuna.MIOpen.Args

namespace MITuna

/-!
# `go_fish.main`: one library object for every yaml file

`go_fish.main` (`tuna/go_fish.py`) makes the library object once and then, for
each yaml file `parse_yaml` split the `--yaml` file into, writes the file's
path into `sys.argv[2]` and asks the object to tune or to run.
`MIOpen.has_tunable_operation` and `MIOpen.run` call `parse_args` only while
`self.args` is `None`, so `sys.argv` is read on the first file alone: when
that file's arguments are not a tuning operation, every later file runs again
with the first file's arguments, and its own path is never read.

`get_library`, `parse_yaml`, the `Library` enum, `MITunaInterface.tune` and argparse
are not in the source.  The library object is what `main` calls on it: its
`parse_args` as a function of `sys.argv`, and the answers of
`has_tunable_operation`, `tune` and `run` once `self.args` is set.  What
`go_fish.parse_args` read with `parse_known_args` is an input.  The
`KeyboardInterrupt` handler and the logging are left out.
-/

/-- What `main` calls on the library object, for arguments `α`, workers `β`
and the library's exceptions `ε`. -/
structure LibraryObject (ε α β : Type) where
  /-- `self.parse_args()`, which reads `sys.argv`. -/
  parseArgs : List String → Except ε α
  /-- What `has_tunable_operation` returns once `self.args` is set. -/
  isTunable : α → Bool
  /-- What `tune(job_batch_size=...)` leaves in `self.args`, or what it raised. -/
  tune : α → Int → Except ε (Option α)
  /-- What `run` returns once `self.args` is set: `None` or the workers it started. -/
  run : α → Except ε (Option (List β))

/-- The `MIOpen` library object: its `parse_args` is jsonargparse's reading of
`sys.argv` (`read`) followed by the checks of `MIOpen.parse_args`. -/
def LibraryObject.miopen {β : Type} (finStepNames algList : List String)
    (pyInt : String → Option Int) (dbName : String) (read : List String → MIOpenArgs)
    (tune : CheckedArgs → Int → Except ArgError (Option CheckedArgs))
    (run : CheckedArgs → Except ArgError (Option (List β))) :
    LibraryObject ArgError CheckedArgs β where
  parseArgs argv := MITuna.parseArgs finStepNames algList pyInt dbName (read argv)
  isTunable := CheckedArgs.hasTunableOperation
  tune := tune
  run := run

/-- `clean_args`: each library name is removed from `sys.argv` once, where it
first stands. -/
def cleanArgs (libs argv : List String) : List String :=
  libs.foldl (fun argv lib => if lib ∈ argv then argv.erase lib else argv) argv

namespace GoFish

/-- What `go_fish.parse_args`'s `parse_known_args` read. -/
structure GoFishArgs where
  lib : String
  yaml : Option String
  deriving Repr, DecidableEq

/-- How `main` ends with an exception. -/
inductive MainExit (ε : Type)
  /-- `parser.error(msg)` of `go_fish.parse_args`. -/
  | parserError (msg : String)
  /-- `int()` of `TUNA_CELERY_JOB_BATCH_SIZE`. -/
  | valueError
  /-- `sys.argv[2] = yaml_file` with fewer than three entries. -/
  | indexError
  /-- What a method of the library object raised. -/
  | library (raised : ε)
  deriving Repr, DecidableEq

/-- What `main` has the library object do, in order. -/
inductive Event (α β : Type)
  | parseArgs (argv : List String)
  | tune (args : α) (jobBatchSize : Int)
  | run (args : α)
  | join (worker : β)
  deriving Repr, DecidableEq

/-- `sys.argv` and the library object's `self.args`. -/
structure State (α : Type) where
  argv : List String
  args : Option α
  deriving Repr, DecidableEq

variable {ε α β : Type}

/-- `go_fish.parse_args` after `parse_known_args`. -/
def parseArgs (argv : List String) (known : GoFishArgs) : Except (MainExit ε) GoFishArgs :=
  if "--yaml" ∈ argv ∧ 4 < argv.length then
    .error (.parserError "Command line arguments not accepted with yaml file")
  else .ok known

/-- `job_batch_size`: 1000, or `int(os.environ['TUNA_CELERY_JOB_BATCH_SIZE'])`. -/
def jobBatchSize (pyInt : String → Option Int) : Option String → Except (MainExit ε) Int
  | none => .ok 1000
  | some text => match pyInt text with
    | some size => .ok size
    | none => .error .valueError

/-- Python's truth value of `args['yaml_file']`. -/
def isYamlPath : Option String → Bool
  | some path => path != ""
  | none => false

/-- `sys.argv` once `if args['yaml_file']: sys.argv[2] = yaml_file` ran. -/
def yamlArgv (argv : List String) (yamlFile : Option String) : List String :=
  match yamlFile with
  | some path => if isYamlPath yamlFile then argv.set 2 path else argv
  | none => argv

/-- `if args['yaml_file']: sys.argv[2] = yaml_file`, with its `IndexError`. -/
def setYamlFile (argv : List String) (yamlFile : Option String) :
    Except (MainExit ε) (List String) :=
  if isYamlPath yamlFile && argv.length ≤ 2 then .error .indexError
  else .ok (yamlArgv argv yamlFile)

/-- `if self.args is None: self.parse_args()`, how `has_tunable_operation` and
`run` begin. -/
def ensureArgs (lib : LibraryObject ε α β) (state : State α) :
    Except ε α × List (Event α β) :=
  match state.args with
  | some args => (.ok args, [])
  | none => (lib.parseArgs state.argv, [.parseArgs state.argv])

/-- `library.has_tunable_operation()`: the arguments it made sure of, and its answer. -/
def hasTunableOperation (lib : LibraryObject ε α β) (state : State α) :
    Except ε (α × Bool) × List (Event α β) :=
  match ensureArgs lib state with
  | (.ok args, trace) => (.ok (args, lib.isTunable args), trace)
  | (.error raised, trace) => (.error raised, trace)

/-- `library.run()`. -/
def run (lib : LibraryObject ε α β) (state : State α) :
    Except ε (Option (List β) × State α) × List (Event α β) :=
  match ensureArgs lib state with
  | (.ok args, trace) =>
      match lib.run args with
      | .ok workers => (.ok (workers, { state with args := some args }), trace ++ [.run args])
      | .error raised => (.error raised, trace ++ [.run args])
  | (.error raised, trace) => (.error raised, trace)

/-- One pass of `for yaml_file in yaml_files`. -/
def step (lib : LibraryObject ε α β) (jobBatchSize : Int) (state : State α)
    (yamlFile : Option String) : Except (MainExit ε) (State α) × List (Event α β) :=
  match setYamlFile state.argv yamlFile with
  | .error exit => (.error exit, [])
  | .ok argv =>
      match hasTunableOperation lib { state with argv := argv } with
      | (.error raised, trace) => (.error (.library raised), trace)
      | (.ok (args, true), trace) =>
          match lib.tune args jobBatchSize with
          | .ok after => (.ok ⟨argv, after⟩, trace ++ [.tune args jobBatchSize])
          | .error raised => (.error (.library raised), trace ++ [.tune args jobBatchSize])
      | (.ok (args, false), trace) =>
          match run lib ⟨argv, some args⟩ with
          | (.error raised, more) => (.error (.library raised), trace ++ more)
          | (.ok (workers, state), more) =>
              (.ok state, trace ++ more ++ (workers.getD []).map .join)

/-- `for yaml_file in yaml_files`, up to the first exception. -/
def yamlLoop (lib : LibraryObject ε α β) (jobBatchSize : Int) :
    State α → List (Option String) → Except (MainExit ε) (State α) × List (Event α β)
  | state, [] => (.ok state, [])
  | state, yamlFile :: yamlFiles =>
      match step lib jobBatchSize state yamlFile with
      | (.error exit, trace) => (.error exit, trace)
      | (.ok state, trace) =>
          let (result, more) := yamlLoop lib jobBatchSize state yamlFiles
          (result, trace ++ more)

/-- `go_fish.main`, from what `parse_known_args` read, a fresh library object
whose `self.args` is `None`, and `parse_yaml`. -/
def main (lib : LibraryObject ε α β) (libs : List String)
    (parseYaml : String → String → List String) (pyInt : String → Option Int)
    (batchSizeVar : Option String) (argv : List String) (known : GoFishArgs) :
    Except (MainExit ε) Bool × List (Event α β) :=
  match parseArgs argv known with
  | .error exit => (.error exit, [])
  | .ok args =>
      let yamlFiles := if isYamlPath args.yaml
        then (parseYaml (args.yaml.getD "") args.lib).map some else [args.yaml]
      match jobBatchSize pyInt batchSizeVar with
      | .error exit => (.error exit, [])
      | .ok size =>
          match yamlLoop lib size ⟨cleanArgs libs argv, none⟩ yamlFiles with
          | (.ok _, trace) => (.ok true, trace)
          | (.error exit, trace) => (.error exit, trace)

/-! ## Every yaml file runs with the first file's arguments -/

/-- What a `run` of `args` that started `workers` adds to the trace, joins included. -/
def runEvents (args : α) (workers : Option (List β)) : List (Event α β) :=
  .run args :: (workers.getD []).map .join

theorem length_yamlArgv (argv : List String) (yamlFile : Option String) :
    (yamlArgv argv yamlFile).length = argv.length := by
  cases yamlFile with
  | none => rfl
  | some path =>
      unfold yamlArgv
      split_ifs <;> simp

theorem setYamlFile_of_long {argv : List String} (long : 2 < argv.length)
    (yamlFile : Option String) :
    setYamlFile argv yamlFile = (.ok (yamlArgv argv yamlFile) : Except (MainExit ε) _) := by
  simp [setYamlFile, Nat.not_le.mpr long]

section Parsed

variable {lib : LibraryObject ε α β} {args : α} {workers : Option (List β)}
  (notTunable : lib.isTunable args = false) (runs : lib.run args = .ok workers)
include notTunable runs

/-- With `self.args` set to arguments that are no tuning operation, a pass runs them again. -/
theorem step_of_parsed (jobBatchSize : Int) {argv : List String} (long : 2 < argv.length)
    (yamlFile : Option String) :
    step lib jobBatchSize ⟨argv, some args⟩ yamlFile =
      (.ok ⟨yamlArgv argv yamlFile, some args⟩, runEvents args workers) := by
  simp [step, setYamlFile_of_long long, hasTunableOperation, ensureArgs, notTunable, run, runs,
    runEvents]

/-- The first pass parses the arguments from `sys.argv` as the file's path left it. -/
theorem step_of_unparsed (jobBatchSize : Int) {argv : List String} (long : 2 < argv.length)
    (yamlFile : Option String) (parsed : lib.parseArgs (yamlArgv argv yamlFile) = .ok args) :
    step lib jobBatchSize ⟨argv, none⟩ yamlFile =
      (.ok ⟨yamlArgv argv yamlFile, some args⟩,
        .parseArgs (yamlArgv argv yamlFile) :: runEvents args workers) := by
  simp [step, setYamlFile_of_long long, hasTunableOperation, ensureArgs, parsed, notTunable, run,
    runs, runEvents]

theorem yamlLoop_of_parsed (jobBatchSize : Int) (yamlFiles : List (Option String)) :
    ∀ {argv : List String}, 2 < argv.length →
      yamlLoop lib jobBatchSize ⟨argv, some args⟩ yamlFiles =
        (.ok ⟨yamlFiles.foldl yamlArgv argv, some args⟩,
          (List.replicate yamlFiles.length (runEvents args workers)).flatten) := by
  induction yamlFiles with
  | nil => intro argv _; rfl
  | cons yamlFile yamlFiles inductionHypothesis =>
      intro argv long
      rw [yamlLoop, step_of_parsed notTunable runs jobBatchSize long]
      simp [inductionHypothesis (length_yamlArgv argv yamlFile ▸ long), List.replicate_succ]

end Parsed

/-- jsonargparse's reading of `sys.argv` for a find run whose yaml file
labels the jobs with its own path. -/
def labelFromYaml (argv : List String) : MIOpenArgs where
  argc := argv.length
  subcommand := none
  configType := none
  listSolvers := false
  finSteps := none
  findMode := some 1
  checkStatus := false
  restartMachine := false
  executeCmd := none
  blacklist := none
  machines := none
  remoteMachine := false
  initSession := false
  label := argv.get? 2
  updateApplicability := false
  sessionId := none
  shutdownWorkers := false

/-- What `MIOpen.parse_args` leaves of the first file's arguments. -/
def findYamlArgs : CheckedArgs where
  subcommand := none
  configType := .convolution
  finSteps := none
  prefixText := none
  findMode := some 1
  blacklist := none
  machines := none
  localMachine := true
  label := some "find.yaml"
  updateApplicability := false
  sessionId := none
  shutdownWorkers := false

end GoFish

end MITuna
