import MITuna.RocMLIR.Worker

namespace MITuna.RocMLIR

/-!
# What `run_cmd` runs

`RocMLIRWorker.run_cmd` (`tuna/rocmlir/rocmlir_worker.py`) reads the job's
config row and chooses the tuningRunner.py arguments for the session's
config type.  It checks that the runner is there and then runs the command.
Three things it calls are not in the source.  `ConfigType`
(`tuna/rocmlir/config_type.py`) is represented by the three members the code
compares with, and any other member by the text its f-string formats to.  A
config row carries the text its `config_string()` returns.  `run_command` is
given per attempt, as a function of the command text.  The config table and
the session do not change during one step.

Every raise of `run_cmd` comes before `run_command`, so it is the same on all
three attempts.  Which of them the step retries is then decided by the
worker's `except ValueError`.
-/

/-- The members of `ConfigType` that `run_cmd` tells apart, and any other
member by the text `f"{self.dbt.config_type}"` gives. -/
inductive ConfigType
  | convolution
  | gemm
  | attention
  | other (text : String)
  deriving Repr, DecidableEq

/-- A row of `config_table`: its `id` and what its `config_string()` returns. -/
structure ConfigRow where
  id : Nat
  configString : String
  deriving Repr, DecidableEq

/-- What `run_cmd` reads of the worker and the database. -/
structure RunCmdArgs where
  /-- `self.envmt`. -/
  envmt : List String
  /-- `self.job.config`. -/
  jobConfig : Nat
  /-- The rows of `self.dbt.config_table`. -/
  configTable : List ConfigRow
  /-- `self.dbt.config_type`. -/
  configType : ConfigType
  /-- `self.dbt.session.tuning_space.name`, or none when `tuning_space` is falsy. -/
  tuningSpace : Option String
  /-- `os.path.exists("./bin/tuningRunner.py")`. -/
  hasTuningRunner : Bool
  /-- `self.gpu_id`. -/
  gpuId : Int
  deriving Repr, DecidableEq

/-- `session.query(cft).filter(cft.id == self.job.config).all()`. -/
def configRows (args : RunCmdArgs) : List ConfigRow :=
  args.configTable.filter (·.id == args.jobConfig)

/-- `special_args` for a config type, or the `ValueError` for one not yet supported. -/
def specialArgs : ConfigType → Except Exc String
  | .convolution => .ok "--operation conv"
  | .gemm => .ok "--operation gemm"
  | .attention => .ok "--operation attention --verify-mode none"
  | .other text => .error ⟨.valueError, "Config type " ++ text ++ " not yet supported."⟩

/-- The f-string of `cmd`, with the blanks its two line continuations keep. -/
def tuningRunnerCmd (envStr special configString : String) (gpuId : Int) : String :=
  envStr ++ " python3 ./bin/tuningRunner.py -q " ++ special ++
    "                      --config='" ++ configString ++
    "' --mlir-build-dir `pwd`                      --output=- --tflops" ++
    "                      --rocmlir_gen_flags='--device=" ++ toString gpuId ++ "' 2>/dev/null"

/-- `run_cmd` up to `super().run_command(cmd)`: the command, or what it raised.
`config[0]` of no rows raises `IndexError`. -/
def tuningCommand (args : RunCmdArgs) : Except Exc String := do
  let envStr := " ".intercalate args.envmt
  let config := configRows args
  if 1 < config.length then
    throw ⟨.valueError, "More than one config matching ID " ++ toString args.jobConfig⟩
  let configString ← match config with
    | row :: _ => pure row.configString
    | [] => throw ⟨.other, "list index out of range"⟩
  let special ← specialArgs args.configType
  let special := match args.tuningSpace with
    | some name => special ++ " --tuning-space=" ++ name
    | none => special
  if !args.hasTuningRunner then
    throw ⟨.other, "tuningRunner.py not found;  wrong directory or missing setup"⟩
  pure (tuningRunnerCmd envStr special configString args.gpuId)

/-- `run_cmd`, with `runCommand` for the worker's `run_command`. -/
def runCmd (args : RunCmdArgs) (runCommand : String → Except Exc (Int × String)) :
    Except Exc (Int × String) := do
  let cmd ← tuningCommand args
  runCommand cmd

/-- The worker's world when `run_cmd` is the command of every attempt and
`run_command` answers attempt `n` with `runCommand n`. -/
def Environment.withRunCmd (env : Environment) (args : RunCmdArgs)
    (runCommand : Nat → String → Except Exc (Int × String)) : Environment :=
  { env with runCmd := fun n => RocMLIR.runCmd args (runCommand n) }

/-! ## Where `run_cmd` raises -/

@[simp] theorem except_throw {ε α : Type} (exc : ε) :
    (throw exc : Except ε α) = .error exc := rfl

@[simp] theorem except_error_bind {ε α β : Type} (exc : ε) (f : α → Except ε β) :
    (Except.error exc >>= f) = .error exc := rfl

section Raises

variable {args : RunCmdArgs}

theorem tuningCommand_of_duplicate (duplicate : 1 < (configRows args).length) :
    tuningCommand args =
      .error ⟨.valueError, "More than one config matching ID " ++ toString args.jobConfig⟩ := by
  simp [tuningCommand, duplicate]

theorem tuningCommand_of_missing (missing : configRows args = []) :
    tuningCommand args = .error ⟨.other, "list index out of range"⟩ := by
  simp [tuningCommand, missing]

theorem tuningCommand_of_unsupported {row : ConfigRow} {text : String}
    (one : configRows args = [row]) (unsupported : args.configType = .other text) :
    tuningCommand args =
      .error ⟨.valueError, "Config type " ++ text ++ " not yet supported."⟩ := by
  simp [tuningCommand, one, unsupported, specialArgs]

theorem tuningCommand_of_no_runner {row : ConfigRow} (one : configRows args = [row])
    (supported : ∀ text, args.configType ≠ .other text)
    (absent : args.hasTuningRunner = false) :
    tuningCommand args =
      .error ⟨.other, "tuningRunner.py not found;  wrong directory or missing setup"⟩ := by
  cases typed : args.configType with
  | other text => exact absurd typed (supported text)
  | _ => simp [tuningCommand, one, typed, absent, specialArgs]; rfl

/-- A raise before `run_command` is the raise of every attempt. -/
theorem withRunCmd_raises {exc : Exc} (env : Environment)
    (runCommand : Nat → String → Except Exc (Int × String))
    (rejected : tuningCommand args = .error exc) (n : Nat) :
    (env.withRunCmd args runCommand).runCmd n = .error exc := by
  simp [Environment.withRunCmd, runCmd, rejected]

end Raises

/-- `replace` of a character the text does not hold leaves it as it is. -/
theorem replaceChar_of_not_mem {old : Char} {new text : String} (absent : old ∉ text.data) :
    replaceChar old new text = text := by
  have kept : ∀ c ∈ text.data, (if c = old then new.data else [c]) = [c] :=
    fun c mem => if_neg fun (same : c = old) => absent (same ▸ mem)
  simp only [replaceChar, List.flatMap_congr kept, List.flatMap_singleton']

/-! ## The step of a job `run_cmd` rejects -/

/--
With a store that takes every write, a job that `run_cmd` rejects before the
command is marked `error` and never reaches `run_command`.  With no config row
of its id (`config[0]` raises `IndexError`) or without `./bin/tuningRunner.py`,
tenacity runs all three attempts before the handler records the message.  With
more than one row, or a config type `run_cmd` does not support, the
`ValueError` is caught in the first attempt and recorded as the result.
-/
theorem step_of_rejected_job (numSqlRetries : Nat) (env : Environment) (args : RunCmdArgs)
    (runCommand : Nat → String → Except Exc (Int × String))
    (accepts : ∀ state result, env.update state result = none) :
    (configRows args = [] →
      step numSqlRetries (env.withRunCmd args runCommand) true =
        (.ok true, [.recorded .running .none, .runCmd, .runCmd, .runCmd,
          .recorded .error (.text "list index out of range")])) ∧
    (1 < (configRows args).length →
      step numSqlRetries (env.withRunCmd args runCommand) true =
        (.ok true, [.recorded .running .none, .runCmd,
          .recorded .error (.exception ⟨.valueError,
            "More than one config matching ID " ++ toString args.jobConfig⟩)])) ∧
    (∀ row text, configRows args = [row] → args.configType = .other text →
      step numSqlRetries (env.withRunCmd args runCommand) true =
        (.ok true, [.recorded .running .none, .runCmd,
          .recorded .error (.exception ⟨.valueError,
            "Config type " ++ text ++ " not yet supported."⟩)])) ∧
    (∀ row, configRows args = [row] → (∀ text, args.configType ≠ .other text) →
      args.hasTuningRunner = false →
      step numSqlRetries (env.withRunCmd args runCommand) true =
        (.ok true, [.recorded .running .none, .runCmd, .runCmd, .runCmd,
          .recorded .error
            (.text "tuningRunner.py not found;  wrong directory or missing setup")])) := by
  have rejected := fun {exc : Exc} (raised : tuningCommand args = .error exc) =>
    step_of_raising_runCmd numSqlRetries (env.withRunCmd args runCommand) exc accepts
      (withRunCmd_raises env runCommand raised)
  refine ⟨fun missing => ?_, fun duplicate => ?_, fun row text one unsupported => ?_,
    fun row one supported absent => ?_⟩
  · rw [rejected (tuningCommand_of_missing missing), replaceChar_of_not_mem (by decide)]
    rfl
  · rw [rejected (tuningCommand_of_duplicate duplicate)]
    rfl
  · rw [rejected (tuningCommand_of_unsupported one unsupported)]
    rfl
  · rw [rejected (tuningCommand_of_no_runner one supported absent),
      replaceChar_of_not_mem (by decide)]
    rfl

/-- A convolution job of config 7 while the config table holds only config 3. -/
def missingConfigArgs : RunCmdArgs where
  envmt := ["MIOPEN_LOG_LEVEL=6"]
  jobConfig := 7
  configTable := [⟨3, "conv -F 1 -f NCHW -I NCHW -O NCHW -n 256 -c 1024 -H 14 -W 14"⟩]
  configType := .convolution
  tuningSpace := none
  hasTuningRunner := true
  gpuId := 0

theorem step_retries_missing_config_row :
    step 3 (unparsableResults.withRunCmd missingConfigArgs fun _ _ => .ok (0, "")) true =
      (.ok true, [.recorded .running .none, .runCmd, .runCmd, .runCmd,
        .recorded .error (.text "list index out of range")]) :=
  (step_of_rejected_job 3 unparsableResults missingConfigArgs _ fun _ _ => rfl).1 rfl

end MITuna.RocMLIR
