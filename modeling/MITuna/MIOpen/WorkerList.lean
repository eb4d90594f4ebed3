import Mathlib.Data.List.Infix

namespace MITuna

/-!
# Composing the worker pool

`MIOpen.compose_worker_list` (`tuna/miopen/miopen_lib.py`) walks the
machines.  For each it takes the process slots (or, for an eval step, the
free GPUs), caps them for `update_applicability` at one worker per hundred
pending configs, and hands each id to `launch_worker`, which starts a
`FinClass` process only for `update_applicability`.  A machine left with no
id ends the walk with `None`.  The machines' slots and GPUs and the answer
of `check_status` come from the base class and the machines, and are inputs
here.  The started processes are the second component of every result.
-/

/-- A machine as `compose_worker_list` reads it. -/
structure Machine where
  id : Nat
  /-- `get_num_procs(machine)`: its process slots. -/
  numProcs : List Nat
  /-- `machine.get_avail_gpus()`. -/
  availGpus : List Nat
  deriving Repr, DecidableEq

/-- The arguments `compose_worker_list` and `launch_worker` read. -/
structure WorkerArgs where
  restartMachine : Bool
  finSteps : Option (List String)
  /-- `gpu_lim`, `0` when not given. -/
  gpuLim : Nat
  updateApplicability : Bool
  updateSolvers : Bool
  checkStatus : Bool

/-- A started worker process: its machine and GPU index. -/
structure Worker where
  machine : Nat
  gpu : Nat
  deriving Repr, DecidableEq

/-- `worker_ids`: a list, or the `range(gpu_lim)` that replaces the GPUs of an eval step. -/
inductive WorkerIds
  | list (ids : List Nat)
  | range (stop : Nat)

/-- The ids before the applicability cap. -/
def workerIds (args : WorkerArgs) (machine : Machine) : WorkerIds :=
  match args.finSteps with
  | some (step :: _) =>
      if "eval".data <:+: step.data then
        if args.gpuLim ≠ 0 ∧ args.gpuLim < machine.availGpus.length then
          .range args.gpuLim
        else
          .list machine.availGpus
      else
        .list machine.numProcs
  | _ => .list machine.numProcs

/-- `while len(worker_ids) > proc_lim: worker_ids.pop()` with `proc_lim =
(len_rows + 99) / 100`, compared exactly; one pop for each unit of `fuel`. -/
def popToLimit (lenRows : Nat) : Nat → List Nat → List Nat
  | 0, ids => ids
  | fuel + 1, ids =>
      if 100 * ids.length > lenRows + 99 then popToLimit lenRows fuel ids.dropLast else ids

/-- The ids after the applicability cap, or the error of popping a `range`. -/
def capWorkerIds (lenRows : Nat) : WorkerIds → Except String (List Nat)
  | .list ids => .ok (popToLimit lenRows ids.length ids)
  | .range stop =>
      if 100 * stop > lenRows + 99 then .error "'range' object has no attribute 'pop'"
      else .ok (List.range stop)

/-- The ids a machine serves: capped for `update_applicability` by the
`len_rows` pending configs of the label. -/
def servedIds (args : WorkerArgs) (lenRows : Nat) (machine : Machine) :
    Except String (List Nat) :=
  if args.updateApplicability then
    capWorkerIds lenRows (workerIds args machine)
  else
    match workerIds args machine with
    | .list ids => .ok ids
    | .range stop => .ok (List.range stop)

/-- `MIOpen.launch_worker`: whether to go on with the next id, and the
process it started.  Only `update_applicability` starts one. -/
def launchWorker (args : WorkerArgs) (statusOk : Bool) (machine : Machine) (gpuIdx : Nat) :
    Bool × Option Worker :=
  if args.updateApplicability then
    (true, some ⟨machine.id, gpuIdx⟩)
  else if args.checkStatus then
    (!statusOk, none)
  else
    (false, none)

/-- `for gpu_idx in worker_ids: if not self.launch_worker(...): break`. -/
def launchAll (args : WorkerArgs) (checkStatus : Nat → Nat → Bool) (machine : Machine) :
    List Nat → List Worker → List Worker
  | [], workerLst => workerLst
  | gpuIdx :: rest, workerLst =>
      match launchWorker args (checkStatus machine.id gpuIdx) machine gpuIdx with
      | (true, started) => launchAll args checkStatus machine rest (workerLst ++ started.toList)
      | (false, started) => workerLst ++ started.toList

/--
`MIOpen.compose_worker_list` from the machines still to walk, with the
workers started so far: what it returned, or raised, and the workers
started.  `fin_work_done` is set only right before the `break`, so its test
always reads `False`.
-/
def composeWorkerList (args : WorkerArgs) (lenRows : Nat) (checkStatus : Nat → Nat → Bool) :
    List Machine → List Worker → Except String (Option (List Worker)) × List Worker
  | [], workerLst => (.ok (some workerLst), workerLst)
  | machine :: machines, workerLst =>
      if args.restartMachine then
        composeWorkerList args lenRows checkStatus machines workerLst
      else
        match servedIds args lenRows machine with
        | .error raised => (.error raised, workerLst)
        | .ok ids =>
            if ids.length = 0 then
              (.ok none, workerLst)
            else if args.updateSolvers then
              (.ok (some workerLst), workerLst)
            else
              composeWorkerList args lenRows checkStatus machines
                (launchAll args checkStatus machine ids workerLst)

/-- Each pop drops the last id, so with fuel for the pops `popToLimit` keeps
the first `(len_rows + 99) / 100` ids: the float bound `proc_lim` rounded up. -/
theorem popToLimit_eq_take (lenRows : Nat) :
    ∀ (fuel : Nat) (ids : List Nat), ids.length ≤ fuel + (lenRows + 99) / 100 →
      popToLimit lenRows fuel ids = ids.take ((lenRows + 99) / 100)
  | 0, ids, enough => (List.take_of_length_le (l := ids) (by omega)).symm
  | fuel + 1, ids, enough => by
      rw [popToLimit]
      split_ifs with over
      · rw [popToLimit_eq_take lenRows fuel ids.dropLast (by rw [List.length_dropLast]; omega),
          List.dropLast_eq_take, List.take_take, Nat.min_eq_left (by omega)]
      · exact (List.take_of_length_le (by omega)).symm

/-- For `update_applicability` every id starts a worker, in order. -/
theorem launchAll_of_applicability {args : WorkerArgs}
    (applicability : args.updateApplicability = true) (checkStatus : Nat → Nat → Bool)
    (machine : Machine) :
    ∀ ids workerLst, launchAll args checkStatus machine ids workerLst =
      workerLst ++ ids.map (Worker.mk machine.id)
  | [], workerLst => by simp [launchAll]
  | gpuIdx :: rest, workerLst => by
      simp [launchAll, launchWorker, applicability,
        launchAll_of_applicability applicability checkStatus machine rest]

/-- Every other operation starts no worker. -/
theorem launchAll_of_not_applicability {args : WorkerArgs}
    (applicability : args.updateApplicability = false) (checkStatus : Nat → Nat → Bool)
    (machine : Machine) :
    ∀ ids workerLst, launchAll args checkStatus machine ids workerLst = workerLst
  | [], _ => rfl
  | gpuIdx :: rest, workerLst => by
      simp only [launchAll, launchWorker, applicability, Bool.false_eq_true, ↓reduceIte]
      split_ifs
      · cases checkStatus machine.id gpuIdx <;>
          simp [launchAll_of_not_applicability applicability checkStatus machine rest]
      · simp

theorem launchAll_extends (args : WorkerArgs) (checkStatus : Nat → Nat → Bool) (machine : Machine)
    (ids : List Nat) (workerLst : List Worker) :
    workerLst <+: launchAll args checkStatus machine ids workerLst := by
  cases applicability : args.updateApplicability
  · rw [launchAll_of_not_applicability applicability]
  · rw [launchAll_of_applicability applicability]
    exact List.prefix_append _ _

/-- The arguments of an `update_applicability` run.  The parser puts the option
in one mutually exclusive group with `--fin_steps` and `--update_solvers`, and
`restart_machine` skips every machine. -/
structure ApplicabilityRun (args : WorkerArgs) : Prop where
  updateApplicability : args.updateApplicability = true
  finSteps : args.finSteps = none
  updateSolvers : args.updateSolvers = false
  restartMachine : args.restartMachine = false

/-- The workers `update_applicability` starts on one machine: one per process
slot, at most `ceil(len_rows / 100)` of them. -/
def applicabilityWorkers (lenRows : Nat) (machine : Machine) : List Worker :=
  (machine.numProcs.take ((lenRows + 99) / 100)).map (Worker.mk machine.id)

/-- The machines `update_applicability` walks before the first that gets no worker. -/
def servedMachines (lenRows : Nat) (machines : List Machine) : List Machine :=
  machines.takeWhile fun machine => !(applicabilityWorkers lenRows machine).isEmpty

section Applicability

variable {args : WorkerArgs} (lenRows : Nat) (checkStatus : Nat → Nat → Bool)

theorem servedIds_of_applicability (run : ApplicabilityRun args) (machine : Machine) :
    servedIds args lenRows machine = .ok (machine.numProcs.take ((lenRows + 99) / 100)) := by
  simp only [servedIds, run.updateApplicability, workerIds, run.finSteps, capWorkerIds,
    ↓reduceIte]
  rw [popToLimit_eq_take _ _ _ (by omega)]

/-- One machine of an `update_applicability` walk. -/
theorem composeWorkerList_applicability_cons (run : ApplicabilityRun args) (machine : Machine)
    (machines : List Machine) (workerLst : List Worker) :
    composeWorkerList args lenRows checkStatus (machine :: machines) workerLst =
      if applicabilityWorkers lenRows machine = [] then (.ok none, workerLst)
      else composeWorkerList args lenRows checkStatus machines
        (workerLst ++ applicabilityWorkers lenRows machine) := by
  simp [composeWorkerList, run.restartMachine, servedIds_of_applicability lenRows run,
    run.updateSolvers, launchAll_of_applicability run.updateApplicability, applicabilityWorkers]

/--
The `update_applicability` law.  `compose_worker_list` starts on each machine in
turn the workers of `applicabilityWorkers`, up to the first machine that gets
none.  It returns them all when every machine got one, and `None` otherwise,
the workers of the machines before that one still started.
-/
theorem composeWorkerList_applicability (run : ApplicabilityRun args) :
    ∀ machines workerLst,
      composeWorkerList args lenRows checkStatus machines workerLst =
        (.ok (if servedMachines lenRows machines = machines then
            some (workerLst ++
              (servedMachines lenRows machines).flatMap (applicabilityWorkers lenRows))
          else none),
          workerLst ++ (servedMachines lenRows machines).flatMap (applicabilityWorkers lenRows))
  | [], workerLst => by simp [composeWorkerList, servedMachines]
  | machine :: machines, workerLst => by
      rw [composeWorkerList_applicability_cons lenRows checkStatus run]
      by_cases idle : applicabilityWorkers lenRows machine = []
      · simp [servedMachines, idle]
      · rw [if_neg idle, composeWorkerList_applicability run machines]
        simp [servedMachines, idle]

end Applicability

/-- `update_applicability` over two machines, the second without a process slot. -/
def applicabilityArgs : WorkerArgs where
  restartMachine := false
  finSteps := none
  gpuLim := 0
  updateApplicability := true
  updateSolvers := false
  checkStatus := false

/-- With 150 pending configs each machine serves at most two ids: the first
machine gets two workers of its three slots, the second its one. -/
theorem composeWorkerList_applicability_caps_at_two :
    ApplicabilityRun applicabilityArgs ∧
      composeWorkerList applicabilityArgs 150 (fun _ _ => true)
          [⟨1, [0, 1, 2], [0]⟩, ⟨2, [0], [0]⟩] [] =
        (.ok (some [⟨1, 0⟩, ⟨1, 1⟩, ⟨2, 0⟩]), [⟨1, 0⟩, ⟨1, 1⟩, ⟨2, 0⟩]) := by
  refine ⟨⟨rfl, rfl, rfl, rfl⟩, ?_⟩
  rw [composeWorkerList_applicability 150 (fun _ _ => true) ⟨rfl, rfl, rfl, rfl⟩]
  rfl

/-- `--check_status` over two machines, the second failing its check. -/
def checkStatusArgs : WorkerArgs where
  restartMachine := false
  finSteps := none
  gpuLim := 0
  updateApplicability := false
  updateSolvers := false
  checkStatus := true

/-- Machine 1 starts one worker and machine 2 has no slot: the walk returns
`None` with that worker started. -/
theorem composeWorkerList_none_after_started :
    composeWorkerList applicabilityArgs 1 (fun _ _ => true)
        [⟨1, [0, 1], [0, 1]⟩, ⟨2, [], [0]⟩] [] =
      (.ok none, [⟨1, 0⟩]) :=
  rfl

end MITuna
