import MITuna.Job.Results

namespace MITuna.Protocol

/-!
# Claims and result ingestion over one shared job table

Claimants and result ingestions interleave over one job table.  A claim is
one transaction: it selects unlocked rows in its operation's fetch states
(`FOR UPDATE SKIP LOCKED`), moves them to the operation's start state with
`set_job_state`, commits, and one context is built per claimed row.  A
worker delivers a result for a context, and the result handler ingests it
with `process_compile_results` or `process_eval_results`, as often as the
queue hands it over.

The ingestion never looks at the row it writes: it writes the state and
retries it computes from the context's copy of the job.  Under at-least-once
delivery a stale copy can therefore move a finished job back and lower its
retries.  When every result is ingested at most once, the table is owned by
one claimant at a time and both properties hold over every run.
-/

/-- A claim transaction with the rows it selected and locked, as it read them. -/
structure OpenClaim where
  claimant : Nat
  operation : Operation
  rows : List JobRow
  deriving Repr, DecidableEq

/--
The context built from one claimed row, with the result its worker delivered
and how many times the handler has ingested that result.
-/
structure Context where
  claimant : Nat
  operation : Operation
  job : JobRow
  result : Option FinJson
  ingestions : Nat
  deriving Repr, DecidableEq

/-- The job table, the claim transactions still open, and every context built. -/
structure World where
  table : JobTable
  openClaims : List OpenClaim
  contexts : List Context

/-- What the result queue guarantees about delivering one result. -/
inductive Delivery
  | atLeastOnce
  | atMostOnce
  deriving Repr, DecidableEq

/-- Whether the queue may hand over a result already ingested `ingestions` times. -/
def Delivery.Permits : Delivery → Nat → Prop
  | .atLeastOnce, _ => True
  | .atMostOnce, ingestions => ingestions = 0

instance : (delivery : Delivery) → (ingestions : Nat) →
    Decidable (delivery.Permits ingestions)
  | .atLeastOnce, _ => isTrue trivial
  | .atMostOnce, ingestions => inferInstanceAs (Decidable (ingestions = 0))

/-- One action of the interleaving. -/
inductive Event (Status : Type)
  | begin (claimant : Nat) (operation : Operation) (rows : List JobRow)
  | commit (claimant : Nat)
  | abort (claimant : Nat)
  | deliver (index : Nat) (payload : FinJson)
  | ingest (index : Nat) (store : StoreBehaviour Status)

/-- The ids of a claim's rows. -/
def OpenClaim.ids (claim : OpenClaim) : List Nat :=
  claim.rows.map JobRow.id

/-- A claimed row as the claim writes it and as its context carries it. -/
def OpenClaim.started (claim : OpenClaim) (job : JobRow) : JobRow :=
  { job with state := claim.operation.setState, result := "" }

/-- The claim's `set_job_state` calls: every claimed row moves to the set state. -/
def claimRows (table : JobTable) (claim : OpenClaim) : JobTable where
  rows id :=
    if id ∈ claim.ids then (table.rows id).map claim.started else table.rows id
  keyed id row found := by
    by_cases claimed : id ∈ claim.ids
    · simp only [claimed, ↓reduceIte, Option.map_eq_some'] at found
      obtain ⟨original, present, rfl⟩ := found
      exact table.keyed id original present
    · simp only [claimed, ↓reduceIte] at found
      exact table.keyed id row found

/-- The contexts `build_context` makes for a committed claim, one per row, in order. -/
def claimContexts (claim : OpenClaim) : List Context :=
  claim.rows.map fun job => ⟨claim.claimant, claim.operation, claim.started job, none, 0⟩

namespace World

/-- The world before any claim: a job table and nothing else. -/
def initial (table : JobTable) : World :=
  ⟨table, [], []⟩

/-- Row `id` is locked by an open claim transaction. -/
def Locked (world : World) (id : Nat) : Prop :=
  ∃ claim ∈ world.openClaims, id ∈ claim.ids

instance (world : World) (id : Nat) : Decidable (world.Locked id) :=
  inferInstanceAs (Decidable (∃ claim ∈ world.openClaims, id ∈ claim.ids))

/--
The rows a claim may select: the claimant has no transaction open, and the
rows are distinct current rows of the table, unlocked, in the operation's
fetch states.  The claim query returns such a list, filtered further and
ordered.
-/
def Selectable (world : World) (claimant : Nat) (operation : Operation)
    (rows : List JobRow) : Prop :=
  (∀ claim ∈ world.openClaims, claim.claimant ≠ claimant) ∧ (rows.map JobRow.id).Nodup ∧
    ∀ job ∈ rows, world.table.rows job.id = some job ∧
      job.state ∈ operation.fetchState ∧ ¬ world.Locked job.id

instance (world : World) (claimant : Nat) (operation : Operation) (rows : List JobRow) :
    Decidable (world.Selectable claimant operation rows) :=
  inferInstanceAs (Decidable (_ ∧ _ ∧ _))

end World

section Step

variable {Status : Type} (getFinResult : Option Status → Bool × String)
  (delivery : Delivery)

/-- One action of the interleaving, or `none` when it cannot happen. -/
def step (world : World) : Event Status → Option World
  | .begin claimant operation rows =>
      if world.Selectable claimant operation rows then
        some { world with openClaims := ⟨claimant, operation, rows⟩ :: world.openClaims }
      else none
  | .commit claimant =>
      (world.openClaims.find? (·.claimant == claimant)).map fun claim =>
        { table := claimRows world.table claim
          openClaims := world.openClaims.filter (·.claimant != claimant)
          contexts := world.contexts ++ claimContexts claim }
  | .abort claimant =>
      if world.openClaims.any (·.claimant == claimant) then
        some { world with openClaims := world.openClaims.filter (·.claimant != claimant) }
      else none
  | .deliver index payload =>
      match world.contexts[index]? with
      | some context =>
          if context.result = none then
            some { world with
              contexts := world.contexts.set index { context with result := some payload } }
          else none
      | none => none
  | .ingest index store =>
      match world.contexts[index]? with
      | some context =>
          match context.result with
          | some payload =>
              if delivery.Permits context.ingestions ∧ ¬ world.Locked context.job.id then
                some
                  { world with
                    table := (processResults getFinResult context.operation payload store
                      context.job world.table).2
                    contexts := world.contexts.set index
                      { context with ingestions := context.ingestions + 1 } }
              else none
          | none => none
      | none => none

/-- Run a list of actions, failing at the first that cannot happen. -/
def run (world : World) : List (Event Status) → Option World
  | [] => some world
  | event :: rest => (step getFinResult delivery world event).bind (run · rest)

/-- The worlds some interleaving reaches from a job table. -/
inductive Reachable : World → Prop
  | initial (table : JobTable) : Reachable (.initial table)
  | step {world after : World} (event : Event Status) :
      Reachable world → step getFinResult delivery world event = some after →
      Reachable after

variable {getFinResult delivery}

/-- Every world a run ends in is reachable. -/
theorem Reachable.run {world after : World} {events : List (Event Status)}
    (reachable : Reachable getFinResult delivery world)
    (ran : Protocol.run getFinResult delivery world events = some after) :
    Reachable getFinResult delivery after := by
  induction events generalizing world with
  | nil =>
      cases ran
      exact reachable
  | cons event rest inductionHypothesis =>
      simp only [Protocol.run, Option.bind_eq_some] at ran
      obtain ⟨next, stepped, ran⟩ := ran
      exact inductionHypothesis (reachable.step event stepped) ran

end Step

/--
Claimant `claimant` holds job `id`: a context built for it from the job
awaits ingestion while the job sits in that context's start state.
-/
def Holds (world : World) (claimant id : Nat) : Prop :=
  ∃ context ∈ world.contexts, context.claimant = claimant ∧ context.job.id = id ∧
    context.ingestions = 0 ∧
    (world.table.rows id).map JobRow.state = some context.operation.setState

/-- No job is held in an in-flight state by two claimants at once. -/
def SingleHolder (world : World) : Prop :=
  ∀ id first second, Holds world first id → Holds world second id → first = second

/-- A job in a terminal state keeps it. -/
def TerminalStable (before after : World) : Prop :=
  ∀ id row, before.table.rows id = some row → row.state.IsTerminal →
    (after.table.rows id).map JobRow.state = some row.state

/-- No job's retries decreases. -/
def RetriesMonotone (before after : World) : Prop :=
  ∀ id row, before.table.rows id = some row →
    ∃ later, after.table.rows id = some later ∧ row.retries ≤ later.retries

/-- The claim protocol's safety: in every reachable world no job has two
holders, and no action moves a job out of a terminal state or lowers its
retries. -/
def ProtocolSafe {Status : Type} (getFinResult : Option Status → Bool × String)
    (delivery : Delivery) : Prop :=
  ∀ world, Reachable getFinResult delivery world →
    SingleHolder world ∧
      ∀ event after, step getFinResult delivery world event = some after →
        TerminalStable world after ∧ RetriesMonotone world after

/-- A job compiled and waiting for evaluation. -/
def compiledJob : JobRow where
  id := 0
  config := 1
  solver := "ConvHipImplicitGemmV4R1Fwd"
  session := 1
  state := .compiled
  valid := true
  retries := 0
  reason := "tuning"
  finStep := "miopen_find_eval"
  result := ""

/-- A store under which every ingestion call returns normally. -/
def quietStore : StoreBehaviour Unit :=
  ⟨.ok (), none⟩

/--
Three evaluation claims of one job, each failing with an empty payload, the
last one at the retry ceiling: the job ends `errored` with two retries.
-/
def exhaustingRun : List (Event Unit) :=
  [.begin 1 .eval [compiledJob], .commit 1, .deliver 0 [], .ingest 0 quietStore,
    .begin 2 .eval [{ compiledJob with retries := 1 }], .commit 2, .deliver 1 [],
    .ingest 1 quietStore,
    .begin 3 .eval [{ compiledJob with retries := 2 }], .commit 3, .deliver 2 [],
    .ingest 2 quietStore]

/-- The world `exhaustingRun` ends in. -/
def exhaustedWorld : World :=
  (run (fun _ : Option Unit => (true, "")) .atLeastOnce
    (.initial (.single compiledJob)) exhaustingRun).getD (.initial (.single compiledJob))

theorem exhaustingRun_reaches :
    run (fun _ : Option Unit => (true, "")) .atLeastOnce
      (.initial (.single compiledJob)) exhaustingRun = some exhaustedWorld :=
  rfl

/--
Under at-least-once delivery a stale copy of the first failed result, ingested
after the job was retried to the ceiling and errored, moves it back to
`compiled` and lowers its retries from two to one.
-/
theorem stale_redelivery_breaks_protocol :
    ¬ ProtocolSafe (fun _ : Option Unit => (true, "")) .atLeastOnce := by
  intro safe
  have reachable := (Reachable.initial _).run exhaustingRun_reaches
  obtain ⟨terminal, retries⟩ := (safe exhaustedWorld reachable).2
    (.ingest 0 quietStore) _ rfl
  have errored := terminal 0 { compiledJob with state := .errored, retries := 2 }
    (by decide) (by decide)
  revert errored
  decide

end MITuna.Protocol
