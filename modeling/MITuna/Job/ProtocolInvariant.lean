import Mathlib.Data.List.Nodup
import MITuna.Job.Protocol

namespace MITuna.Protocol

/-!
# Safety of the claim protocol under at-most-once delivery

Each action is inverted once into what it does to the world; the invariant
says that every locked row is the row its claim read, and that every
pending context is the only pending context of its job and describes its
row exactly.  Every action keeps the invariant, so it holds in every
reachable world, and from it a job has one holder, a terminal row never
moves and retries never decrease.
-/

section Inversion

variable {Status : Type} {getFinResult : Option Status → Bool × String}
  {delivery : Delivery} {world after : World}

theorem step_begin {claimant : Nat} {operation : Operation} {rows : List JobRow}
    (stepped : step getFinResult delivery world (.begin claimant operation rows) = some after) :
    world.Selectable claimant operation rows ∧
      after = { world with openClaims := ⟨claimant, operation, rows⟩ :: world.openClaims } := by
  simp only [step] at stepped
  split at stepped
  · exact ⟨‹_›, (Option.some.inj stepped).symm⟩
  · cases stepped

theorem step_commit {claimant : Nat}
    (stepped : step getFinResult delivery world (.commit claimant) = some after) :
    ∃ claim ∈ world.openClaims, claim.claimant = claimant ∧
      after = ⟨claimRows world.table claim, world.openClaims.filter (·.claimant != claimant),
        world.contexts ++ claimContexts claim⟩ := by
  simp only [step, Option.map_eq_some'] at stepped
  obtain ⟨claim, found, rfl⟩ := stepped
  exact ⟨claim, List.mem_of_find?_eq_some found,
    by simpa using List.find?_some found, rfl⟩

theorem step_abort {claimant : Nat}
    (stepped : step getFinResult delivery world (.abort claimant) = some after) :
    after = { world with openClaims := world.openClaims.filter (·.claimant != claimant) } := by
  simp only [step] at stepped
  split at stepped
  · exact (Option.some.inj stepped).symm
  · cases stepped

theorem step_deliver {index : Nat} {payload : FinJson}
    (stepped : step getFinResult delivery world (.deliver index payload) = some after) :
    ∃ context, world.contexts[index]? = some context ∧
      after = { world with
        contexts := world.contexts.set index { context with result := some payload } } := by
  simp only [step] at stepped
  split at stepped
  · split at stepped
    · exact ⟨_, ‹_›, (Option.some.inj stepped).symm⟩
    · cases stepped
  · cases stepped

theorem step_ingest {index : Nat} {store : StoreBehaviour Status}
    (stepped : step getFinResult delivery world (.ingest index store) = some after) :
    ∃ context payload, world.contexts[index]? = some context ∧
      context.result = some payload ∧ delivery.Permits context.ingestions ∧
      ¬ world.Locked context.job.id ∧
      after = { world with
        table := (processResults getFinResult context.operation payload store
          context.job world.table).2
        contexts := world.contexts.set index
          { context with ingestions := context.ingestions + 1 } } := by
  simp only [step] at stepped
  split at stepped
  · split at stepped
    · split at stepped
      · rename_i allowed
        exact ⟨_, _, ‹_›, ‹_›, allowed.1, allowed.2, (Option.some.inj stepped).symm⟩
      · cases stepped
    · cases stepped
  · cases stepped

end Inversion

/-- Rows with distinct ids sit at distinct positions. -/
theorem index_eq_of_same_id {rows : List JobRow} (distinct : (rows.map JobRow.id).Nodup)
    {first second : Nat} {firstRow secondRow : JobRow}
    (firstAt : rows[first]? = some firstRow) (secondAt : rows[second]? = some secondRow)
    (sameId : firstRow.id = secondRow.id) : first = second := by
  have firstId : (rows.map JobRow.id)[first]? = some firstRow.id := by simp [firstAt]
  have secondId : (rows.map JobRow.id)[second]? = some firstRow.id := by simp [secondAt, sameId]
  have firstBound := (List.getElem?_eq_some_iff.mp firstId).1
  have secondBound := (List.getElem?_eq_some_iff.mp secondId).1
  rcases Nat.lt_trichotomy first second with lt | same | gt
  · exact absurd (firstId.trans secondId.symm)
      (List.nodup_iff_getElem?_ne_getElem?.mp distinct first second lt secondBound)
  · exact same
  · exact absurd (secondId.trans firstId.symm)
      (List.nodup_iff_getElem?_ne_getElem?.mp distinct second first gt firstBound)

/-- What every world reachable under at-most-once delivery satisfies. -/
structure Invariant (world : World) : Prop where
  claimantsNodup : (world.openClaims.map OpenClaim.claimant).Nodup
  lockedCurrent : ∀ claim ∈ world.openClaims, ∀ job ∈ claim.rows,
    world.table.rows job.id = some job ∧ job.state ∈ claim.operation.fetchState
  lockedNodup : ∀ claim ∈ world.openClaims, claim.ids.Nodup
  locksDisjoint : ∀ first ∈ world.openClaims, ∀ second ∈ world.openClaims, ∀ id,
    id ∈ first.ids → id ∈ second.ids → first = second
  pendingCurrent : ∀ context ∈ world.contexts, context.ingestions = 0 →
    world.table.rows context.job.id = some context.job ∧
      context.job.state = context.operation.setState
  pendingUnique : ∀ (first second : Nat) (firstContext secondContext : Context),
    world.contexts[first]? = some firstContext →
    world.contexts[second]? = some secondContext →
    firstContext.ingestions = 0 → secondContext.ingestions = 0 →
    firstContext.job.id = secondContext.job.id → first = second

namespace Invariant

variable {world : World}

theorem initial (table : JobTable) : Invariant (.initial table) where
  claimantsNodup := List.nodup_nil
  lockedCurrent := by simp [World.initial]
  lockedNodup := by simp [World.initial]
  locksDisjoint := by simp [World.initial]
  pendingCurrent := by simp [World.initial]
  pendingUnique := by simp [World.initial]

/-- A row awaiting its result is in a start state, so no claim has locked it. -/
theorem pending_not_locked (invariant : Invariant world) {context : Context}
    (member : context ∈ world.contexts) (pending : context.ingestions = 0) :
    ¬ world.Locked context.job.id := by
  rintro ⟨claim, claimMember, claimed⟩
  obtain ⟨job, jobMember, sameId⟩ := List.mem_map.mp claimed
  obtain ⟨current, fetched⟩ := invariant.lockedCurrent claim claimMember job jobMember
  obtain ⟨pendingRow, started⟩ := invariant.pendingCurrent context member pending
  rw [sameId, pendingRow, Option.some_inj] at current
  subst current
  exact (Operation.not_terminal_of_mem_fetchState fetched).2
    (started ▸ context.operation.setState_inFlight)

/-- An element read from a list after `set` is the new one or an old one elsewhere. -/
theorem getElem?_set_eq_some {α : Type} {list : List α} {index position : Nat}
    {value found : α} (read : (list.set index value)[position]? = some found) :
    (position = index ∧ found = value) ∨ (position ≠ index ∧ list[position]? = some found) := by
  rw [List.getElem?_set] at read
  split_ifs at read with same
  · exact .inl ⟨same.symm, (Option.some.inj read).symm⟩
  · exact .inr ⟨Ne.symm same, read⟩

theorem begin {claimant : Nat} {operation : Operation} {rows : List JobRow}
    (invariant : Invariant world) (selectable : world.Selectable claimant operation rows) :
    Invariant { world with openClaims := ⟨claimant, operation, rows⟩ :: world.openClaims } := by
  obtain ⟨fresh, distinct, eligible⟩ := selectable
  have unlocked : ∀ claim ∈ world.openClaims, ∀ id ∈ claim.ids,
      id ∉ (OpenClaim.mk claimant operation rows).ids := by
    intro claim member id claimed fresh
    obtain ⟨job, jobMember, rfl⟩ := List.mem_map.mp fresh
    exact (eligible job jobMember).2.2 ⟨claim, member, claimed⟩
  refine ⟨?_, ?_, ?_, ?_, invariant.pendingCurrent, invariant.pendingUnique⟩
  · refine List.nodup_cons.mpr ⟨?_, invariant.claimantsNodup⟩
    simp only [List.mem_map, not_exists, not_and]
    exact fun claim member same => fresh claim member same
  · simp only [List.mem_cons, forall_eq_or_imp]
    exact ⟨fun job member => ⟨(eligible job member).1, (eligible job member).2.1⟩,
      invariant.lockedCurrent⟩
  · simp only [List.mem_cons, forall_eq_or_imp]
    exact ⟨distinct, invariant.lockedNodup⟩
  · simp only [List.mem_cons, forall_eq_or_imp]
    refine ⟨⟨fun _ _ _ => trivial, fun second member id first claimed =>
      absurd first (unlocked second member id claimed)⟩, fun first member => ⟨fun id claimed fresh =>
        absurd fresh (unlocked first member id claimed), invariant.locksDisjoint first member⟩⟩

theorem commit {claim : OpenClaim} (invariant : Invariant world)
    (member : claim ∈ world.openClaims) :
    Invariant ⟨claimRows world.table claim,
      world.openClaims.filter (·.claimant != claim.claimant),
      world.contexts ++ claimContexts claim⟩ := by
  have remaining : ∀ other ∈ world.openClaims.filter (·.claimant != claim.claimant),
      other ∈ world.openClaims ∧ other ≠ claim := by
    intro other kept
    obtain ⟨otherMember, differs⟩ := List.mem_filter.mp kept
    exact ⟨otherMember, by rintro rfl; simp at differs⟩
  have unclaimed : ∀ other ∈ world.openClaims, other ≠ claim →
      ∀ id ∈ other.ids, id ∉ claim.ids :=
    fun other otherMember differs id inOther inClaim =>
      differs (invariant.locksDisjoint other otherMember claim member id inOther inClaim)
  have rowsOutside : ∀ id ∉ claim.ids,
      (claimRows world.table claim).rows id = world.table.rows id := by
    intro id outside
    simp [claimRows, outside]
  have rowsInside : ∀ job ∈ claim.rows,
      (claimRows world.table claim).rows job.id = some (claim.started job) := by
    intro job jobMember
    have inside : job.id ∈ claim.ids := List.mem_map_of_mem _ jobMember
    simp [claimRows, inside, (invariant.lockedCurrent claim member job jobMember).1]
  have pendingOutside : ∀ context ∈ world.contexts, context.ingestions = 0 →
      context.job.id ∉ claim.ids :=
    fun context contextMember pending inside =>
      invariant.pending_not_locked contextMember pending ⟨claim, member, inside⟩
  have locate : ∀ position context,
      (world.contexts ++ claimContexts claim)[position]? = some context →
      world.contexts[position]? = some context ∨
        (world.contexts.length ≤ position ∧ ∃ job,
          claim.rows[position - world.contexts.length]? = some job ∧
          context = ⟨claim.claimant, claim.operation, claim.started job, none, 0⟩) := by
    intro position context read
    rw [List.getElem?_append] at read
    split_ifs at read with early
    · exact .inl read
    · simp only [claimContexts, List.getElem?_map, Option.map_eq_some'] at read
      obtain ⟨job, jobAt, rfl⟩ := read
      exact .inr ⟨Nat.le_of_not_lt early, job, jobAt, rfl⟩
  refine ⟨invariant.claimantsNodup.sublist ((List.filter_sublist _).map _), ?_,
    fun other kept => invariant.lockedNodup other (remaining other kept).1,
    fun first firstKept second secondKept =>
      invariant.locksDisjoint first (remaining first firstKept).1 second
        (remaining second secondKept).1, ?_, ?_⟩
  · intro other kept job jobMember
    obtain ⟨otherMember, differs⟩ := remaining other kept
    rw [rowsOutside _ (unclaimed other otherMember differs _ (List.mem_map_of_mem _ jobMember))]
    exact invariant.lockedCurrent other otherMember job jobMember
  · intro context contextMember pending
    rcases List.mem_append.mp contextMember with old | new
    · rw [rowsOutside _ (pendingOutside context old pending)]
      exact invariant.pendingCurrent context old pending
    · obtain ⟨job, jobMember, rfl⟩ := List.mem_map.mp new
      exact ⟨rowsInside job jobMember, rfl⟩
  · intro first second firstContext secondContext firstAt secondAt firstPending
      secondPending sameId
    rcases locate first firstContext firstAt with firstOld | ⟨firstLate, firstJob, firstJobAt, rfl⟩ <;>
      rcases locate second secondContext secondAt with
        secondOld | ⟨secondLate, secondJob, secondJobAt, rfl⟩
    · exact invariant.pendingUnique first second firstContext secondContext firstOld secondOld
        firstPending secondPending sameId
    · refine absurd ?_ (pendingOutside firstContext (List.getElem?_mem firstOld) firstPending)
      rw [sameId]
      exact (List.mem_map_of_mem JobRow.id (List.getElem?_mem secondJobAt) :
        secondJob.id ∈ claim.ids)
    · refine absurd ?_ (pendingOutside secondContext (List.getElem?_mem secondOld) secondPending)
      rw [← sameId]
      exact (List.mem_map_of_mem JobRow.id (List.getElem?_mem firstJobAt) :
        firstJob.id ∈ claim.ids)
    · have := index_eq_of_same_id (invariant.lockedNodup claim member) firstJobAt secondJobAt
        sameId
      omega

theorem abort (claimant : Nat) (invariant : Invariant world) :
    Invariant { world with openClaims := world.openClaims.filter (·.claimant != claimant) } where
  claimantsNodup := invariant.claimantsNodup.sublist ((List.filter_sublist _).map _)
  lockedCurrent claim kept := invariant.lockedCurrent claim (List.mem_of_mem_filter kept)
  lockedNodup claim kept := invariant.lockedNodup claim (List.mem_of_mem_filter kept)
  locksDisjoint first firstKept second secondKept :=
    invariant.locksDisjoint first (List.mem_of_mem_filter firstKept) second
      (List.mem_of_mem_filter secondKept)
  pendingCurrent := invariant.pendingCurrent
  pendingUnique := invariant.pendingUnique

/-- Replacing a context by one for the same job, pending only if the old one was. -/
theorem setContext {index : Nat} {context replacement : Context}
    (invariant : Invariant world) (found : world.contexts[index]? = some context)
    (sameJob : replacement.job = context.job)
    (sameOperation : replacement.operation = context.operation)
    (stillPending : replacement.ingestions = 0 → context.ingestions = 0) :
    Invariant { world with contexts := world.contexts.set index replacement } := by
  have recover : ∀ (position : Nat) (found' : Context),
      (world.contexts.set index replacement)[position]? = some found' →
      found'.ingestions = 0 →
      ∃ original : Context, world.contexts[position]? = some original ∧
        original.ingestions = 0 ∧
        original.job = found'.job ∧ original.operation = found'.operation := by
    intro position found' read pending
    rcases getElem?_set_eq_some read with ⟨rfl, rfl⟩ | ⟨-, old⟩
    · exact ⟨context, found, stillPending pending, sameJob.symm, sameOperation.symm⟩
    · exact ⟨found', old, pending, rfl, rfl⟩
  refine ⟨invariant.claimantsNodup, invariant.lockedCurrent, invariant.lockedNodup,
    invariant.locksDisjoint, ?_, ?_⟩
  · intro found' member pending
    obtain ⟨position, read⟩ := List.mem_iff_getElem?.mp member
    obtain ⟨original, old, originalPending, sameJob', sameOperation'⟩ :=
      recover position found' read pending
    rw [← sameJob', ← sameOperation']
    exact invariant.pendingCurrent original (List.getElem?_mem old) originalPending
  · intro first second firstContext secondContext firstAt secondAt firstPending secondPending
      sameId
    obtain ⟨firstOriginal, firstOld, firstOriginalPending, firstJob, -⟩ :=
      recover first firstContext firstAt firstPending
    obtain ⟨secondOriginal, secondOld, secondOriginalPending, secondJob, -⟩ :=
      recover second secondContext secondAt secondPending
    exact invariant.pendingUnique first second firstOriginal secondOriginal firstOld secondOld
      firstOriginalPending secondOriginalPending (by rw [firstJob, secondJob, sameId])

/-- Rewriting one unlocked row that no pending context names. -/
theorem rewriteRow {table : JobTable} {id : Nat} (invariant : Invariant world)
    (agrees : ∀ other, other ≠ id → table.rows other = world.table.rows other)
    (unlocked : ¬ world.Locked id)
    (idle : ∀ context ∈ world.contexts, context.ingestions = 0 → context.job.id ≠ id) :
    Invariant { world with table := table } := by
  refine ⟨invariant.claimantsNodup, ?_, invariant.lockedNodup, invariant.locksDisjoint, ?_,
    invariant.pendingUnique⟩
  · intro claim member job jobMember
    have locked : world.Locked job.id := ⟨claim, member, List.mem_map_of_mem _ jobMember⟩
    rw [agrees _ (fun same => unlocked (same ▸ locked))]
    exact invariant.lockedCurrent claim member job jobMember
  · intro context member pending
    rw [agrees _ (idle context member pending)]
    exact invariant.pendingCurrent context member pending

theorem ingest {index : Nat} {context : Context} {table : JobTable}
    (invariant : Invariant world) (found : world.contexts[index]? = some context)
    (pending : context.ingestions = 0) (unlocked : ¬ world.Locked context.job.id)
    (writes : ∀ other, other ≠ context.job.id → table.rows other = world.table.rows other) :
    Invariant { world with
      table := table
      contexts := world.contexts.set index
        { context with ingestions := context.ingestions + 1 } } := by
  have replaced : Invariant { world with
      contexts := world.contexts.set index
        { context with ingestions := context.ingestions + 1 } } :=
    invariant.setContext found rfl rfl (fun never => absurd never (Nat.succ_ne_zero _))
  refine replaced.rewriteRow writes unlocked ?_
  intro other member otherPending sameId
  obtain ⟨position, read⟩ := List.mem_iff_getElem?.mp member
  rcases getElem?_set_eq_some read with ⟨-, rfl⟩ | ⟨differs, old⟩
  · exact Nat.succ_ne_zero _ otherPending
  · exact differs
      (invariant.pendingUnique position index other context old found otherPending pending sameId)

theorem step {Status : Type} {getFinResult : Option Status → Bool × String}
    {event : Event Status} {after : World} (invariant : Invariant world)
    (stepped : Protocol.step getFinResult .atMostOnce world event = some after) :
    Invariant after := by
  cases event with
  | begin claimant operation rows =>
      obtain ⟨selectable, rfl⟩ := step_begin stepped
      exact invariant.begin selectable
  | commit claimant =>
      obtain ⟨claim, member, rfl, rfl⟩ := step_commit stepped
      exact invariant.commit member
  | abort claimant =>
      rw [step_abort stepped]
      exact invariant.abort claimant
  | deliver index payload =>
      obtain ⟨context, found, rfl⟩ := step_deliver stepped
      exact invariant.setContext found rfl rfl id
  | ingest index store =>
      obtain ⟨context, payload, found, -, pending, unlocked, rfl⟩ := step_ingest stepped
      exact invariant.ingest found pending unlocked
        (processResults_rows_ne context.operation payload store context.job world.table)

/-- Two holders of one job hold it through the same pending context. -/
theorem singleHolder (invariant : Invariant world) : SingleHolder world := by
  rintro id first second ⟨firstContext, firstMember, rfl, firstId, firstPending, -⟩
    ⟨secondContext, secondMember, rfl, secondId, secondPending, -⟩
  obtain ⟨firstPosition, firstAt⟩ := List.mem_iff_getElem?.mp firstMember
  obtain ⟨secondPosition, secondAt⟩ := List.mem_iff_getElem?.mp secondMember
  obtain rfl := invariant.pendingUnique _ _ _ _ firstAt secondAt firstPending secondPending
    (firstId.trans secondId.symm)
  rw [firstAt, Option.some_inj] at secondAt
  rw [secondAt]

end Invariant

/-- Rows that stay, or move on from a non-terminal state without losing retries. -/
theorem safe_of_rows {before after : World}
    (rows : ∀ id row, before.table.rows id = some row →
      after.table.rows id = some row ∨
        (¬ row.state.IsTerminal ∧
          ∃ later, after.table.rows id = some later ∧ row.retries ≤ later.retries)) :
    TerminalStable before after ∧ RetriesMonotone before after := by
  constructor
  · intro id row present terminal
    rcases rows id row present with same | ⟨moving, -⟩
    · rw [same]
      rfl
    · exact absurd terminal moving
  · intro id row present
    rcases rows id row present with same | ⟨-, later⟩
    · exact ⟨row, same, le_refl _⟩
    · exact later

theorem Invariant.step_safe {Status : Type} {getFinResult : Option Status → Bool × String}
    {world after : World} {event : Event Status} (invariant : Invariant world)
    (stepped : Protocol.step getFinResult .atMostOnce world event = some after) :
    TerminalStable world after ∧ RetriesMonotone world after := by
  apply safe_of_rows
  intro id row present
  cases event with
  | begin claimant operation rows =>
      obtain ⟨-, rfl⟩ := step_begin stepped
      exact .inl present
  | commit claimant =>
      obtain ⟨claim, member, rfl, rfl⟩ := step_commit stepped
      by_cases claimed : id ∈ claim.ids
      · obtain ⟨job, jobMember, rfl⟩ := List.mem_map.mp claimed
        obtain ⟨current, fetched⟩ := invariant.lockedCurrent claim member job jobMember
        rw [current, Option.some_inj] at present
        subst present
        refine .inr ⟨(Operation.not_terminal_of_mem_fetchState fetched).1, claim.started job,
          ?_, le_refl _⟩
        simp [claimRows, claimed, current]
      · exact .inl (by simp [claimRows, claimed, present])
  | abort claimant =>
      rw [step_abort stepped]
      exact .inl present
  | deliver index payload =>
      obtain ⟨context, found, rfl⟩ := step_deliver stepped
      exact .inl present
  | ingest index store =>
      obtain ⟨context, payload, found, -, pending, -, rfl⟩ := step_ingest stepped
      by_cases written : id = context.job.id
      · subst written
        obtain ⟨current, started⟩ :=
          invariant.pendingCurrent context (List.getElem?_mem found) pending
        rw [current, Option.some_inj] at present
        subst present
        refine .inr ⟨fun terminal => ?_, ?_⟩
        · rcases context.operation.setState_inFlight with inFlight | inFlight <;>
            rcases terminal with stuck | stuck <;> simp_all
        · rcases processResults_writes_job_row context.operation payload store context.job
            world.table with same | ⟨state, incrementRetries, result, write⟩
          · exact ⟨context.job, by rw [same, current], le_refl _⟩
          · refine ⟨_, by rw [write, setJobState_self, current]; rfl, ?_⟩
            split <;> simp
      · exact .inl (by
          rw [processResults_rows_ne context.operation payload store context.job world.table id
            written]
          exact present)

/--
Under at-most-once delivery the claim protocol is safe over every run: no
job has two holders, a terminal job keeps its state and retries never
decrease.
-/
theorem claims_safe_at_most_once {Status : Type}
    (getFinResult : Option Status → Bool × String) :
    ProtocolSafe getFinResult .atMostOnce := by
  intro world reachable
  have invariant : Invariant world := by
    induction reachable with
    | initial table => exact Invariant.initial table
    | step event _ stepped inductionHypothesis => exact inductionHypothesis.step stepped
  exact ⟨invariant.singleHolder, fun _ _ stepped => invariant.step_safe stepped⟩


end MITuna.Protocol
