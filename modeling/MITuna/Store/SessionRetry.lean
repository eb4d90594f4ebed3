import Mathlib.Data.List.Basic

namespace MITuna

/-!
# Retrying a store operation

`session_retry` (`tuna/utils/db_utility.py`) runs a store operation at most
`NUM_SQL_RETRIES` times.  An `OperationalError`, of SQLAlchemy or of pymysql,
is contention: the session is rolled back, the caller sleeps, and the
operation runs again.  An `IntegrityError` is rolled back once and reported
as `False`; any other exception escapes.  Each call of the operation is an
oracle indexed by its call number and run on the committed store, so every
sequence of outcomes is one input.  `NUM_SQL_RETRIES`
(`tuna/utils/metadata.py`) is not in the source and is a parameter.
-/

/-- The exception classes the store helpers and the workers tell apart. -/
inductive ExcClass
  | operationalError
  | pymysqlOperationalError
  | integrityError
  | valueError
  | other
  deriving Repr, DecidableEq

namespace ExcClass

/-- The two classes `session_retry` treats as contention. -/
def IsOperational (cls : ExcClass) : Prop :=
  cls = .operationalError ∨ cls = .pymysqlOperationalError

instance : DecidablePred IsOperational :=
  fun cls => inferInstanceAs (Decidable (cls = .operationalError ∨ cls = .pymysqlOperationalError))

end ExcClass

/-- A raised exception: its class and its text, `str(exc)`. -/
structure Exc where
  cls : ExcClass
  text : String
  deriving Repr, DecidableEq

/-- What `session_retry` does with the session, in order. -/
inductive Action
  | call
  | rollback
  | sleep
  deriving Repr, DecidableEq

/--
One call of a store operation, numbered from 0, run as a transaction on the
committed store: the value it returns with the store it committed just
before returning, or the exception it raised, its work rolled back.
-/
abbrev Actuator (σ α : Type) := Nat → σ → Except Exc (α × σ)

/-- What `session_retry` did, what it returned (`none` for its `False`),
and the store left committed. -/
structure Retried (σ α : Type) where
  actions : List Action
  result : Except Exc (Option α)
  store : σ

section SessionRetry

variable {σ α : Type}

/--
`session_retry` with `numSqlRetries` turns of `range(NUM_SQL_RETRIES)` left,
the next call being call 0 of `actuator`.
-/
def sessionRetry : Nat → Actuator σ α → σ → Retried σ α
  | 0, _, store => ⟨[], .ok none, store⟩
  | numSqlRetries + 1, actuator, store =>
      match actuator 0 store with
      | .ok (value, committed) => ⟨[.call], .ok (some value), committed⟩
      | .error exc =>
          if exc.cls.IsOperational then
            let later := sessionRetry numSqlRetries (fun idx => actuator (idx + 1)) store
            ⟨.call :: .rollback :: .sleep :: later.actions, later.result, later.store⟩
          else if exc.cls = .integrityError then
            ⟨[.call, .rollback], .ok none, store⟩
          else
            ⟨[.call], .error exc, store⟩

/-- `k` turns of contention: a call, its rollback and the sleep. -/
def contention : Nat → List Action
  | 0 => []
  | k + 1 => .call :: .rollback :: .sleep :: contention k

/-- A call ended in contention. -/
def Contended (outcome : Except Exc (α × σ)) : Prop :=
  ∃ exc, outcome = .error exc ∧ exc.cls.IsOperational

theorem sessionRetry_of_returned {numSqlRetries : Nat} {actuator : Actuator σ α} {store : σ}
    {value : α} {committed : σ} (returned : actuator 0 store = .ok (value, committed)) :
    sessionRetry (numSqlRetries + 1) actuator store = ⟨[.call], .ok (some value), committed⟩ := by
  simp [sessionRetry, returned]

theorem sessionRetry_of_integrity {numSqlRetries : Nat} {actuator : Actuator σ α} {store : σ}
    {exc : Exc} (raised : actuator 0 store = .error exc) (integrity : exc.cls = .integrityError) :
    sessionRetry (numSqlRetries + 1) actuator store = ⟨[.call, .rollback], .ok none, store⟩ := by
  simp [sessionRetry, raised, integrity, ExcClass.IsOperational]

/-- Any other exception leaves `session_retry` at the first call. -/
theorem sessionRetry_of_escaping {numSqlRetries : Nat} {actuator : Actuator σ α} {store : σ}
    {exc : Exc} (raised : actuator 0 store = .error exc) (notOperational : ¬ exc.cls.IsOperational)
    (notIntegrity : exc.cls ≠ .integrityError) :
    sessionRetry (numSqlRetries + 1) actuator store = ⟨[.call], .error exc, store⟩ := by
  simp [sessionRetry, raised, notOperational, notIntegrity]

theorem sessionRetry_of_contended {numSqlRetries : Nat} {actuator : Actuator σ α} {store : σ}
    (contended : Contended (actuator 0 store)) :
    sessionRetry (numSqlRetries + 1) actuator store =
      ⟨.call :: .rollback :: .sleep ::
          (sessionRetry numSqlRetries (fun idx => actuator (idx + 1)) store).actions,
        (sessionRetry numSqlRetries (fun idx => actuator (idx + 1)) store).result,
        (sessionRetry numSqlRetries (fun idx => actuator (idx + 1)) store).store⟩ := by
  obtain ⟨exc, raised, operational⟩ := contended
  simp [sessionRetry, raised, operational]

/-- Contention on call 0 and on the calls after it is contention on all of them. -/
theorem contended_cons {actuator : Actuator σ α} {store : σ} {k : Nat}
    (first : Contended (actuator 0 store))
    (later : ∀ idx < k, Contended (actuator (idx + 1) store)) :
    ∀ idx < k + 1, Contended (actuator idx store)
  | 0, _ => first
  | idx + 1, below => later idx (Nat.lt_of_succ_lt_succ below)

/-- A property of the starting store that every committed store has holds
of the store `session_retry` leaves. -/
theorem sessionRetry_store {P : σ → Prop} (numSqlRetries : Nat) (actuator : Actuator σ α)
    (store : σ) (start : P store)
    (commits : ∀ idx value committed, actuator idx store = .ok (value, committed) → P committed) :
    P (sessionRetry numSqlRetries actuator store).store := by
  induction numSqlRetries generalizing actuator with
  | zero => exact start
  | succ numSqlRetries inductionHypothesis =>
      unfold sessionRetry
      cases first : actuator 0 store with
      | ok outcome => exact commits 0 outcome.1 outcome.2 first
      | error exc =>
          dsimp only
          split_ifs
          · exact inductionHypothesis _ fun idx => commits (idx + 1)
          · exact start
          · exact start

/-- An exception that leaves `session_retry` leaves the store it started from. -/
theorem sessionRetry_store_of_error {numSqlRetries : Nat} {actuator : Actuator σ α} {store : σ}
    {exc : Exc} (raised : (sessionRetry numSqlRetries actuator store).result = .error exc) :
    (sessionRetry numSqlRetries actuator store).store = store := by
  induction numSqlRetries generalizing actuator with
  | zero => rfl
  | succ numSqlRetries inductionHypothesis =>
      unfold sessionRetry at raised ⊢
      cases first : actuator 0 store with
      | ok outcome => simp [first] at raised
      | error exc =>
          simp only [first] at raised ⊢
          split_ifs at raised ⊢
          · exact inductionHypothesis raised
          · rfl

/-- Every call returns, or raises contention or an integrity error. -/
def Classified (actuator : Actuator σ α) (store : σ) : Prop :=
  ∀ idx exc, actuator idx store = .error exc → exc.cls.IsOperational ∨ exc.cls = .integrityError

/--
The retry law.  `session_retry` makes the calls up to the first one that is
not contention, each contended call followed by its rollback and sleep.  It
returns that call's value with the store that call committed, or `False`
with the store it started from, when that call raised `IntegrityError` or
when all `numSqlRetries` calls were contention.
-/
def RetryLaw (numSqlRetries : Nat) (actuator : Actuator σ α) (store : σ) : Prop :=
  ((∀ idx < numSqlRetries, Contended (actuator idx store)) ∧
      sessionRetry numSqlRetries actuator store = ⟨contention numSqlRetries, .ok none, store⟩) ∨
    ∃ k < numSqlRetries, (∀ idx < k, Contended (actuator idx store)) ∧
      ((∃ value committed, actuator k store = .ok (value, committed) ∧
          sessionRetry numSqlRetries actuator store =
            ⟨contention k ++ [.call], .ok (some value), committed⟩) ∨
        ∃ exc, actuator k store = .error exc ∧ exc.cls = .integrityError ∧
          sessionRetry numSqlRetries actuator store =
            ⟨contention k ++ [.call, .rollback], .ok none, store⟩)

theorem sessionRetry_law (numSqlRetries : Nat) (actuator : Actuator σ α) (store : σ)
    (classified : Classified actuator store) : RetryLaw numSqlRetries actuator store := by
  induction numSqlRetries generalizing actuator with
  | zero => exact .inl ⟨fun _ none => absurd none (Nat.not_lt_zero _), rfl⟩
  | succ numSqlRetries inductionHypothesis =>
      cases first : actuator 0 store with
      | ok outcome =>
          exact .inr ⟨0, Nat.succ_pos _, fun _ none => absurd none (Nat.not_lt_zero _),
            .inl ⟨outcome.1, outcome.2, first, sessionRetry_of_returned first⟩⟩
      | error exc =>
          rcases classified 0 exc first with operational | integrity
          · have contended : Contended (actuator 0 store) := ⟨exc, first, operational⟩
            rw [RetryLaw, sessionRetry_of_contended contended]
            rcases inductionHypothesis (fun idx => actuator (idx + 1))
                (fun idx => classified (idx + 1)) with
              ⟨later, exhausted⟩ | ⟨k, below, later, settled⟩
            · exact .inl ⟨contended_cons contended later, by rw [exhausted]; rfl⟩
            · refine .inr ⟨k + 1, Nat.succ_lt_succ below, contended_cons contended later, ?_⟩
              rcases settled with ⟨value, committed, returned, equal⟩ |
                ⟨raisedExc, raised, integrity, equal⟩
              · exact .inl ⟨value, committed, returned, by rw [equal]; rfl⟩
              · exact .inr ⟨raisedExc, raised, integrity, by rw [equal]; rfl⟩
          · exact .inr ⟨0, Nat.succ_pos _, fun _ none => absurd none (Nat.not_lt_zero _),
              .inr ⟨exc, first, integrity, sessionRetry_of_integrity first integrity⟩⟩

/-- A store operation that meets contention on its first call and then
commits one more row. -/
def contendedOnce : Actuator Nat Bool
  | 0, _ => .error ⟨.operationalError, "Lock wait timeout exceeded"⟩
  | _ + 1, rows => .ok (true, rows + 1)

theorem sessionRetry_law_on_contended_once :
    Classified contendedOnce 0 ∧ RetryLaw 3 contendedOnce 0 := by
  have classified : Classified contendedOnce 0 := by
    rintro (_ | idx) exc raised
    · cases raised
      exact .inl (.inl rfl)
    · cases raised
  exact ⟨classified, sessionRetry_law 3 contendedOnce 0 classified⟩

end SessionRetry

end MITuna
