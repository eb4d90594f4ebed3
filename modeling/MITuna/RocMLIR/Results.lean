import MITuna.PyText
import MITuna.RocMLIR.Worker

namespace MITuna.RocMLIR

/-!
# `ConvolutionResults.parse` as the worker's results parser

`ConvolutionResults.parse` (`tuna/rocmlir/rocmlir_tables.py`) reads a
`[SetValues]` line of a find-db log into `self.fdb_slv_dir`.  Nothing in the
class assigns that attribute, so its first read raises `AttributeError`: the
method returns `False` or raises, and never records a solver.
`FDB_SLV_NUM_FIELDS` is neither defined nor imported in the source, so it is a
parameter, and the results below hold for every value of it.  `direction` is
computed from the key but only read after the raise, and the constructor only
sets up a logger, so both are left out.

`update_result_table` unpacks what `obj.parse` returns into five names.  With
`ConvolutionResults` as the results class, the only one in the source, a
`bool` cannot be unpacked, so no result line ever becomes a row.
-/

/-- The `ValueError` of unpacking `count` values into two names. -/
def unpackTwoError (count : Nat) : String :=
  if count < 2 then "not enough values to unpack (expected 2, got " ++ toString count ++ ")"
  else "too many values to unpack (expected 2)"

theorem unpackTwoError_ne_substring (count : Nat) :
    unpackTwoError count ≠ "substring not found" := by
  intro same
  have heads := congrArg (fun text : String => text.data.head?) same
  unfold unpackTwoError at heads
  split_ifs at heads <;> exact nomatch heads

/-- `message`: the text after the first `[SetValues]` of a line. -/
def setValuesMessage (decodedLine : String) : String :=
  (splitAtText "[SetValues]" decodedLine).getD 1 ""

/-- `key = message.split(',')[0].strip()`. -/
def setValuesKey (message : String) : String :=
  stripSpace ((splitText ',' message).headD "")

/-- `columns`: the message after `'content inserted: '`, split at commas;
`none` for the `ValueError` of `message.index(lead_str)`. -/
def solverColumns (message : String) : Option (List String) :=
  (textIndex "content inserted: ".data message.data).map fun index =>
    splitText ',' ⟨message.data.drop (index + "content inserted: ".length)⟩

/-- The first read of `self.fdb_slv_dir`, which the class never assigns. -/
def fdbSlvDirError : Exc :=
  ⟨.other, "'ConvolutionResults' object has no attribute 'fdb_slv_dir'"⟩

/-- The first pass of the `while` loop: `(_, slv) = columns[0].split(':')`, then
the read of `self.fdb_slv_dir`. -/
def readSolverColumn (column : String) : Except Exc Bool :=
  match splitText ':' column with
  | [_, _] => .error fdbSlvDirError
  | parts => .error ⟨.valueError, unpackTwoError parts.length⟩

/-- `ConvolutionResults.parse` from `key = ...` on, for the message of a
`[SetValues]` line. -/
def ConvolutionResults.parseMessage (fdbSlvNumFields : Nat) (message : String) :
    Except Exc Bool :=
  if setValuesKey message ≠ "" then
    match solverColumns message with
    | none => .error ⟨.valueError, "substring not found"⟩
    | some columns =>
        if fdbSlvNumFields ≤ columns.length then readSolverColumn (columns.headD "")
        else .ok false
  else .ok false

/-- `ConvolutionResults.parse`, up to the first read of `self.fdb_slv_dir`.
`split('[SetValues]')[1]` of a line that holds the marker always exists; the
`IndexError` branch only spells out Python's indexing. -/
def ConvolutionResults.parse (fdbSlvNumFields : Nat) (decodedLine : String) : Except Exc Bool :=
  if hasInfix "[SetValues]" decodedLine then
    match splitAtText "[SetValues]" decodedLine with
    | _ :: message :: _ => ConvolutionResults.parseMessage fdbSlvNumFields message
    | _ => .error ⟨.other, "list index out of range"⟩
  else .ok false

namespace ConvolutionResults

/-! ## The kinds of line -/

/-- A line `parse` passes over: no `[SetValues]`, a blank key, or fewer solver
columns than `FDB_SLV_NUM_FIELDS`. -/
def Skipped (fdbSlvNumFields : Nat) (decodedLine : String) : Prop :=
  hasInfix "[SetValues]" decodedLine = false ∨ setValuesKey (setValuesMessage decodedLine) = "" ∨
    ∃ columns, solverColumns (setValuesMessage decodedLine) = some columns ∧
      columns.length < fdbSlvNumFields

/-- A `[SetValues]` line with a key whose message lacks `'content inserted: '`. -/
def MissingLead (decodedLine : String) : Prop :=
  hasInfix "[SetValues]" decodedLine = true ∧ setValuesKey (setValuesMessage decodedLine) ≠ "" ∧
    solverColumns (setValuesMessage decodedLine) = none

/-- A `[SetValues]` line with a key and enough solver columns, the first of
them `alg:slv`: the loop gets as far as `self.fdb_slv_dir`. -/
def ReadsSolver (fdbSlvNumFields : Nat) (decodedLine : String) : Prop :=
  hasInfix "[SetValues]" decodedLine = true ∧ setValuesKey (setValuesMessage decodedLine) ≠ "" ∧
    ∃ alg slv rest,
      solverColumns (setValuesMessage decodedLine) = some ((alg ++ ":" ++ slv) :: rest) ∧
        ':' ∉ alg.data ∧ ':' ∉ slv.data ∧ fdbSlvNumFields ≤ rest.length + 1

/-! ## What `parse` returns for each kind -/

theorem readSolverColumn_outcomes (column : String) :
    (readSolverColumn column = .error fdbSlvDirError ↔
      ∃ alg slv, column = alg ++ ":" ++ slv ∧ ':' ∉ alg.data ∧ ':' ∉ slv.data) ∧
    (readSolverColumn column = .error fdbSlvDirError ∨
      ∃ count, readSolverColumn column = .error ⟨.valueError, unpackTwoError count⟩) := by
  have colon : (":" : String) = ⟨[':']⟩ := rfl
  simp only [colon, ← splitText_eq_pair]
  rcases split : splitText ':' column with _ | ⟨alg, _ | ⟨slv, _ | ⟨more, rest⟩⟩⟩ <;>
    simp [readSolverColumn, split, fdbSlvDirError]

theorem parseMessage_outcomes (fdbSlvNumFields : Nat) (message : String) :
    (parseMessage fdbSlvNumFields message = .ok false ↔ setValuesKey message = "" ∨
      ∃ columns, solverColumns message = some columns ∧ columns.length < fdbSlvNumFields) ∧
    (parseMessage fdbSlvNumFields message = .error ⟨.valueError, "substring not found"⟩ ↔
      setValuesKey message ≠ "" ∧ solverColumns message = none) ∧
    (parseMessage fdbSlvNumFields message = .error fdbSlvDirError ↔ setValuesKey message ≠ "" ∧
      ∃ alg slv rest, solverColumns message = some ((alg ++ ":" ++ slv) :: rest) ∧
        ':' ∉ alg.data ∧ ':' ∉ slv.data ∧ fdbSlvNumFields ≤ rest.length + 1) ∧
    (parseMessage fdbSlvNumFields message = .ok false ∨
      parseMessage fdbSlvNumFields message = .error fdbSlvDirError ∨
      ∃ text, parseMessage fdbSlvNumFields message = .error ⟨.valueError, text⟩) := by
  by_cases blank : setValuesKey message = ""
  · simp [parseMessage, blank, fdbSlvDirError]
  cases found : solverColumns message with
  | none => simp [parseMessage, blank, found, fdbSlvDirError]
  | some columns =>
      by_cases enough : fdbSlvNumFields ≤ columns.length
      · cases columns with
        | nil =>
            have unpacked : readSolverColumn "" =
                .error ⟨.valueError, "not enough values to unpack (expected 2, got 1)"⟩ := rfl
            simp [parseMessage, blank, found, Nat.le_zero.mp enough, unpacked, fdbSlvDirError]
        | cons first rest =>
            rw [List.length_cons] at enough
            obtain ⟨solver, reads | ⟨count, unpacks⟩⟩ := readSolverColumn_outcomes first
            · simp [parseMessage, blank, found, enough, reads, fdbSlvDirError]
              obtain ⟨alg, slv, split, algPlain, slvPlain⟩ := solver.mp reads
              exact ⟨alg, slv, rest, ⟨split, rfl⟩, algPlain, slvPlain, enough⟩
            · simp [parseMessage, blank, found, enough, unpacks, fdbSlvDirError,
                unpackTwoError_ne_substring]
              intro alg slv split algPlain slvPlain
              simpa [unpacks, fdbSlvDirError] using
                solver.mpr ⟨alg, slv, split, algPlain, slvPlain⟩
      · simp [parseMessage, blank, found, enough, fdbSlvDirError]
        refine ⟨by omega, ?_⟩
        rintro _ _ _ rfl - -
        simpa using enough

theorem parse_of_marker {fdbSlvNumFields : Nat} {decodedLine : String}
    (marker : hasInfix "[SetValues]" decodedLine = true) :
    parse fdbSlvNumFields decodedLine =
      parseMessage fdbSlvNumFields (setValuesMessage decodedLine) := by
  have pieces : 2 ≤ (splitAtText "[SetValues]" decodedLine).length := by
    simpa [splitAtText] using
      two_le_length_splitAtGo (by decide) (by simpa [hasInfix] using marker)
  unfold parse setValuesMessage
  rw [if_pos marker]
  rcases split : splitAtText "[SetValues]" decodedLine with _ | ⟨first, _ | ⟨message, rest⟩⟩
  · simp [split] at pieces
  · simp [split] at pieces
  · rfl

/-- What `ConvolutionResults.parse` does with each kind of line, for every
value of `FDB_SLV_NUM_FIELDS`: it returns `False` exactly for a line it passes
over, raises `ValueError` for a `[SetValues]` line that lacks the lead, and
raises `AttributeError` exactly for a line whose first solver column is
`alg:slv`; every other line raises `ValueError` at the unpacking of that column.
So it never returns `True`, and its `IndexError` is never raised. -/
theorem parse_outcomes (fdbSlvNumFields : Nat) (decodedLine : String) :
    (parse fdbSlvNumFields decodedLine = .ok false ↔ Skipped fdbSlvNumFields decodedLine) ∧
    (parse fdbSlvNumFields decodedLine = .error ⟨.valueError, "substring not found"⟩ ↔
      MissingLead decodedLine) ∧
    (parse fdbSlvNumFields decodedLine = .error fdbSlvDirError ↔
      ReadsSolver fdbSlvNumFields decodedLine) ∧
    (parse fdbSlvNumFields decodedLine = .ok false ∨
      parse fdbSlvNumFields decodedLine = .error fdbSlvDirError ∨
      ∃ text, parse fdbSlvNumFields decodedLine = .error ⟨.valueError, text⟩) := by
  cases marker : hasInfix "[SetValues]" decodedLine with
  | false => simp [parse, marker, Skipped, MissingLead, ReadsSolver, fdbSlvDirError]
  | true =>
      rw [parse_of_marker marker]
      simpa [Skipped, MissingLead, ReadsSolver, marker] using
        parseMessage_outcomes fdbSlvNumFields (setValuesMessage decodedLine)

example : parse 5 "MIOpen [SetValues] 1-2-3-F, content inserted: 1:ConvDirect,0.5,0,d,k" =
    .error fdbSlvDirError := rfl

end ConvolutionResults

/-- `arch, num_cu, config, perf_config, tflops = obj.parse(result_str)` when
`obj.parse` returns a `bool`. -/
def unpackResults : Except Exc Bool → Except Exc Parsed
  | .ok _ => .error ⟨.other, "cannot unpack non-iterable bool object"⟩
  | .error exc => .error exc

/-- The worker's world with `ConvolutionResults` as `self.dbt.results`. -/
def Environment.withConvolutionResults (env : Environment) (fdbSlvNumFields : Nat) :
    Environment :=
  { env with parse := fun resultStr =>
      unpackResults (ConvolutionResults.parse fdbSlvNumFields resultStr) }

/--
With `ConvolutionResults` as the results class, no step of the rocMLIR worker
inserts a results row, whatever the command prints and the store does:
`update_result_table` raises on every result line before its insert.
-/
theorem step_never_inserts_convolution_results (numSqlRetries fdbSlvNumFields : Nat)
    (env : Environment) (claimed : Bool) :
    insertedRows (step numSqlRetries (env.withConvolutionResults fdbSlvNumFields) claimed).2 =
      [] :=
  step_insertedRows_of_unparsed numSqlRetries _ claimed fun resultStr => by
    show ∃ exc, unpackResults (ConvolutionResults.parse fdbSlvNumFields resultStr) = .error exc
    cases ConvolutionResults.parse fdbSlvNumFields resultStr with
    | ok _ => exact ⟨_, rfl⟩
    | error exc => exact ⟨exc, rfl⟩

end MITuna.RocMLIR
