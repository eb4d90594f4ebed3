import Mathlib.Data.List.Sort
import MITuna.Job.Basic
import MITuna.Store.Statements

namespace MITuna

/-!
# `SELECT` over the job table

`get_job_rows` runs a `SELECT` built as text.  This module reads the shape
the code writes (a column list, a conjunction of comparisons, `IN` lists and
`LIKE` patterns, an `ORDER BY`, an optional `LIMIT` and `FOR UPDATE SKIP
LOCKED`) and evaluates it over the job table as MySQL does: rows locked by
another transaction are skipped, the matching rows are ordered ascending by
the `ORDER BY` columns, and the `LIMIT` cuts the ordered list.

Two facts about the server are parameters, as the repository fixes neither:
the collation, as a folding of characters applied by every string
comparison and `LIKE`, and the order in which the scan meets the rows, which
decides the order of rows with equal sort keys.
-/

namespace JobRow

/-- The columns of the job table the model keeps. -/
def columnNames : List String :=
  ["id", "config", "solver", "session", "state", "valid", "retries", "reason", "fin_step",
    "result"]

/-- The value of a column in a row; `valid` is stored as `1` or `0`. -/
def value (row : JobRow) : String → Sql.SqlValue
  | "id" => .int row.id
  | "config" => .int row.config
  | "solver" => .str row.solver
  | "session" => .int row.session
  | "state" => .str row.state.name
  | "valid" => .int (if row.valid then 1 else 0)
  | "retries" => .int row.retries
  | "reason" => .str row.reason
  | "fin_step" => .str row.finStep
  | "result" => .str row.result
  | _ => .null

end JobRow

namespace Sql

/-- A comparison the code writes in a `WHERE` clause. -/
inductive Comparison
  | eq
  | lt
  deriving Repr, DecidableEq

/-- One conjunct of a `WHERE` clause as MySQL reads it. -/
inductive Condition
  | compare (column : String) (comparison : Comparison) (value : SqlValue)
  | within (column : String) (values : List SqlValue)
  | like (column : String) (pattern : SqlValue)
  deriving Repr, DecidableEq

/-- The column a condition reads. -/
def Condition.column : Condition → String
  | .compare column _ _ => column
  | .within column _ => column
  | .like column _ => column

/-- A `SELECT` as MySQL reads it. -/
structure Select where
  columns : List String
  table : String
  conditions : List Condition
  orderBy : List String
  limit : Option Nat
  skipLocked : Bool
  deriving Repr, DecidableEq

/-! ## Reading the statement -/

/-- How a comparison is written. -/
def Comparison.symbol : Comparison → String
  | .eq => "="
  | .lt => "<"

/-- One conjunct: `column=literal`, `column<literal`, `column in (literals)` or
`column like literal`. -/
def readCondition (cs : List Char) : Option (Condition × List Char) := do
  let (column, rest) ← readName cs
  (do
      let rest ← expect "=" rest
      let (value, rest) ← readLiteral rest
      pure (.compare column .eq value, rest)) <|>
    (do
      let rest ← expect "<" rest
      let (value, rest) ← readLiteral rest
      pure (.compare column .lt value, rest)) <|>
    (do
      let rest ← expect " in (" rest
      let (values, rest) ← sepBy readLiteral ", " rest.length rest
      let rest ← expect ")" rest
      pure (.within column values, rest)) <|>
    (do
      let rest ← expect " like " rest
      let (pattern, rest) ← readLiteral rest
      pure (.like column pattern, rest))

/-- An optional `WHERE` clause. -/
def readWhere (fuel : Nat) (cs : List Char) : Option (List Condition × List Char) :=
  match expect " WHERE " cs with
  | some rest => sepBy readCondition " AND " fuel rest
  | none => some ([], cs)

/-- An optional `ORDER BY` list, ascending. -/
def readOrderBy (fuel : Nat) (cs : List Char) : Option (List String × List Char) :=
  match expect " ORDER BY " cs with
  | some rest =>
      (sepBy readName "," fuel rest).map fun (columns, after) =>
        (columns, (expect " ASC" after).getD after)
  | none => some ([], cs)

/-- An optional `LIMIT`. -/
def readLimit (cs : List Char) : Option (Option Nat × List Char) :=
  match expect " LIMIT " cs with
  | some rest => (readNat rest).map fun (count, after) => (some count, after)
  | none => some (none, cs)

/-- An optional `FOR UPDATE SKIP LOCKED`. -/
def readLocking (cs : List Char) : Bool × List Char :=
  match expect " FOR UPDATE SKIP LOCKED" cs with
  | some rest => (true, rest)
  | none => (false, cs)

/-- The `SELECT` shape `get_job_rows` writes, as MySQL reads it. -/
def parseSelect (cs : List Char) : Option Select := do
  let rest ← expect "SELECT " cs
  let (columns, rest) ← sepBy readName "," cs.length rest
  let rest ← expect " FROM " rest
  let (table, rest) ← readName rest
  let (conditions, rest) ← readWhere cs.length rest
  let (orderBy, rest) ← readOrderBy cs.length rest
  let (limit, rest) ← readLimit rest
  let (skipLocked, rest) := readLocking rest
  if rest = [';'] then some ⟨columns, table, conditions, orderBy, limit, skipLocked⟩ else none

/-! ## Evaluating it -/

/-- Two texts compare equal under a collation that folds characters. -/
def sameText (fold : Char → Char) (first second : String) : Bool :=
  first.data.map fold == second.data.map fold

/-- `=` on the values the code compares; `NULL` and values of different kinds
compare unknown, which selects no row. -/
def SqlValue.eqUnder (fold : Char → Char) : SqlValue → SqlValue → Bool
  | .int first, .int second => first == second
  | .str first, .str second => sameText fold first second
  | _, _ => false

/-- `<` on the values the code compares. -/
def SqlValue.ltUnder (fold : Char → Char) : SqlValue → SqlValue → Bool
  | .int first, .int second => decide (first < second)
  | .str first, .str second => textLt (first.data.map fold) (second.data.map fold)
  | _, _ => false

/-- MySQL's `LIKE`: `%` matches any run, `_` any one character, and a backslash
makes the next character match itself. -/
def likeMatch (fold : Char → Char) : List Char → List Char → Bool
  | [], text => text.isEmpty
  | '%' :: pattern, text =>
      (List.range (text.length + 1)).any fun skipped => likeMatch fold pattern (text.drop skipped)
  | '_' :: pattern, text =>
      match text with
      | _ :: rest => likeMatch fold pattern rest
      | [] => false
  | '\\' :: c :: pattern, text =>
      match text with
      | t :: rest => fold c == fold t && likeMatch fold pattern rest
      | [] => false
  | c :: pattern, text =>
      match text with
      | t :: rest => fold c == fold t && likeMatch fold pattern rest
      | [] => false

/-- Whether a row satisfies one conjunct. -/
def Condition.holds (fold : Char → Char) (row : JobRow) : Condition → Bool
  | .compare column .eq value => (row.value column).eqUnder fold value
  | .compare column .lt value => (row.value column).ltUnder fold value
  | .within column values => values.any ((row.value column).eqUnder fold)
  | .like column pattern =>
      match row.value column, pattern with
      | .str text, .str pattern => likeMatch fold pattern.data text.data
      | _, _ => false

/-- Ascending lexicographic order on the values of the `ORDER BY` columns. -/
def valuesLE (fold : Char → Char) : List SqlValue → List SqlValue → Bool
  | first :: firsts, second :: seconds =>
      first.ltUnder fold second || first.eqUnder fold second && valuesLE fold firsts seconds
  | _, _ => true

/-- The job table as one `SELECT` sees it. -/
structure Store where
  tablename : String
  /-- The rows, in the order the scan meets them. -/
  rows : List JobRow
  /-- Rows held by another open transaction. -/
  locked : Nat → Bool
  /-- The collation, as a folding of characters. -/
  fold : Char → Char

/-- What `db_rows_to_obj` makes of one row: the selected columns with their values. -/
abbrev Entry := List (String × SqlValue)

/-- The selected columns of a row. -/
def project (columns : List String) (row : JobRow) : Entry :=
  columns.map fun column => (column, row.value column)

/-- The rows a `SELECT` returns, or `none` where MySQL refuses it: another
table, or a column the table does not have. -/
def Store.select (store : Store) (query : Select) : Option (List Entry) :=
  if query.table = store.tablename ∧
      ∀ column ∈ query.columns ++ query.conditions.map Condition.column ++ query.orderBy,
        column ∈ JobRow.columnNames then
    let visible := store.rows.filter fun row =>
      !(query.skipLocked && store.locked row.id) && query.conditions.all (·.holds store.fold row)
    let ordered := visible.insertionSort fun first second =>
      valuesLE store.fold (query.orderBy.map first.value) (query.orderBy.map second.value)
    let limited := match query.limit with
      | some count => ordered.take count
      | none => ordered
    some (limited.map (project query.columns))
  else none

/-- `session.execute` of a `SELECT` text: `text()`, MySQL's reading, the
evaluation; `none` where any of them raises. -/
def Store.execute (word : Char → Bool) (store : Store) (query : String) : Option (List Entry) :=
  ((textClause word query.data).bind parseSelect).bind store.select

/-! ## What the evaluation computes -/

/-- `pattern` matches `text` one character against one, `_` matching any character. -/
def wildEq (fold : Char → Char) : List Char → List Char → Bool
  | p :: pattern, c :: text => (p == '_' || fold p == fold c) && wildEq fold pattern text
  | [], [] => true
  | _, _ => false

/-- Some substring of `text` matches `pattern`, `_` matching any one character. -/
def wildInfix (fold : Char → Char) (pattern text : List Char) : Bool :=
  (List.range (text.length + 1)).any fun start =>
    wildEq fold pattern ((text.drop start).take pattern.length)

/-- A `LIKE` pattern of plain characters and `_` before a final `%` matches the
texts that begin with a match of it. -/
theorem likeMatch_prefix (fold : Char → Char) (pattern : List Char)
    (literal : ∀ c ∈ pattern, c ≠ '%' ∧ c ≠ '\\') (text : List Char) :
    likeMatch fold (pattern ++ ['%']) text = wildEq fold pattern (text.take pattern.length) := by
  induction pattern generalizing text with
  | nil =>
      have ends : (List.range (text.length + 1)).any (fun skipped =>
          likeMatch fold [] (text.drop skipped)) = true :=
        List.any_eq_true.mpr ⟨text.length, by simp, by simp [likeMatch]⟩
      simpa [likeMatch, wildEq] using ends
  | cons p pattern inductionHypothesis =>
      obtain ⟨notPercent, notBackslash⟩ := literal p (List.mem_cons_self _ _)
      have later := inductionHypothesis fun c member => literal c (List.mem_cons_of_mem _ member)
      by_cases wildcard : p = '_'
      · subst wildcard
        cases text with
        | nil => simp [likeMatch, wildEq]
        | cons c text => simp [likeMatch, wildEq, later]
      · have plain : ∀ (c : Char) (more : List Char), p = '\\' → pattern ++ ['%'] = c :: more →
            False := fun _ _ backslash _ => notBackslash backslash
        cases text with
        | nil => simp [likeMatch.eq_8 fold p _ notPercent wildcard plain, wildEq]
        | cons c text =>
            simp [likeMatch.eq_7 fold p _ c text notPercent wildcard plain, wildEq, later,
              beq_false_of_ne wildcard]

/-- `LIKE '%pattern%'`: some substring matches the pattern. -/
theorem likeMatch_contains (fold : Char → Char) (pattern : List Char)
    (literal : ∀ c ∈ pattern, c ≠ '%' ∧ c ≠ '\\') (text : List Char) :
    likeMatch fold ('%' :: (pattern ++ ['%'])) text = wildInfix fold pattern text := by
  simp only [likeMatch, wildInfix, likeMatch_prefix fold pattern literal]

/-- The claim order: ascending by retries, then by config. -/
def ByRetriesConfig (first second : JobRow) : Prop :=
  first.retries < second.retries ∨ first.retries = second.retries ∧ first.config ≤ second.config

instance : DecidableRel ByRetriesConfig :=
  fun _ _ => inferInstanceAs (Decidable (_ ∨ _))

/-- `ORDER BY retries,config` orders rows by `ByRetriesConfig`, whatever the collation. -/
theorem valuesLE_retries_config (fold : Char → Char) (first second : JobRow) :
    valuesLE fold (["retries", "config"].map first.value) (["retries", "config"].map second.value) =
      decide (ByRetriesConfig first second) := by
  have columns : ∀ row : JobRow, ["retries", "config"].map row.value =
      [.int row.retries, .int row.config] := fun _ => rfl
  rw [columns, columns, Bool.eq_iff_iff]
  simp [valuesLE, SqlValue.ltUnder, SqlValue.eqUnder, ByRetriesConfig]
  omega

theorem insertionSort_congr {α : Type} {first second : α → α → Prop} [DecidableRel first]
    [DecidableRel second] (same : ∀ a b, first a b ↔ second a b) (items : List α) :
    items.insertionSort first = items.insertionSort second := by
  obtain rfl : first = second := funext fun a => funext fun b => propext (same a b)
  congr

/-- The rows a `LIMIT` keeps. -/
def cut {α : Type} : Option Nat → List α → List α
  | some count, items => items.take count
  | none, items => items

/-- A claim `SELECT` over the store's table and its columns returns the unlocked
rows meeting every condition, ordered by retries and config and cut by the
`LIMIT`. -/
theorem select_claim (store : Store) (columns : List String) (conditions : List Condition)
    (limit : Option Nat)
    (known : ∀ column ∈ columns ++ conditions.map Condition.column ++ ["retries", "config"],
      column ∈ JobRow.columnNames) :
    store.select ⟨columns, store.tablename, conditions, ["retries", "config"], limit, true⟩ =
      some ((cut limit ((store.rows.filter fun row =>
          !store.locked row.id && conditions.all (·.holds store.fold row)).insertionSort
        ByRetriesConfig)).map (project columns)) := by
  rw [Store.select, if_pos ⟨rfl, known⟩]
  simp only [Bool.true_and]
  rw [@insertionSort_congr _ _ ByRetriesConfig _ _ fun first second => by
    rw [valuesLE_retries_config, decide_eq_true_iff]]
  cases limit <;> rfl

/-! ## Round trips -/

theorem readsBack_int (value : Int) : ReadsBack readLiteral (.int value) (toString value) := by
  obtain ⟨first, later, written, -⟩ := toString_int_head value
  exact ⟨by simp [written], fun rest delimited => readLiteral_int value rest delimited⟩

theorem readsBack_quoted {text : String} (quotable : Quotable text.data) :
    ReadsBack readLiteral (.str text) ("'" ++ text ++ "'") :=
  ⟨by simp, fun rest delimited => readLiteral_quoted text rest quotable delimited⟩

/-- `column=literal` and `column<literal`. -/
theorem readCondition_compare {column : String} (comparison : Comparison) {value : SqlValue}
    {text : String} (identifier : IsIdentifier column) (literal : ReadsBack readLiteral value text) :
    ReadsBack readCondition (.compare column comparison value)
      (column ++ comparison.symbol ++ text) := by
  refine ⟨by simp [identifier.nonempty], fun rest delimited => ?_⟩
  have read := literal.2 rest delimited
  cases comparison with
  | eq =>
      simp [readCondition, Comparison.symbol,
        readName_identifier column _ identifier (@delimited_cons '=' _ (by decide)), expect,
        expectChars, read]
  | lt =>
      simp [readCondition, Comparison.symbol,
        readName_identifier column _ identifier (@delimited_cons '<' _ (by decide)), expect,
        expectChars, read]

/-- `column in (literal, ...)`. -/
theorem readCondition_within {column : String} {values : List SqlValue} {texts : List String}
    (identifier : IsIdentifier column) (literals : List.Forall₂ (ReadsBack readLiteral) values texts)
    (nonempty : texts ≠ []) :
    ReadsBack readCondition (.within column values)
      (column ++ " in (" ++ ", ".intercalate texts ++ ")") := by
  refine ⟨by simp [identifier.nonempty], fun rest delimited => ?_⟩
  have short := length_le_intercalate ", " literals
  have short' : texts.length ≤ (", ".intercalate texts).length := short
  have listed : ∀ fuel, texts.length ≤ fuel →
      sepBy readLiteral ", " fuel ((", ".intercalate texts).data ++ ')' :: rest) =
        some (values, ')' :: rest) := fun fuel enough =>
    sepBy_written (by decide) (by decide) literals nonempty (')' :: rest)
      (delimited_cons _ (by decide)) (by simp [expect, expectChars]) fuel enough
  simp (disch := omega) [readCondition,
    readName_identifier column _ identifier (@delimited_cons ' ' _ (by decide)), expect,
    expectChars, listed]

/-- `column like literal`. -/
theorem readCondition_like {column : String} {pattern : SqlValue} {text : String}
    (identifier : IsIdentifier column) (literal : ReadsBack readLiteral pattern text) :
    ReadsBack readCondition (.like column pattern) (column ++ " like " ++ text) := by
  refine ⟨by simp [identifier.nonempty], fun rest delimited => ?_⟩
  simp [readCondition, readName_identifier column _ identifier (@delimited_cons ' ' _ (by decide)),
    expect, expectChars, literal.2 rest delimited]

/-- The `LIMIT` text `compose_work_objs` writes for a count, and none without one. -/
def limitText : Option Nat → List Char
  | some count => (" LIMIT " ++ toString count).data
  | none => []

theorem readLimit_written (limit : Option Nat) (rest : List Char) (delimited : Delimited rest)
    (noLimit : expect " LIMIT " rest = none) :
    readLimit (limitText limit ++ rest) = some (limit, rest) := by
  cases limit with
  | none => simp [limitText, readLimit, noLimit]
  | some count =>
      have stop : ∀ c ∈ rest.head?, c.isDigit = false := fun c first =>
        Bool.eq_false_iff.mpr fun digit =>
          absurd (isIdentChar_of_isDigit digit) (by simp [(delimited c first).1])
      rw [limitText, String.data_append, List.append_assoc, readLimit, expect_append]
      dsimp only
      rw [show (toString count).data = (Nat.repr count).data from rfl, readNat_repr count rest stop]
      rfl

/-- Identifiers read back as names. -/
theorem readsBack_identifiers {names : List String}
    (identifiers : ∀ name ∈ names, IsIdentifier name) :
    List.Forall₂ (ReadsBack readName) names names :=
  List.forall₂_same.mpr fun name member =>
    ⟨(identifiers name member).nonempty, fun rest delimited =>
      readName_identifier name rest (identifiers name member) delimited⟩

/-- MySQL reads the `SELECT` `get_job_rows` writes for a claim. -/
theorem parseSelect_written {columns : List String} (table : String) {conditions : List Condition}
    {conds : List String} (limit : Option Nat) (tableName : IsIdentifier table)
    (identifiers : ∀ column ∈ columns, IsIdentifier column) (nonempty : columns ≠ [])
    (conditionsRead : List.Forall₂ (ReadsBack readCondition) conditions conds)
    (condsNonempty : conds ≠ []) :
    parseSelect ("SELECT ".data ++ (",".intercalate columns).data ++ " FROM ".data ++ table.data ++
        " WHERE ".data ++ (" AND ".intercalate conds).data ++
        " ORDER BY retries,config ASC".data ++ limitText limit ++
        " FOR UPDATE SKIP LOCKED".data ++ [';']) =
      some ⟨columns, table, conditions, ["retries", "config"], limit, true⟩ := by
  have columnsRead := readsBack_identifiers identifiers
  have orderRead : List.Forall₂ (ReadsBack readName) ["retries", "config"] ["retries", "config"] :=
    readsBack_identifiers (by decide)
  have columnsShort := length_le_intercalate "," columnsRead
  have conditionsShort := length_le_intercalate " AND " conditionsRead
  have lockingTail : readLocking (" FOR UPDATE SKIP LOCKED".data ++ [';']) = (true, [';']) := by
    rw [readLocking, expect_append]
  generalize fuelIs : ("SELECT ".data ++ (",".intercalate columns).data ++ " FROM ".data ++
      table.data ++ " WHERE ".data ++ (" AND ".intercalate conds).data ++
      " ORDER BY retries,config ASC".data ++ limitText limit ++ " FOR UPDATE SKIP LOCKED".data ++
      [';']).length = fuel
  have columnsEnough : columns.length ≤ fuel := by
    rw [← fuelIs]; simp only [List.length_append]; omega
  have conditionsEnough : conds.length ≤ fuel := by
    rw [← fuelIs]; simp only [List.length_append]; omega
  have orderEnough : 2 ≤ fuel := by
    rw [← fuelIs]; simp only [List.length_append]; simp
  have limitRead := readLimit_written limit (" FOR UPDATE SKIP LOCKED".data ++ [';'])
    (by decide) (by decide)
  have orderParsed : readOrderBy fuel (" ORDER BY retries,config ASC".data ++
      (limitText limit ++ (" FOR UPDATE SKIP LOCKED".data ++ [';']))) =
      some (["retries", "config"], limitText limit ++ (" FOR UPDATE SKIP LOCKED".data ++ [';'])) := by
    have listed := @sepBy_written _ readName "," (by decide) (by decide) _ _ orderRead (by simp)
      (" ASC".data ++ (limitText limit ++ (" FOR UPDATE SKIP LOCKED".data ++ [';'])))
      (delimited_append _ (by decide) (by decide)) (by simp [expect, expectChars]) fuel orderEnough
    rw [show " ORDER BY retries,config ASC".data = " ORDER BY ".data ++ (",".intercalate
      ["retries", "config"]).data ++ " ASC".data from rfl, List.append_assoc, List.append_assoc,
      readOrderBy, expect_append]
    show Option.map _ (sepBy readName "," fuel _) = _
    rw [listed, Option.map_some']
    show some (_, (expect " ASC" (" ASC".data ++ _)).getD _) = _
    rw [expect_append]
    rfl
  have whereParsed := @sepBy_written _ readCondition " AND " (by decide) (by decide) _ _
    conditionsRead condsNonempty (" ORDER BY retries,config ASC".data ++
      (limitText limit ++ (" FOR UPDATE SKIP LOCKED".data ++ [';'])))
    (delimited_append _ (by decide) (by decide)) (by simp [expect, expectChars]) fuel conditionsEnough
  have whereRead : readWhere fuel (" WHERE ".data ++ ((" AND ".intercalate conds).data ++
      (" ORDER BY retries,config ASC".data ++
        (limitText limit ++ (" FOR UPDATE SKIP LOCKED".data ++ [';']))))) =
      some (conditions, " ORDER BY retries,config ASC".data ++
        (limitText limit ++ (" FOR UPDATE SKIP LOCKED".data ++ [';']))) := by
    rw [readWhere, expect_append]
    exact whereParsed
  have tableRead := readName_identifier table _ tableName
    (delimited_append ((" AND ".intercalate conds).data ++ (" ORDER BY retries,config ASC".data ++
      (limitText limit ++ (" FOR UPDATE SKIP LOCKED".data ++ [';']))))
      (by decide : Delimited " WHERE ".data) (by decide))
  have columnsParsed := @sepBy_written _ readName "," (by decide) (by decide) _ _
    columnsRead nonempty (" FROM ".data ++ (table.data ++ (" WHERE ".data ++
      ((" AND ".intercalate conds).data ++ (" ORDER BY retries,config ASC".data ++
        (limitText limit ++ (" FOR UPDATE SKIP LOCKED".data ++ [';'])))))))
    (delimited_append _ (by decide) (by decide)) (by simp [expect, expectChars]) fuel columnsEnough
  rw [parseSelect, fuelIs]
  repeat rw [List.append_assoc]
  refine Option.bind_eq_some.mpr ⟨_, expect_append _ _, ?_⟩
  refine Option.bind_eq_some.mpr ⟨_, columnsParsed, ?_⟩
  refine Option.bind_eq_some.mpr ⟨_, expect_append _ _, ?_⟩
  refine Option.bind_eq_some.mpr ⟨_, tableRead, ?_⟩
  refine Option.bind_eq_some.mpr ⟨_, whereRead, ?_⟩
  refine Option.bind_eq_some.mpr ⟨_, orderParsed, ?_⟩
  refine Option.bind_eq_some.mpr ⟨_, limitRead, ?_⟩
  simp only [lockingTail]
  rfl

end Sql

end MITuna
