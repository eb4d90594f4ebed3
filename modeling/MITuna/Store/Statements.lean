import Mathlib.Data.List.Forall2
import MITuna.Store.SqlText

namespace MITuna.Sql

/-!
# The `UPDATE` and `INSERT` statements of `db_utility`

`gen_update_query` and `gen_insert_query` write an object's attributes into
SQL text through `get_attr_vals`, which quotes strings without escaping
them.  This module models the three functions, MySQL's reading of the two
statement shapes, and what the store receives: a value's literal is read back
as that value exactly when its text has no quote or backslash and `text()`
finds no bind parameter in it.
-/

/-- An attribute value as `get_attr_vals` sees it; `bytes` by the text they decode to. -/
inductive PyValue
  | none
  | int (value : Int)
  | str (text : String)
  | bytes (decoded : String)
  deriving Repr, DecidableEq

namespace PyValue

/-- The loop body of `get_attr_vals`: the SQL text written for one value. -/
def attrVal : PyValue → String
  | .none => "NULL"
  | .int value => toString value
  | .str text => "'" ++ text ++ "'"
  | .bytes decoded => "'" ++ decoded ++ "'"

/-- Python's `str` of a value, as an f-string writes it; `bytes` as their `repr`
writes printable ASCII without quotes or backslashes. -/
def format : PyValue → String
  | .none => "None"
  | .int value => toString value
  | .str text => text
  | .bytes decoded => "b'" ++ decoded ++ "'"

/-- The value the store should hold for an attribute value. -/
def toSql : PyValue → SqlValue
  | .none => .null
  | .int value => .int value
  | .str text => .str text
  | .bytes decoded => .str decoded

/-- A value whose literal the store reads back: no quote, backslash or colon in its text. -/
def Plain : PyValue → Prop
  | .str text => PlainText text
  | .bytes decoded => PlainText decoded
  | _ => True

instance : DecidablePred Plain
  | .none => isTrue trivial
  | .int _ => isTrue trivial
  | .str text => inferInstanceAs (Decidable (PlainText text))
  | .bytes decoded => inferInstanceAs (Decidable (PlainText decoded))

end PyValue

/-- `get_attr_vals`: the literal text of each listed attribute of `obj`. -/
def getAttrVals (obj : String → PyValue) (attrList : List String) : List (String × String) :=
  attrList.map fun attr => (attr, (obj attr).attrVal)

/--
`gen_update_query`: one `attr=value` per listed attribute, and the `WHERE`
clause of the given `(column, value)` texts or, when there are none,
`id=` the object's id.
-/
def genUpdateQuery (obj : String → PyValue) (attribs : List String) (tablename : String)
    (whereClauseTuplesLst : Option (List (String × String))) : String :=
  let attrVals := getAttrVals obj attribs
  let setArr := attribs.map fun attr => attr ++ "=" ++ (attrVals.lookup attr).getD ""
  let setStr := ",".intercalate setArr
  match whereClauseTuplesLst with
  | some (tuple :: tuples) =>
      let whereClause :=
        " AND ".intercalate ((tuple :: tuples).map fun (x, y) => x ++ "=" ++ y)
      "UPDATE " ++ tablename ++ " SET " ++ setStr ++ " WHERE " ++ whereClause ++ ";"
  | _ => "UPDATE " ++ tablename ++ " SET " ++ setStr ++ " WHERE id=" ++ (obj "id").format ++ ";"

/--
`gen_insert_query`: every listed attribute but the first `id`, inserted by a
`SELECT` of their literals; `none` where `attr_list.remove('id')` raises
`ValueError`.
-/
def genInsertQuery (obj : String → PyValue) (attribs : List String) (tablename : String) :
    Option String :=
  if "id" ∈ attribs then
    let attrList := attribs.erase "id"
    let attrStr := ",".intercalate attrList
    let attrVals := getAttrVals obj attrList
    let valList := attrList.map fun attr => (attrVals.lookup attr).getD ""
    let valStr := ",".intercalate valList
    some ("INSERT INTO " ++ tablename ++ "(" ++ attrStr ++ ") SELECT " ++ valStr ++ ";")
  else none

/-- Every listed attribute is a key of `get_attr_vals`: no `KeyError`. -/
theorem lookup_getAttrVals (obj : String → PyValue) {attrList : List String} {attr : String}
    (member : attr ∈ attrList) :
    (getAttrVals obj attrList).lookup attr = some (obj attr).attrVal := by
  induction attrList with
  | nil => cases member
  | cons first rest inductionHypothesis =>
      by_cases same : attr = first
      · subst same
        simp [getAttrVals]
      · have later : attr ∈ rest := (List.mem_cons.mp member).resolve_left same
        simpa [getAttrVals, List.lookup_cons, beq_false_of_ne same] using inductionHypothesis later

/-! ## MySQL's reading of the two statements -/

/-- Items separated by `sep`, as many as follow; `fuel` bounds their number. -/
def sepBy {α : Type} (item : List Char → Option (α × List Char)) (sep : String) :
    Nat → List Char → Option (List α × List Char)
  | 0, _ => none
  | fuel + 1, cs =>
      (item cs).bind fun (x, rest) =>
        match expect sep rest with
        | some more => (sepBy item sep fuel more).map fun (xs, after) => (x :: xs, after)
        | none => some ([x], rest)

/-- `column=literal`. -/
def readAssignment (cs : List Char) : Option ((String × SqlValue) × List Char) := do
  let (name, rest) ← readName cs
  let rest ← expect "=" rest
  let (value, rest) ← readLiteral rest
  pure ((name, value), rest)

/-- An `UPDATE` as MySQL reads it: its table, its assignments in order, and
the equalities its `WHERE` clause conjoins. -/
structure Update where
  table : String
  assignments : List (String × SqlValue)
  conditions : List (String × SqlValue)
  deriving Repr, DecidableEq

/-- The `UPDATE` shape `gen_update_query` writes, as MySQL reads it. -/
def parseUpdate (cs : List Char) : Option Update := do
  let rest ← expect "UPDATE " cs
  let (table, rest) ← readName rest
  let rest ← expect " SET " rest
  let (assignments, rest) ← sepBy readAssignment "," cs.length rest
  let rest ← expect " WHERE " rest
  let (conditions, rest) ← sepBy readAssignment " AND " cs.length rest
  if rest = [';'] then some ⟨table, assignments, conditions⟩ else none

/-- An `INSERT ... SELECT` of literals as MySQL reads it. -/
structure Insert where
  table : String
  columns : List String
  values : List SqlValue
  deriving Repr, DecidableEq

/-- The `INSERT` shape `gen_insert_query` writes, as MySQL reads it; MySQL
refuses a column named twice and a value count other than the column count. -/
def parseInsert (cs : List Char) : Option Insert := do
  let rest ← expect "INSERT INTO " cs
  let (table, rest) ← readName rest
  let rest ← expect "(" rest
  let (columns, rest) ← sepBy readName "," cs.length rest
  let rest ← expect ") SELECT " rest
  let (values, rest) ← sepBy readLiteral "," cs.length rest
  if rest = [';'] ∧ columns.Nodup ∧ columns.length = values.length then
    some ⟨table, columns, values⟩
  else none

/-! ## Round trips -/

theorem intercalate_go_append (acc text sep : String) (strs : List String) :
    String.intercalate.go (acc ++ text) sep strs = acc ++ String.intercalate.go text sep strs := by
  induction strs generalizing text with
  | nil => rfl
  | cons first rest inductionHypothesis =>
      simp only [String.intercalate.go, String.append_assoc, inductionHypothesis]

@[simp] theorem intercalate_singleton (sep text : String) : sep.intercalate [text] = text :=
  rfl

@[simp] theorem intercalate_cons_cons (sep first second : String) (rest : List String) :
    sep.intercalate (first :: second :: rest) =
      first ++ sep ++ sep.intercalate (second :: rest) := by
  simp only [String.intercalate, String.intercalate.go]
  rw [← intercalate_go_append, String.append_assoc]

/-- The characters of a join are the join of the characters. -/
theorem intercalate_data (sep : String) :
    ∀ strs : List String, (sep.intercalate strs).data = sep.data.intercalate (strs.map String.data)
  | [] => rfl
  | [_] => by simp [List.intercalate]
  | first :: second :: rest => by
      rw [intercalate_cons_cons, String.data_append, String.data_append,
        intercalate_data sep (second :: rest)]
      simp [List.intercalate, List.intersperse_cons_cons]

theorem delimited_append {cs : List Char} (rest : List Char) (delimited : Delimited cs)
    (nonempty : cs ≠ []) : Delimited (cs ++ rest) := by
  obtain ⟨c, more, rfl⟩ := List.exists_cons_of_ne_nil nonempty
  exact delimited

/-- `item` reads `x` back from the non-empty text `text`, whatever delimited text follows. -/
def ReadsBack {α : Type} (item : List Char → Option (α × List Char)) (x : α) (text : String) :
    Prop :=
  text.data ≠ [] ∧ ∀ rest, Delimited rest → item (text.data ++ rest) = some (x, rest)

/-- `sepBy` reads back items written between separators, one item from each piece. -/
theorem sepBy_written {α : Type} {item : List Char → Option (α × List Char)} {sep : String}
    (sepDelimited : Delimited sep.data) (sepNonempty : sep.data ≠ [])
    {xs : List α} {strs : List String} (readsBack : List.Forall₂ (ReadsBack item) xs strs)
    (nonempty : strs ≠ []) (rest : List Char) (delimited : Delimited rest)
    (stops : expect sep rest = none) (fuel : Nat) (enough : strs.length ≤ fuel) :
    sepBy item sep fuel ((sep.intercalate strs).data ++ rest) = some (xs, rest) := by
  induction readsBack generalizing fuel with
  | nil => exact absurd rfl nonempty
  | @cons x text xs strs first later inductionHypothesis =>
      obtain ⟨fuel, rfl⟩ : ∃ smaller, fuel = smaller + 1 :=
        ⟨fuel - 1, by simp at enough; omega⟩
      cases later with
      | nil => simp [sepBy, first.2 rest delimited, stops]
      | @cons y second ys strs' head tail =>
          have more := first.2 (sep.data ++ ((sep.intercalate (second :: strs')).data ++ rest))
            (delimited_append _ sepDelimited sepNonempty)
          simp only [intercalate_cons_cons, String.data_append, List.append_assoc] at more ⊢
          simp only [sepBy, more, Option.some_bind, expect_append]
          rw [inductionHypothesis (by simp) fuel (by simp at enough ⊢; omega)]
          rfl

theorem mem_intercalate {c : Char} {sep : String} {strs : List String}
    (member : c ∈ (sep.intercalate strs).data) : c ∈ sep.data ∨ ∃ text ∈ strs, c ∈ text.data := by
  induction strs with
  | nil => cases member
  | cons first rest inductionHypothesis =>
      cases rest with
      | nil => exact .inr ⟨first, List.mem_singleton_self _, by simpa using member⟩
      | cons second rest =>
          simp only [intercalate_cons_cons, String.data_append, List.mem_append] at member
          rcases member with (inFirst | inSep) | inRest
          · exact .inr ⟨first, List.mem_cons_self _ _, inFirst⟩
          · exact .inl inSep
          · rcases inductionHypothesis inRest with inSep | ⟨text, later, inText⟩
            exacts [.inl inSep, .inr ⟨text, List.mem_cons_of_mem _ later, inText⟩]

/-- Non-empty pieces: at least as many characters as pieces. -/
theorem length_le_intercalate {α : Type} {item : List Char → Option (α × List Char)}
    (sep : String) {xs : List α} {strs : List String}
    (readsBack : List.Forall₂ (ReadsBack item) xs strs) :
    strs.length ≤ (sep.intercalate strs).data.length := by
  induction readsBack with
  | nil => simp
  | @cons x text xs strs first later inductionHypothesis =>
      have firstLong : 0 < text.data.length := List.length_pos.mpr first.1
      cases strs with
      | nil => simpa using firstLong
      | cons second rest =>
          simp only [intercalate_cons_cons, String.data_append, List.length_append,
            List.length_cons] at inductionHypothesis ⊢
          omega

namespace PyValue

/-- MySQL reads back the literal `get_attr_vals` writes for a plain value. -/
theorem readLiteral_attrVal (value : PyValue) (plain : value.Plain) (rest : List Char)
    (delimited : Delimited rest) :
    readLiteral (value.attrVal.data ++ rest) = some (value.toSql, rest) := by
  cases value with
  | none => exact readLiteral_null rest delimited
  | int value => exact readLiteral_int value rest delimited
  | str text => exact readLiteral_quoted text rest plain.1 delimited
  | bytes decoded => exact readLiteral_quoted decoded rest plain.1 delimited

/-- The literal of a plain value holds no colon and no backslash. -/
theorem attrVal_harmless (value : PyValue) (plain : value.Plain) :
    Harmless value.attrVal.data := by
  have quoted : ∀ text : String, PlainText text → Harmless ("'" ++ text ++ "'").data := by
    intro text ⟨quotable, colonFree⟩ c member
    simp only [String.data_append, List.mem_append] at member
    rcases member with (quote | inText) | quote
    · simp_all
    · exact ⟨fun colon => colonFree (colon ▸ inText), (quotable c inText).2⟩
    · simp_all
  cases value with
  | none => decide
  | int value => exact harmless_toString value
  | str text => exact quoted text plain
  | bytes decoded => exact quoted decoded plain

theorem attrVal_nonempty (value : PyValue) : value.attrVal.data ≠ [] := by
  cases value with
  | none => decide
  | int value =>
      obtain ⟨first, later, written, -⟩ := toString_int_head value
      simp [attrVal, written]
  | str text => simp [attrVal]
  | bytes decoded => simp [attrVal]

end PyValue

/-- MySQL reads back one `attr=value` of `gen_update_query`. -/
theorem readAssignment_written (attr : String) (value : PyValue) (identifier : IsIdentifier attr)
    (plain : value.Plain) :
    ReadsBack readAssignment (attr, value.toSql) (attr ++ "=" ++ value.attrVal) := by
  refine ⟨by simp, fun rest delimited => ?_⟩
  simp [readAssignment, readName_identifier attr _ identifier (@delimited_cons '=' _ (by decide)),
    expect, expectChars, value.readLiteral_attrVal plain rest delimited]

/-- MySQL reads an `UPDATE` of the shape `gen_update_query` writes. -/
theorem parseUpdate_written (table : String) {assignments conditions : List (String × SqlValue)}
    {setArr whereArr : List String} (tableName : IsIdentifier table)
    (setRead : List.Forall₂ (ReadsBack readAssignment) assignments setArr) (setNonempty : setArr ≠ [])
    (whereRead : List.Forall₂ (ReadsBack readAssignment) conditions whereArr)
    (whereNonempty : whereArr ≠ []) :
    parseUpdate ("UPDATE ".data ++ table.data ++ " SET ".data ++ (",".intercalate setArr).data ++
        " WHERE ".data ++ (" AND ".intercalate whereArr).data ++ [';']) =
      some ⟨table, assignments, conditions⟩ := by
  have setShort := length_le_intercalate "," setRead
  have whereShort := length_le_intercalate " AND " whereRead
  generalize fuelIs : ("UPDATE ".data ++ table.data ++ " SET ".data ++ (",".intercalate setArr).data ++
        " WHERE ".data ++ (" AND ".intercalate whereArr).data ++ [';']).length = fuel
  have setEnough : setArr.length ≤ fuel := by
    rw [← fuelIs]; simp only [List.length_append]; omega
  have whereEnough : whereArr.length ≤ fuel := by
    rw [← fuelIs]; simp only [List.length_append]; omega
  have whereParsed := @sepBy_written _ readAssignment " AND " (by decide) (by decide) _ _
    whereRead whereNonempty [';'] (by decide) (by decide) fuel whereEnough
  have setParsed := @sepBy_written _ readAssignment "," (by decide) (by decide) _ _
    setRead setNonempty (" WHERE ".data ++ ((" AND ".intercalate whereArr).data ++ [';']))
    (delimited_append _ (by decide : Delimited " WHERE ".data) (by decide))
    (by simp [expect, expectChars]) fuel setEnough
  have tableRead := readName_identifier table _ tableName
    (delimited_append ((",".intercalate setArr).data ++
      (" WHERE ".data ++ ((" AND ".intercalate whereArr).data ++ [';'])))
      (by decide : Delimited " SET ".data) (by decide))
  rw [parseUpdate, fuelIs]
  repeat rw [List.append_assoc]
  refine Option.bind_eq_some.mpr ⟨_, expect_append _ _, ?_⟩
  refine Option.bind_eq_some.mpr ⟨_, tableRead, ?_⟩
  refine Option.bind_eq_some.mpr ⟨_, expect_append _ _, ?_⟩
  refine Option.bind_eq_some.mpr ⟨_, setParsed, ?_⟩
  refine Option.bind_eq_some.mpr ⟨_, expect_append _ _, ?_⟩
  exact Option.bind_eq_some.mpr ⟨_, whereParsed, rfl⟩

/-- MySQL reads an `INSERT` of the shape `gen_insert_query` writes. -/
theorem parseInsert_written (table : String) {columns : List String} {values : List SqlValue}
    {valList : List String} (tableName : IsIdentifier table)
    (identifiers : ∀ column ∈ columns, IsIdentifier column) (distinct : columns.Nodup)
    (nonempty : columns ≠ [])
    (valuesRead : List.Forall₂ (ReadsBack readLiteral) values valList)
    (sameCount : columns.length = values.length) :
    parseInsert ("INSERT INTO ".data ++ table.data ++ "(".data ++ (",".intercalate columns).data ++
        ") SELECT ".data ++ (",".intercalate valList).data ++ [';']) =
      some ⟨table, columns, values⟩ := by
  have columnsRead : List.Forall₂ (ReadsBack readName) columns columns :=
    List.forall₂_same.mpr fun column member =>
      ⟨(identifiers column member).nonempty, fun rest delimited =>
        readName_identifier column rest (identifiers column member) delimited⟩
  have columnsShort := length_le_intercalate "," columnsRead
  have valuesShort := length_le_intercalate "," valuesRead
  have valuesNonempty : valList ≠ [] := by
    rintro rfl
    cases valuesRead
    exact nonempty (List.length_eq_zero.mp sameCount)
  generalize fuelIs : ("INSERT INTO ".data ++ table.data ++ "(".data ++
      (",".intercalate columns).data ++ ") SELECT ".data ++ (",".intercalate valList).data ++
      [';']).length = fuel
  have columnsEnough : columns.length ≤ fuel := by
    rw [← fuelIs]; simp only [List.length_append]; omega
  have valuesEnough : valList.length ≤ fuel := by
    rw [← fuelIs]; simp only [List.length_append]; omega
  have valuesParsed := @sepBy_written _ readLiteral "," (by decide) (by decide) _ _
    valuesRead valuesNonempty [';'] (by decide) (by decide) fuel valuesEnough
  have columnsParsed := @sepBy_written _ readName "," (by decide) (by decide) _ _
    columnsRead nonempty (") SELECT ".data ++ ((",".intercalate valList).data ++ [';']))
    (delimited_append _ (by decide : Delimited ") SELECT ".data) (by decide))
    (by simp [expect, expectChars]) fuel columnsEnough
  have tableRead := readName_identifier table _ tableName
    (delimited_append ((",".intercalate columns).data ++
      (") SELECT ".data ++ ((",".intercalate valList).data ++ [';'])))
      (by decide : Delimited "(".data) (by decide))
  rw [parseInsert, fuelIs]
  repeat rw [List.append_assoc]
  refine Option.bind_eq_some.mpr ⟨_, expect_append _ _, ?_⟩
  refine Option.bind_eq_some.mpr ⟨_, tableRead, ?_⟩
  refine Option.bind_eq_some.mpr ⟨_, expect_append _ _, ?_⟩
  refine Option.bind_eq_some.mpr ⟨_, columnsParsed, ?_⟩
  refine Option.bind_eq_some.mpr ⟨_, expect_append _ _, ?_⟩
  refine Option.bind_eq_some.mpr ⟨_, valuesParsed, ?_⟩
  exact if_pos ⟨rfl, distinct, sameCount⟩

/-! ## What the store receives -/

/-- The `SET` pieces of `gen_update_query`, with the lookups resolved. -/
theorem setArr_resolved (obj : String → PyValue) (attribs : List String) :
    attribs.map (fun attr => attr ++ "=" ++ ((getAttrVals obj attribs).lookup attr).getD "") =
      attribs.map fun attr => attr ++ "=" ++ (obj attr).attrVal :=
  List.map_congr_left fun _ member => by rw [lookup_getAttrVals obj member]; rfl

/-- The values `gen_insert_query` selects, with the lookups resolved. -/
theorem valList_resolved (obj : String → PyValue) (attrList : List String) :
    attrList.map (fun attr => ((getAttrVals obj attrList).lookup attr).getD "") =
      attrList.map fun attr => (obj attr).attrVal :=
  List.map_congr_left fun _ member => by rw [lookup_getAttrVals obj member]; rfl

section Written

variable (obj : String → PyValue) (tablename : String) (tableName : IsIdentifier tablename)

/-- The text of `gen_update_query` without `WHERE` tuples, piece by piece. -/
theorem genUpdateQuery_data (attribs : List String) (id : Int) (idValue : obj "id" = .int id) :
    (genUpdateQuery obj attribs tablename none).data =
      "UPDATE ".data ++ tablename.data ++ " SET ".data ++
        (",".intercalate (attribs.map fun attr => attr ++ "=" ++ (obj attr).attrVal)).data ++
        " WHERE ".data ++ (" AND ".intercalate ["id" ++ "=" ++ (PyValue.int id).attrVal]).data ++
        [';'] := by
  simp [genUpdateQuery, setArr_resolved, idValue, PyValue.format, PyValue.attrVal]

/-- The text of `gen_insert_query`, piece by piece. -/
theorem genInsertQuery_data (attribs : List String) (hasId : "id" ∈ attribs) :
    (genInsertQuery obj attribs tablename).map String.data =
      some ("INSERT INTO ".data ++ tablename.data ++ "(".data ++
        (",".intercalate (attribs.erase "id")).data ++ ") SELECT ".data ++
        (",".intercalate ((attribs.erase "id").map fun attr => (obj attr).attrVal)).data ++
        [';']) := by
  simp [genInsertQuery, hasId, valList_resolved]

theorem harmless_intercalate {sep : String} {strs : List String} (sepHarmless : Harmless sep.data)
    (each : ∀ text ∈ strs, Harmless text.data) : Harmless (sep.intercalate strs).data :=
  fun c member => (mem_intercalate member).elim (sepHarmless c) fun ⟨text, inStrs, inText⟩ =>
    each text inStrs c inText

theorem harmless_assignment {attr : String} {value : PyValue} (identifier : IsIdentifier attr)
    (plain : value.Plain) : Harmless (attr ++ "=" ++ value.attrVal).data := by
  simp only [String.data_append, harmless_append_iff]
  exact ⟨⟨identifier.harmless, by decide⟩, value.attrVal_harmless plain⟩

end Written

/--
With identifiers for names and values whose text has no quote, backslash or
colon, the store reads back every value `gen_update_query` (given the
object's integer id) and `gen_insert_query` write: the `UPDATE` sets each
listed attribute to the object's value where `id` is the object's id, and the
`INSERT` puts the object's value in each listed column but `id`.
-/
theorem genQueries_store_values (word : Char → Bool) (obj : String → PyValue)
    (attribs : List String) (tablename : String) (tableName : IsIdentifier tablename)
    (names : ∀ attr ∈ attribs, IsIdentifier attr) (plain : ∀ attr ∈ attribs, (obj attr).Plain) :
    (∀ id, obj "id" = .int id → attribs ≠ [] →
      (textClause word (genUpdateQuery obj attribs tablename none).data).bind parseUpdate =
        some ⟨tablename, attribs.map fun attr => (attr, (obj attr).toSql), [("id", .int id)]⟩) ∧
    ("id" ∈ attribs → attribs.erase "id" ≠ [] → (attribs.erase "id").Nodup →
      ((genInsertQuery obj attribs tablename).bind fun query =>
          (textClause word query.data).bind parseInsert) =
        some ⟨tablename, attribs.erase "id",
          (attribs.erase "id").map fun attr => (obj attr).toSql⟩) := by
  constructor
  · intro id idValue nonempty
    have setRead : List.Forall₂ (ReadsBack readAssignment)
        (attribs.map fun attr => (attr, (obj attr).toSql))
        (attribs.map fun attr => attr ++ "=" ++ (obj attr).attrVal) := by
      simp only [List.forall₂_map_left_iff, List.forall₂_map_right_iff, List.forall₂_same]
      exact fun attr member => readAssignment_written attr _ (names attr member) (plain attr member)
    have harmless : Harmless (genUpdateQuery obj attribs tablename none).data := by
      rw [genUpdateQuery_data obj tablename attribs id idValue]
      simp only [harmless_append_iff]
      refine ⟨⟨⟨⟨⟨⟨by decide, tableName.harmless⟩, by decide⟩, harmless_intercalate (by decide) ?_⟩,
        by decide⟩, harmless_intercalate (by decide) ?_⟩, by decide⟩
      · simp only [List.mem_map]
        rintro _ ⟨attr, member, rfl⟩
        exact harmless_assignment (names attr member) (plain attr member)
      · simp only [List.mem_singleton, forall_eq]
        exact harmless_assignment (by decide) (trivial : (PyValue.int id).Plain)
    rw [textClause_harmless word _ harmless, Option.some_bind,
      genUpdateQuery_data obj tablename attribs id idValue]
    exact parseUpdate_written tablename tableName setRead (by simpa using nonempty)
      (.cons (readAssignment_written "id" (.int id) (by decide) trivial) .nil) (by simp)
  · intro hasId nonempty distinct
    have listed : ∀ attr ∈ attribs.erase "id", attr ∈ attribs := fun _ member =>
      List.mem_of_mem_erase member
    have valuesRead : List.Forall₂ (ReadsBack readLiteral)
        ((attribs.erase "id").map fun attr => (obj attr).toSql)
        ((attribs.erase "id").map fun attr => (obj attr).attrVal) := by
      simp only [List.forall₂_map_left_iff, List.forall₂_map_right_iff, List.forall₂_same]
      exact fun attr member => ⟨(obj attr).attrVal_nonempty, fun rest delimited =>
        (obj attr).readLiteral_attrVal (plain attr (listed attr member)) rest delimited⟩
    obtain ⟨query, built, written⟩ :=
      Option.map_eq_some'.mp (genInsertQuery_data obj tablename attribs hasId)
    have harmless : Harmless query.data := by
      rw [written]
      simp only [harmless_append_iff]
      refine ⟨⟨⟨⟨⟨⟨by decide, tableName.harmless⟩, by decide⟩, harmless_intercalate (by decide) ?_⟩,
        by decide⟩, harmless_intercalate (by decide) ?_⟩, by decide⟩
      · exact fun attr member => (names attr (listed attr member)).harmless
      · simp only [List.mem_map]
        rintro _ ⟨attr, member, rfl⟩
        exact (obj attr).attrVal_harmless (plain attr (listed attr member))
    rw [built, Option.some_bind, textClause_harmless word _ harmless, Option.some_bind, written]
    exact parseInsert_written tablename tableName (fun attr member => names attr (listed attr member))
      distinct nonempty valuesRead (by simp)

/-- A job row as the object `set_job_state` writes. -/
def tuningJob : String → PyValue
  | "id" => .int 42
  | "state" => .str "compiled"
  | "reason" => .str "tuning"
  | "retries" => .int 1
  | "result" => .none
  | _ => .none

theorem genQueries_store_values_on_job :
    (textClause asciiWord
        (genUpdateQuery tuningJob ["state", "retries", "result"] "conv_job" none).data).bind
        parseUpdate =
      some ⟨"conv_job", [("state", .str "compiled"), ("retries", .int 1), ("result", .null)],
        [("id", .int 42)]⟩ ∧
    ((genInsertQuery tuningJob ["id", "state", "reason"] "conv_job").bind fun query =>
        (textClause asciiWord query.data).bind parseInsert) =
      some ⟨"conv_job", ["state", "reason"], [.str "compiled", .str "tuning"]⟩ := by
  obtain ⟨update, -⟩ := genQueries_store_values asciiWord tuningJob
    ["state", "retries", "result"] "conv_job" (by decide) (by decide) (by decide)
  obtain ⟨-, insert⟩ := genQueries_store_values asciiWord tuningJob
    ["id", "state", "reason"] "conv_job" (by decide) (by decide) (by decide)
  exact ⟨update 42 rfl (by simp), insert (by simp) (by decide) (by decide)⟩

/-- A job whose reason holds an apostrophe. -/
def apostropheJob : String → PyValue
  | "id" => .int 0
  | "reason" => .str "it's"
  | _ => .none

/--
`get_attr_vals` quotes `it's` without escaping it: MySQL reads the literal
`'it'`, and the quote after `s` opens a literal that nothing closes.
-/
theorem genUpdateQuery_apostrophe_truncates :
    genUpdateQuery apostropheJob ["reason"] "job" none = "UPDATE job SET reason='it's' WHERE id=0;" ∧
      readLiteral "'it's' WHERE id=0;".data = some (.str "it", "s' WHERE id=0;".data) ∧
      readQuoted " WHERE id=0;".data = none := by
  decide

end MITuna.Sql
