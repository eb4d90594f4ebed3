import MITuna.Store.Select
import MITuna.Job.Protocol

namespace MITuna

open Sql

/-!
# The claim query of `MIOpen.get_job_objs`

A claim selects its jobs with one `SELECT ... FOR UPDATE SKIP LOCKED` that
`get_job_objs` and `compose_work_objs` write as text and `gen_select_objs`
runs.  The label and the fin step go into the text unescaped, the fin step
as a `LIKE '%step%'` pattern, and a `claim_num` of `0` writes no `LIMIT`.
This module models the builders and proves what the store returns for the
text they write: the unlocked rows that pass the filters the text states,
ordered by retries and config and cut by the `LIMIT`.
-/

/-! ## `db_utility` -/

/--
`get_job_rows`: the `SELECT` text of the attributes, with the condition
string when there is one, run through `session.execute`; `none` where
execution raises, as the `except` clause returns `None`.  (`attribs is not
None or attribs != []` holds for every list, so the column list is always
joined.)
-/
def getJobRows (word : Char → Bool) (store : Store) (attribs : List String)
    (tablename condStr : String) : Option (List Entry) :=
  let attrStr := ",".intercalate attribs
  let query :=
    if condStr ≠ "" then "SELECT " ++ attrStr ++ " FROM " ++ tablename ++ " " ++ condStr ++ ";"
    else "SELECT " ++ attrStr ++ " FROM " ++ tablename ++ ";"
  store.execute word query

/--
`gen_select_objs`: the rows of `get_job_rows` as `SimpleDict`s.  A result
proxy is truthy even when it holds no row, so `if ret:` fails only on the
`None` of a raised execution.
-/
def genSelectObjs (word : Char → Bool) (store : Store) (attribs : List String)
    (tablename condStr : String) : Option (List Entry) :=
  getJobRows word store attribs tablename condStr

/-! ## `MIOpen` -/

/-- Python's `str` of a set of state names, in the set's iteration order. -/
def setStr (states : List JobState) : String :=
  if states = [] then "set()"
  else "\x7b" ++ ", ".intercalate (states.map fun state => "'" ++ state.name ++ "'") ++ "\x7d"

/-- Python's `str.strip` with one character to strip. -/
def strip (c : Char) (text : String) : String :=
  ⟨((text.data.dropWhile (· == c)).reverse.dropWhile (· == c)).reverse⟩

/-- Python's truth value of an optional count: `None` and `0` are false. -/
def truthyCount : Option Nat → Option Nat
  | some (count + 1) => some (count + 1)
  | _ => none

/-- The fin-step condition `compose_work_objs` appends. -/
def finStepCond : Option (List String) → String
  | some (step :: _) => "fin_step like '%" ++ step ++ "%'"
  | _ => "fin_step='not_fin'"

/--
`MIOpen.compose_work_objs`: the fin-step condition, `WHERE`, the order, and a
`LIMIT` when `claim_num` is truthy.
-/
def composeWorkObjs (word : Char → Bool) (store : Store) (conds : List String)
    (jobTable : String) (jobAttr : List String) (claimNum : Option Nat)
    (finSteps : Option (List String)) : Option (List Entry) :=
  let conds := conds ++ [finStepCond finSteps]
  let condStr := " AND ".intercalate conds
  let condStr := if condStr ≠ "" then "WHERE " ++ condStr else condStr
  let condStr :=
    match truthyCount claimNum with
    | some count =>
        condStr ++ " ORDER BY retries,config ASC LIMIT " ++ toString count ++
          " FOR UPDATE SKIP LOCKED"
    | none => condStr ++ " ORDER BY retries,config ASC FOR UPDATE SKIP LOCKED"
  genSelectObjs word store jobAttr jobTable condStr

/-- The label condition of `get_job_objs`, present when the label is truthy. -/
def labelConds : Option String → List String
  | some text => if text ≠ "" then ["reason='" ++ text ++ "'"] else []
  | none => []

/--
`MIOpen.get_job_objs`: the session, validity, label, retry and state
conditions of a claim, handed to `compose_work_objs`.
-/
def getJobObjs (word : Char → Bool) (store : Store) (findState : List JobState)
    (label : Option String) (sessionId : Nat) (jobTable : String) (jobAttr : List String)
    (claimNum : Option Nat) (finSteps : Option (List String)) (maxJobRetries : Int) :
    Option (List Entry) :=
  let conds := ["session=" ++ toString sessionId, "valid=1"] ++ labelConds label ++
    ["retries<" ++ toString maxJobRetries,
      "state in (" ++ strip '}' (strip '{' (setStr findState)) ++ ")"]
  composeWorkObjs word store conds jobTable jobAttr claimNum finSteps

/-- A new job of the session whose fin step is `miopen_find_compile`. -/
def findCompileJob : JobRow where
  id := 1
  config := 7
  solver := "ConvHipImplicitGemmV4R1Fwd"
  session := 1
  state := .new
  valid := true
  retries := 0
  reason := "tuning"
  finStep := "miopen_find_compile"
  result := ""

/-- The job table holding only `findCompileJob`, none of it locked, under a binary collation. -/
def findCompileStore : Store :=
  ⟨"conv_job", [findCompileJob], fun _ => false, id⟩

set_option maxRecDepth 4000 in
/--
`find_compile` and `miopen_find_compile` are both session steps
(`fin_session_steps`).  A claim for `find_compile` takes the job whose only
step is `miopen_find_compile`, as `LIKE '%find_compile%'` matches it.
-/
theorem getJobObjs_find_compile_claims_miopen_find_compile :
    getJobObjs asciiWord findCompileStore [.new] none 1 "conv_job" ["id"] none (some ["find_compile"]) 3 =
      some [[("id", .int 1)]] ∧
    ',' ∉ findCompileJob.finStep.data ∧ findCompileJob.finStep ≠ "find_compile" := by
  refine ⟨?_, by decide⟩
  simp only [getJobObjs, composeWorkObjs, genSelectObjs, getJobRows, Store.execute]
  rw [textClause_harmless asciiWord]
  · decide
  · decide

/-! ## What MySQL reads -/

/-- The state names `str(find_state)` quotes, joined as a set prints them. -/
theorem quoted_states_shape {findState : List JobState} (nonempty : findState ≠ []) :
    ∃ middle, (", ".intercalate (findState.map fun state => "'" ++ state.name ++ "'")).data =
      '\'' :: (middle ++ ['\'']) := by
  induction findState with
  | nil => exact absurd rfl nonempty
  | cons state rest inductionHypothesis =>
      cases rest with
      | nil => exact ⟨state.name.data, by simp⟩
      | cons next more =>
          obtain ⟨middle, shape⟩ := inductionHypothesis (by simp)
          refine ⟨state.name.data ++ '\'' :: (", ".data ++ '\'' :: middle), ?_⟩
          simp only [List.map_cons, intercalate_cons_cons, String.data_append] at shape ⊢
          rw [shape]
          simp

/-- `str(find_state).strip('{').strip('}')` is the quoted state names. -/
theorem strip_setStr {findState : List JobState} (nonempty : findState ≠ []) :
    strip '}' (strip '{' (setStr findState)) =
      ", ".intercalate (findState.map fun state => "'" ++ state.name ++ "'") := by
  obtain ⟨middle, shape⟩ := quoted_states_shape nonempty
  apply String.ext
  simp [strip, setStr, nonempty, shape]

/-- The label condition MySQL reads. -/
def labelConditions : Option String → List Condition
  | some text => if text ≠ "" then [.compare "reason" .eq (.str text)] else []
  | none => []

/-- The fin-step condition MySQL reads. -/
def finStepCondition : Option (List String) → Condition
  | some (step :: _) => .like "fin_step" (.str ("%" ++ step ++ "%"))
  | _ => .compare "fin_step" .eq (.str "not_fin")

/-- The conditions MySQL reads from the text `get_job_objs` writes. -/
def claimConditions (findState : List JobState) (label : Option String) (sessionId : Nat)
    (finSteps : Option (List String)) (maxJobRetries : Int) : List Condition :=
  [.compare "session" .eq (.int sessionId), .compare "valid" .eq (.int 1)] ++
    labelConditions label ++
    [.compare "retries" .lt (.int maxJobRetries),
      .within "state" (findState.map fun state => .str state.name)] ++
    [finStepCondition finSteps]

/-- Every column of the job table is an identifier. -/
theorem columnNames_identifiers : ∀ column ∈ JobRow.columnNames, IsIdentifier column := by
  decide

/-- The claim's conditions name only columns of the job table. -/
theorem claimConditions_columns (findState : List JobState) (label : Option String)
    (sessionId : Nat) (finSteps : Option (List String)) (maxJobRetries : Int) :
    ∀ condition ∈ claimConditions findState label sessionId finSteps maxJobRetries,
      condition.column ∈ JobRow.columnNames := by
  have finColumn : (finStepCondition finSteps).column = "fin_step" := by
    rcases finSteps with _ | _ | ⟨step, steps⟩ <;> rfl
  have labelColumns : ∀ condition ∈ labelConditions label, condition.column = "reason" := by
    rcases label with _ | text
    · simp [labelConditions]
    · by_cases empty : text = "" <;> simp [labelConditions, empty, Condition.column]
  intro condition member
  simp only [claimConditions, List.mem_append, List.mem_cons, List.mem_singleton,
    List.not_mem_nil, or_false, or_assoc] at member
  rcases member with rfl | rfl | inLabel | rfl | rfl | rfl
  · exact (by decide : "session" ∈ JobRow.columnNames)
  · exact (by decide : "valid" ∈ JobRow.columnNames)
  · rw [labelColumns condition inLabel]
    decide
  · exact (by decide : "retries" ∈ JobRow.columnNames)
  · exact (by decide : "state" ∈ JobRow.columnNames)
  · rw [finColumn]
    decide

/-- A state name reads back as a quoted literal. -/
theorem stateName_quotable (state : JobState) : Quotable state.name.data := by
  cases state <;> decide

/-- MySQL reads each condition `get_job_objs` and `compose_work_objs` write. -/
theorem claimConditions_readBack {findState : List JobState} {label : Option String}
    (sessionId : Nat) {finSteps : Option (List String)} (maxJobRetries : Int)
    (states : findState ≠ []) (labelPlain : ∀ text, label = some text → PlainText text)
    (stepPlain : ∀ step steps, finSteps = some (step :: steps) → PlainText step) :
    List.Forall₂ (ReadsBack readCondition)
      (claimConditions findState label sessionId finSteps maxJobRetries)
      (["session=" ++ toString sessionId, "valid=1"] ++ labelConds label ++
        ["retries<" ++ toString maxJobRetries,
          "state in (" ++ strip '}' (strip '{' (setStr findState)) ++ ")"] ++
        [finStepCond finSteps]) := by
  have session : ReadsBack readCondition (.compare "session" .eq (.int sessionId))
      ("session=" ++ toString sessionId) :=
    readCondition_compare .eq (by decide) (readsBack_int sessionId)
  have valid : ReadsBack readCondition (.compare "valid" .eq (.int 1)) "valid=1" :=
    readCondition_compare .eq (by decide) (readsBack_int 1)
  have retries : ReadsBack readCondition (.compare "retries" .lt (.int maxJobRetries))
      ("retries<" ++ toString maxJobRetries) :=
    readCondition_compare .lt (by decide) (readsBack_int maxJobRetries)
  have quotedStates : List.Forall₂ (ReadsBack readLiteral)
      (findState.map fun state => .str state.name)
      (findState.map fun state => "'" ++ state.name ++ "'") := by
    simp only [List.forall₂_map_left_iff, List.forall₂_map_right_iff, List.forall₂_same]
    exact fun state _ => readsBack_quoted (stateName_quotable state)
  have state : ReadsBack readCondition (.within "state" (findState.map fun state => .str state.name))
      ("state in (" ++ strip '}' (strip '{' (setStr findState)) ++ ")") := by
    rw [strip_setStr states]
    have within := readCondition_within (by decide : IsIdentifier "state") quotedStates
      (by simpa using states)
    rwa [show "state" ++ " in (" = "state in (" from rfl] at within
  have labelRead : List.Forall₂ (ReadsBack readCondition) (labelConditions label)
      (labelConds label) := by
    cases label with
    | none => exact .nil
    | some text =>
        by_cases empty : text = ""
        · simp [labelConditions, labelConds, empty]
        · have reason := readCondition_compare .eq (by decide : IsIdentifier "reason")
            (readsBack_quoted (labelPlain text rfl).1)
          have same : "reason" ++ Comparison.symbol .eq ++ ("'" ++ text ++ "'") =
              "reason='" ++ text ++ "'" := by
            apply String.ext
            simp [Comparison.symbol]
          rw [same] at reason
          simpa [labelConditions, labelConds, empty] using reason
  have finRead : ReadsBack readCondition (finStepCondition finSteps) (finStepCond finSteps) := by
    rcases finSteps with _ | _ | ⟨step, steps⟩
    · exact readCondition_compare .eq (by decide) (readsBack_quoted (by decide))
    · exact readCondition_compare .eq (by decide) (readsBack_quoted (by decide))
    · have quotable : Quotable ("%" ++ step ++ "%").data := by
        have := (stepPlain step steps rfl).1
        intro c member
        simp only [String.data_append, List.mem_append] at member
        rcases member with (percent | inStep) | percent
        · simp_all
        · exact this c inStep
        · simp_all
      have like := readCondition_like (by decide : IsIdentifier "fin_step")
        (readsBack_quoted quotable)
      have same : "fin_step" ++ " like " ++ ("'" ++ ("%" ++ step ++ "%") ++ "'") =
          "fin_step like '%" ++ step ++ "%'" := by
        apply String.ext
        simp
      rw [same] at like
      exact like
  exact List.rel_append (List.rel_append (List.rel_append (.cons session (.cons valid .nil))
    labelRead) (.cons retries (.cons state .nil))) (.cons finRead .nil)

theorem append_eq_empty_iff {first second : String} :
    first ++ second = "" ↔ first = "" ∧ second = "" := by
  simp only [String.ext_iff, String.data_append, List.append_eq_nil]

theorem intercalate_append_ne {sep last : String} (strs : List String) (present : last ≠ "") :
    sep.intercalate (strs ++ [last]) ≠ "" := by
  induction strs with
  | nil => simpa using present
  | cons first rest inductionHypothesis =>
      cases rest with
      | nil => simp [append_eq_empty_iff, present]
      | cons second more =>
          simp only [List.cons_append, intercalate_cons_cons] at inductionHypothesis ⊢
          simp [append_eq_empty_iff, inductionHypothesis]

/-- The text `compose_work_objs` hands to `get_job_rows`, piece by piece. -/
theorem composeWorkObjs_query (word : Char → Bool) (store : Store) (conds : List String)
    (jobTable : String) (jobAttr : List String) (claimNum : Option Nat)
    (finSteps : Option (List String)) :
    composeWorkObjs word store conds jobTable jobAttr claimNum finSteps =
      ((textClause word ("SELECT ".data ++ (",".intercalate jobAttr).data ++ " FROM ".data ++
        jobTable.data ++ " WHERE ".data ++
        (" AND ".intercalate (conds ++ [finStepCond finSteps])).data ++
        " ORDER BY retries,config ASC".data ++ limitText (truthyCount claimNum) ++
        " FOR UPDATE SKIP LOCKED".data ++ [';'])).bind parseSelect).bind store.select := by
  have present : finStepCond finSteps ≠ "" := by
    rcases finSteps with _ | _ | ⟨step, steps⟩ <;> simp [finStepCond, append_eq_empty_iff]
  simp only [composeWorkObjs, genSelectObjs, getJobRows, Store.execute, ne_eq,
    intercalate_append_ne conds present, not_false_eq_true, ↓reduceIte]
  cases truthyCount claimNum <;> simp [append_eq_empty_iff, limitText]

/-! ## What the claim returns -/

/-- The label filter: none when the label is missing or empty. -/
def labelMatches (fold : Char → Char) : Option String → JobRow → Bool
  | some text, row => text == "" || sameText fold row.reason text
  | none, _ => true

/-- The fin-step filter: a substring matching `fin_steps[0]`, or `not_fin`. -/
def finStepMatches (fold : Char → Char) : Option (List String) → JobRow → Bool
  | some (step :: _), row => wildInfix fold step.data row.finStep.data
  | _, row => sameText fold row.finStep "not_fin"

/--
The rows a claim selects, by the filters its text states: the session, a set
`valid` flag, the label when it is non-empty, retries under the bound, a
state of `find_state`, and a fin step that contains `fin_steps[0]` (each `_`
of it standing for any one character) or, without fin steps, is `not_fin`.
Texts compare under the collation.
-/
def Claimable (fold : Char → Char) (sessionId : Nat) (findState : List JobState)
    (label : Option String) (maxJobRetries : Int) (finSteps : Option (List String))
    (row : JobRow) : Bool :=
  row.session == sessionId && row.valid && labelMatches fold label row &&
    decide ((row.retries : Int) < maxJobRetries) &&
    findState.any (fun state => sameText fold row.state.name state.name) &&
    finStepMatches fold finSteps row

/-- A row meets the conditions MySQL reads exactly when it is claimable. -/
theorem claimConditions_hold (fold : Char → Char) (findState : List JobState)
    (label : Option String) (sessionId : Nat) {finSteps : Option (List String)}
    (maxJobRetries : Int)
    (stepLiteral : ∀ step steps, finSteps = some (step :: steps) →
      ∀ c ∈ step.data, c ≠ '%' ∧ c ≠ '\\')
    (row : JobRow) :
    (claimConditions findState label sessionId finSteps maxJobRetries).all (·.holds fold row) =
      Claimable fold sessionId findState label maxJobRetries finSteps row := by
  have valid : ((if row.valid then 1 else 0 : Int) == 1) = row.valid := by
    cases row.valid <;> rfl
  have session : ((row.session : Int) == (sessionId : Int)) = (row.session == sessionId) := by
    rw [Bool.eq_iff_iff]
    simp only [beq_iff_eq]
    omega
  have finStep : (finStepCondition finSteps).holds fold row = finStepMatches fold finSteps row := by
    rcases finSteps with _ | _ | ⟨step, steps⟩
    · rfl
    · rfl
    · show likeMatch fold ('%' :: (step.data ++ ['%'])) row.finStep.data = _
      rw [likeMatch_contains fold step.data (stepLiteral step steps rfl)]
      rfl
  have labelled : (labelConditions label).all (·.holds fold row) =
      labelMatches fold label row := by
    cases label with
    | none => rfl
    | some text =>
        by_cases empty : text = ""
        · simp [labelConditions, labelMatches, empty]
        · have blank : (text == "") = false := by simpa using empty
          simp only [labelConditions, if_pos empty, labelMatches, blank, Bool.false_or,
            List.all_cons, List.all_nil, Bool.and_true]
          rfl
  have states : (findState.map fun state => SqlValue.str state.name).any
      (SqlValue.eqUnder fold (.str row.state.name)) =
      findState.any fun state => sameText fold row.state.name state.name := by
    induction findState with
    | nil => rfl
    | cons state rest inductionHypothesis => simp [inductionHypothesis, SqlValue.eqUnder]
  simp only [claimConditions, List.all_append, List.all_cons, List.all_nil, Bool.and_true,
    labelled, finStep]
  have columns : row.value "session" = .int row.session ∧
      row.value "valid" = .int (if row.valid then 1 else 0) ∧
      row.value "retries" = .int row.retries ∧ row.value "state" = .str row.state.name :=
    ⟨rfl, rfl, rfl, rfl⟩
  simp only [Condition.holds, columns, SqlValue.ltUnder, states]
  simp only [SqlValue.eqUnder, valid, session, Claimable, Bool.and_assoc]

theorem truthyCount_of_positive {claimNum : Option Nat}
    (positive : ∀ count, claimNum = some count → 0 < count) : truthyCount claimNum = claimNum := by
  rcases claimNum with _ | _ | count
  · rfl
  · exact absurd (positive 0 rfl) (by decide)
  · rfl

/-- Every text the claim query writes reaches MySQL unchanged through `text()`. -/
theorem claimQuery_harmless {findState : List JobState} {label : Option String}
    (sessionId : Nat) {finSteps : Option (List String)} (maxJobRetries : Int)
    (states : findState ≠ []) (labelPlain : ∀ text, label = some text → PlainText text)
    (stepPlain : ∀ step steps, finSteps = some (step :: steps) → PlainText step) :
    ∀ text ∈ ["session=" ++ toString sessionId, "valid=1"] ++ labelConds label ++
        ["retries<" ++ toString maxJobRetries,
          "state in (" ++ strip '}' (strip '{' (setStr findState)) ++ ")"] ++
        [finStepCond finSteps],
      Harmless text.data := by
  have quotedStates : Harmless (", ".intercalate
      (findState.map fun state => "'" ++ state.name ++ "'")).data := by
    refine harmless_intercalate (by decide) ?_
    simp only [List.mem_map]
    rintro _ ⟨state, -, rfl⟩
    cases state <;> decide
  have labelled : ∀ text ∈ labelConds label, Harmless text.data := by
    rcases label with _ | text
    · simp [labelConds]
    · by_cases empty : text = ""
      · simp [labelConds, empty]
      · simp only [labelConds, empty, ne_eq, not_false_eq_true, ↓reduceIte, List.mem_singleton,
          forall_eq, String.data_append, harmless_append_iff]
        exact ⟨⟨by decide, (labelPlain text rfl).harmless⟩, by decide⟩
  have finCond : Harmless (finStepCond finSteps).data := by
    rcases finSteps with _ | _ | ⟨step, steps⟩
    · decide
    · decide
    · simp only [finStepCond, String.data_append, harmless_append_iff]
      exact ⟨⟨by decide, (stepPlain step steps rfl).harmless⟩, by decide⟩
  intro text member
  simp only [List.mem_append, List.mem_cons, List.mem_singleton, List.not_mem_nil,
    or_false, or_assoc] at member
  rcases member with session | valid | inLabel | retries | state | finStep
  · subst session
    simp only [String.data_append, harmless_append_iff]
    exact ⟨by decide, harmless_toString sessionId⟩
  · subst valid
    decide
  · exact labelled text inLabel
  · subst retries
    simp only [String.data_append, harmless_append_iff]
    exact ⟨by decide, harmless_toString maxJobRetries⟩
  · subst state
    rw [strip_setStr states]
    simp only [String.data_append, harmless_append_iff]
    exact ⟨⟨by decide, quotedStates⟩, by decide⟩
  · subst finStep
    exact finCond

/--
With plain texts for the label and the fin step, the claim query returns the
unlocked claimable rows, ordered by retries and then config (rows with equal
keys in the order the scan meets them), cut to `claim_num` rows when a count
is given.
-/
theorem getJobObjs_claims (word : Char → Bool) (store : Store) (findState : List JobState)
    (label : Option String) (sessionId : Nat) (jobAttr : List String) (claimNum : Option Nat)
    (finSteps : Option (List String)) (maxJobRetries : Int)
    (tableName : IsIdentifier store.tablename) (columns : jobAttr ≠ [])
    (known : ∀ column ∈ jobAttr, column ∈ JobRow.columnNames) (states : findState ≠ [])
    (labelPlain : ∀ text, label = some text → PlainText text)
    (stepPlain : ∀ step steps, finSteps = some (step :: steps) →
      PlainText step ∧ '%' ∉ step.data)
    (positive : ∀ count, claimNum = some count → 0 < count) :
    getJobObjs word store findState label sessionId store.tablename jobAttr claimNum finSteps
        maxJobRetries =
      some ((cut claimNum ((store.rows.filter fun row => !store.locked row.id &&
          Claimable store.fold sessionId findState label maxJobRetries finSteps row).insertionSort
        ByRetriesConfig)).map (project jobAttr)) := by
  have identifiers : ∀ column ∈ jobAttr, IsIdentifier column := fun column member =>
    columnNames_identifiers column (known column member)
  have condsRead := claimConditions_readBack sessionId maxJobRetries states labelPlain
    fun step steps given => (stepPlain step steps given).1
  have condsHarmless := claimQuery_harmless sessionId maxJobRetries states labelPlain
    fun step steps given => (stepPlain step steps given).1
  have harmless : Harmless ("SELECT ".data ++ (",".intercalate jobAttr).data ++ " FROM ".data ++
      store.tablename.data ++ " WHERE ".data ++
      (" AND ".intercalate (["session=" ++ toString sessionId, "valid=1"] ++ labelConds label ++
        ["retries<" ++ toString maxJobRetries,
          "state in (" ++ strip '}' (strip '{' (setStr findState)) ++ ")"] ++
        [finStepCond finSteps])).data ++
      " ORDER BY retries,config ASC".data ++ limitText (truthyCount claimNum) ++
      " FOR UPDATE SKIP LOCKED".data ++ [';']) := by
    simp only [harmless_append_iff, and_assoc]
    refine ⟨by decide, harmless_intercalate (by decide) fun column member =>
      (identifiers column member).harmless, by decide, tableName.harmless, by decide,
      harmless_intercalate (by decide) condsHarmless, by decide, ?_, by decide, by decide⟩
    rcases truthyCount claimNum with _ | count
    · decide
    · simp only [limitText, String.data_append, harmless_append_iff]
      exact ⟨by decide, harmless_toString count⟩
  have stepLiteral : ∀ step steps, finSteps = some (step :: steps) →
      ∀ c ∈ step.data, c ≠ '%' ∧ c ≠ '\\' := fun step steps given c member =>
    ⟨fun percent => (stepPlain step steps given).2 (percent ▸ member),
      ((stepPlain step steps given).1.1 c member).2⟩
  have known' : ∀ column ∈ jobAttr ++
      (claimConditions findState label sessionId finSteps maxJobRetries).map Condition.column ++
      ["retries", "config"], column ∈ JobRow.columnNames := by
    intro column member
    simp only [List.mem_append, List.mem_map] at member
    rcases member with (inAttr | ⟨condition, listed, rfl⟩) | inOrder
    · exact known column inAttr
    · exact claimConditions_columns findState label sessionId finSteps maxJobRetries condition listed
    · exact (by decide : ∀ c ∈ ["retries", "config"], c ∈ JobRow.columnNames) column inOrder
  rw [getJobObjs, composeWorkObjs_query, textClause_harmless word _ harmless, Option.some_bind,
    parseSelect_written store.tablename (truthyCount claimNum) tableName identifiers columns
      condsRead (by simp), Option.some_bind, select_claim store jobAttr _ _ known',
    truthyCount_of_positive positive]
  congr 4
  exact List.filter_congr fun row _ => by
    rw [claimConditions_hold store.fold findState label sessionId maxJobRetries stepLiteral row]

/-- Three jobs waiting for `miopen_find_compile`: one retried once, one locked by another claim. -/
def threeJobStore : Store :=
  ⟨"conv_job",
    [{ findCompileJob with id := 2, retries := 1 }, findCompileJob, { findCompileJob with id := 3 }],
    fun id => id == 3, id⟩

theorem getJobObjs_claims_on_three_jobs :
    getJobObjs asciiWord threeJobStore [.new] (some "tuning") 1 "conv_job" ["id", "retries"]
        (some 1) (some ["miopen_find_compile"]) 3 =
      some [[("id", .int 1), ("retries", .int 0)]] :=
  (getJobObjs_claims asciiWord threeJobStore [.new] (some "tuning") 1 ["id", "retries"]
    (some 1) (some ["miopen_find_compile"]) 3 (by decide) (by simp) (by decide) (by simp)
    (by rintro _ ⟨⟩; decide) (by rintro _ _ ⟨⟩; decide) (by rintro _ ⟨⟩; decide)).trans
    (by decide)

/-! ## The claim query and the protocol's claim step -/

theorem cut_sublist {α : Type} (claimNum : Option Nat) (items : List α) :
    (cut claimNum items).Sublist items := by
  cases claimNum with
  | none => exact List.Sublist.refl _
  | some count => exact List.take_sublist _ _

/--
The rows the claim query selects are rows the protocol's `begin` step may
take, when the store is the claimant's view of the world's job table: its
rows are current rows of the table with distinct ids, every row an open claim
locks is locked in the store, the claimant holds no open claim, the states
asked for are fetch states of the operation, and the collation leaves the
state names as they are.
-/
theorem claimQuery_rows_selectable {world : Protocol.World} {store : Store} {claimant : Nat}
    {operation : Operation} {findState : List JobState} {label : Option String}
    {sessionId : Nat} {claimNum : Option Nat} {finSteps : Option (List String)}
    {maxJobRetries : Int}
    (current : ∀ row ∈ store.rows, world.table.rows row.id = some row)
    (distinct : (store.rows.map JobRow.id).Nodup)
    (locked : ∀ id, world.Locked id → store.locked id = true)
    (idle : ∀ claim ∈ world.openClaims, claim.claimant ≠ claimant)
    (fetched : ∀ state ∈ findState, state ∈ operation.fetchState)
    (plainStates : ∀ state : JobState, state.name.data.map store.fold = state.name.data) :
    world.Selectable claimant operation
      (cut claimNum ((store.rows.filter fun row => !store.locked row.id &&
          Claimable store.fold sessionId findState label maxJobRetries finSteps row).insertionSort
        ByRetriesConfig)) := by
  have sorted := List.perm_insertionSort ByRetriesConfig (store.rows.filter fun row =>
    !store.locked row.id &&
      Claimable store.fold sessionId findState label maxJobRetries finSteps row)
  refine ⟨idle, ?_, fun job member => ?_⟩
  · exact ((distinct.sublist ((List.filter_sublist _).map JobRow.id)).perm
      (sorted.map JobRow.id).symm).sublist ((cut_sublist claimNum _).map JobRow.id)
  obtain ⟨present, selected⟩ :=
    List.mem_filter.mp (sorted.subset ((cut_sublist claimNum _).subset member))
  simp only [Claimable, Bool.and_eq_true, Bool.not_eq_true', List.any_eq_true] at selected
  obtain ⟨unlocked, ⟨⟨-, state, listed, named⟩, -⟩⟩ := selected
  rw [sameText, beq_iff_eq, plainStates, plainStates] at named
  rw [JobState.name_injective (String.ext named)]
  exact ⟨current job present, fetched state listed,
    fun lockedByClaim => by simp [locked job.id lockedByClaim] at unlocked⟩

/-- The job table of `threeJobStore`, with job 3 held by an open claim of claimant 2. -/
def threeJobWorld : Protocol.World where
  table := ⟨fun id => threeJobStore.rows.find? (·.id == id),
    fun _ _ found => by simpa using List.find?_some found⟩
  openClaims := [⟨2, .compile, [{ findCompileJob with id := 3 }]⟩]
  contexts := []

theorem claimQuery_rows_selectable_on_three_jobs :
    (∀ row ∈ threeJobStore.rows, threeJobWorld.table.rows row.id = some row) ∧
      (threeJobStore.rows.map JobRow.id).Nodup ∧
      (∀ id, threeJobWorld.Locked id → threeJobStore.locked id = true) ∧
      (∀ claim ∈ threeJobWorld.openClaims, claim.claimant ≠ 1) ∧
      (∀ state ∈ [JobState.new], state ∈ Operation.compile.fetchState) ∧
      (∀ state : JobState, state.name.data.map threeJobStore.fold = state.name.data) ∧
      threeJobWorld.Selectable 1 .compile
        (cut (some 1) ((threeJobStore.rows.filter fun row => !threeJobStore.locked row.id &&
            Claimable threeJobStore.fold 1 [.new] (some "tuning") 3
              (some ["miopen_find_compile"]) row).insertionSort ByRetriesConfig)) :=
  have current : ∀ row ∈ threeJobStore.rows, threeJobWorld.table.rows row.id = some row := by
    decide
  have locked : ∀ id, threeJobWorld.Locked id → threeJobStore.locked id = true := by
    simp [Protocol.World.Locked, threeJobWorld, Protocol.OpenClaim.ids, threeJobStore]
  have plainStates : ∀ state : JobState, state.name.data.map threeJobStore.fold =
      state.name.data := fun _ => List.map_id _
  ⟨current, by decide, locked, by decide, by decide, plainStates,
    claimQuery_rows_selectable current (by decide) locked (by decide) (by decide) plainStates⟩

end MITuna
