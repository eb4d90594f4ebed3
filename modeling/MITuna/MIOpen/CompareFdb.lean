import MITuna.MIOpen.AnalyzeFdb

namespace MITuna

/-!
# Comparing a find db with a perf db

`compare` (`tuna/miopen/analyze_fdb.py`) reports the find-db entries that the
perf db does not back.  `build_cfg_groups` groups the perf-db rows by the
driver key of their config: for each key the last config seen and a dict from
solver names to rows.  `build_find_groups` reads the find db.  Then every line
whose key has no group gets one error, and every entry of a line's solver
lists whose solver the group does not hold gets one; the errors are written
as `fdb <line>: <msg>` lines.

The perf db is read through `get_sqlite_table`, which is not in the source: a
perf row is its `config` and `solver` columns, and a config row is any value
with an id.  `valid_cfg_dims`, `get_cfg_driver` and the driver's `to_dict` are
not in the source either, so a config's driver key is a parameter, and so is
the `str` of a `dict_keys` view.
-/

/-- `d[key] = value` on a dict kept as its items in insertion order: a
present key keeps its place, a new key goes last. -/
def dictSet {κ ν : Type} [DecidableEq κ] : List (κ × ν) → κ → ν → List (κ × ν)
  | [], key, value => [(key, value)]
  | item :: items, key, value =>
      if item.1 = key then (key, value) :: items else item :: dictSet items key value

theorem lookup_cons_ite {κ ν : Type} [DecidableEq κ] (key : κ) (value : ν)
    (items : List (κ × ν)) (other : κ) :
    ((key, value) :: items).lookup other =
      if other = key then some value else items.lookup other := by
  rw [List.lookup_cons]
  cases same : other == key
  · rw [if_neg (beq_eq_false_iff_ne.mp same)]
  · rw [if_pos (beq_iff_eq.mp same)]

theorem lookup_dictSet {κ ν : Type} [DecidableEq κ] (items : List (κ × ν)) (key other : κ)
    (value : ν) :
    (dictSet items key value).lookup other =
      if other = key then some value else items.lookup other := by
  induction items with
  | nil => simp [dictSet, lookup_cons_ite]
  | cons item items inductionHypothesis =>
      obtain ⟨itemKey, itemValue⟩ := item
      by_cases here : itemKey = key
      · subst here
        simp only [dictSet, if_pos, lookup_cons_ite]
        split_ifs <;> rfl
      · simp only [dictSet, if_neg here, lookup_cons_ite, inductionHypothesis]
        by_cases same : other = key
        · simp [same, Ne.symm here]
        · simp [same]

/-- A row of `perf_db`: the columns `build_cfg_groups` and `compare` read. -/
structure PerfRow where
  config : Nat
  solver : String
  deriving Repr, DecidableEq

/-- What `cfg_group[cfg_drv]` holds: the config last seen, and the perf rows
by solver. -/
structure CfgGroup (α : Type) where
  config : α
  pdb : List (String × PerfRow)

/-- The exceptions `compare` raises: `KeyError` for a perf row whose config
the config table lacks, and those of `build_find_groups`. -/
inductive CompareError
  | keyError
  | findDb (error : FindDbError)
  deriving Repr, DecidableEq

/-- One error `compare` writes. -/
structure CompareErr where
  line : Nat
  msg : String
  deriving Repr, DecidableEq

section Groups

variable {α : Type} (cfgKey : α → String)

/-- `cfg_db`: the config rows by id, a later row of one id in place of an
earlier one. -/
def cfgDb (cfgRows : List (Nat × α)) : List (Nat × α) :=
  cfgRows.foldl (fun db row => dictSet db row.1 row.2) []

/-- One perf row into `cfg_group`: its key's group is made if missing, takes
the row's config, and holds the row under its solver. -/
def addPerfRow (cfgGroup : List (String × CfgGroup α)) (config : α) (item : PerfRow) :
    List (String × CfgGroup α) :=
  let cfgDrv := cfgKey config
  let pdb := match cfgGroup.lookup cfgDrv with
    | some entry => entry.pdb
    | none => []
  dictSet cfgGroup cfgDrv ⟨config, dictSet pdb item.solver item⟩

/-- The loop of `build_cfg_groups` over the perf rows left; `cfg_db[cfg_id]`
raises `KeyError` for a config the table lacks. -/
def groupPerfRows (db : List (Nat × α)) :
    List PerfRow → List (String × CfgGroup α) → Except CompareError (List (String × CfgGroup α))
  | [], cfgGroup => .ok cfgGroup
  | item :: items, cfgGroup =>
      match db.lookup item.config with
      | none => .error .keyError
      | some config => groupPerfRows db items (addPerfRow cfgKey cfgGroup config item)

/-- `build_cfg_groups`. -/
def buildCfgGroups (perfRows : List PerfRow) (cfgRows : List (Nat × α)) :
    Except CompareError (List (String × CfgGroup α)) :=
  groupPerfRows cfgKey (cfgDb cfgRows) perfRows []

/-- The group of `cfgDrv` holds `solver`. -/
def holdsSolver (cfgGroup : List (String × CfgGroup α)) (cfgDrv solver : String) : Bool :=
  match cfgGroup.lookup cfgDrv with
  | some group => (group.pdb.lookup solver).isSome
  | none => false

/-- A perf row whose config has the driver key `cfgDrv`. -/
def RowKeyed (db : List (Nat × α)) (cfgDrv : String) (item : PerfRow) : Prop :=
  (db.lookup item.config).map cfgKey = some cfgDrv

instance (db : List (Nat × α)) (cfgDrv : String) : DecidablePred (RowKeyed cfgKey db cfgDrv) :=
  fun _ => inferInstanceAs (Decidable (_ = _))

theorem lookup_addPerfRow_isSome (cfgGroup : List (String × CfgGroup α)) (config : α)
    (item : PerfRow) (cfgDrv : String) :
    ((addPerfRow cfgKey cfgGroup config item).lookup cfgDrv).isSome = true ↔
      (cfgGroup.lookup cfgDrv).isSome = true ∨ cfgKey config = cfgDrv := by
  rw [addPerfRow, lookup_dictSet]
  by_cases same : cfgDrv = cfgKey config
  · simp [same]
  · simp [same, Ne.symm same]

theorem holdsSolver_addPerfRow (cfgGroup : List (String × CfgGroup α)) (config : α)
    (item : PerfRow) (cfgDrv solver : String) :
    holdsSolver (addPerfRow cfgKey cfgGroup config item) cfgDrv solver = true ↔
      holdsSolver cfgGroup cfgDrv solver = true ∨
        cfgKey config = cfgDrv ∧ item.solver = solver := by
  unfold holdsSolver addPerfRow
  rw [lookup_dictSet]
  by_cases same : cfgDrv = cfgKey config
  · subst same
    by_cases named : solver = item.solver
    · cases cfgGroup.lookup (cfgKey config) <;> simp [lookup_dictSet, named]
    · have other : item.solver ≠ solver := Ne.symm named
      cases cfgGroup.lookup (cfgKey config) <;> simp [lookup_dictSet, named, other]
  · simp [same, Ne.symm same]

/-- What a `build_cfg_groups` loop that returns leaves: a key has a group
exactly when it had one or a row of that key was met, and a group holds a
solver exactly when it did or a row of that key and that solver was met. -/
theorem groupPerfRows_eq_ok {db : List (Nat × α)} :
    ∀ {items : List PerfRow} {cfgGroup result : List (String × CfgGroup α)},
      groupPerfRows cfgKey db items cfgGroup = .ok result → ∀ cfgDrv solver,
        ((result.lookup cfgDrv).isSome = true ↔
          (cfgGroup.lookup cfgDrv).isSome = true ∨ ∃ item ∈ items, RowKeyed cfgKey db cfgDrv item) ∧
        (holdsSolver result cfgDrv solver = true ↔
          holdsSolver cfgGroup cfgDrv solver = true ∨
            ∃ item ∈ items, RowKeyed cfgKey db cfgDrv item ∧ item.solver = solver)
  | [], cfgGroup, result, grouped, cfgDrv, solver => by
      cases grouped
      simp
  | item :: items, cfgGroup, result, grouped, cfgDrv, solver => by
      rw [groupPerfRows] at grouped
      cases found : db.lookup item.config with
      | none =>
          rw [found] at grouped
          cases grouped
      | some config =>
          rw [found] at grouped
          have keyed : RowKeyed cfgKey db cfgDrv item ↔ cfgKey config = cfgDrv := by
            simp [RowKeyed, found]
          obtain ⟨present, holds⟩ := groupPerfRows_eq_ok grouped cfgDrv solver
          rw [present, holds, lookup_addPerfRow_isSome, holdsSolver_addPerfRow]
          simp only [List.exists_mem_cons_iff, keyed, or_assoc, and_self]

/-- The groups `build_cfg_groups` returns: a key has one exactly when a perf
row's config has that key, and it holds a solver exactly when such a row is of
that solver. -/
theorem buildCfgGroups_eq_ok {perfRows : List PerfRow} {cfgRows : List (Nat × α)}
    {cfgGroup : List (String × CfgGroup α)}
    (built : buildCfgGroups cfgKey perfRows cfgRows = .ok cfgGroup) (cfgDrv solver : String) :
    ((cfgGroup.lookup cfgDrv).isSome = true ↔
        ∃ item ∈ perfRows, RowKeyed cfgKey (cfgDb cfgRows) cfgDrv item) ∧
      (holdsSolver cfgGroup cfgDrv solver = true ↔
        ∃ item ∈ perfRows, RowKeyed cfgKey (cfgDb cfgRows) cfgDrv item ∧ item.solver = solver) := by
  simpa [holdsSolver] using groupPerfRows_eq_ok cfgKey built cfgDrv solver

end Groups

section Compare

variable {α : Type} (keysText : List String → String)

/-- The error of a line whose driver key has no perf-db group. -/
def keyErr (fdbObj : FindGroup) : CompareErr :=
  ⟨fdbObj.lineNum, "No pdb entries for key: " ++ keysText (fdbObj.fdb.map Prod.fst)⟩

/-- The error of a find-db entry whose solver the group does not hold. -/
def solverErr (line : Nat) (fdbKey : String) (alg : FdbEntry) : CompareErr :=
  ⟨line, "No pdb entries for key: " ++ fdbKey ++ ", solver: " ++ alg.algLib ++ ":" ++
    alg.solver ++ ", kernel_time: " ++ alg.kernelTime⟩

/-- The loop of `compare` over `find_db`. -/
def compareGroups (cfgGroup : List (String × CfgGroup α)) :
    List (String × FindGroup) → List CompareErr
  | [] => []
  | (cfgDrv, fdbObj) :: rest =>
      match cfgGroup.lookup cfgDrv with
      | none => keyErr keysText fdbObj :: compareGroups cfgGroup rest
      | some group =>
          (fdbObj.fdb.flatMap fun (fdbKey, algList) =>
            (algList.filter fun alg => !(group.pdb.lookup alg.solver).isSome).map
              (solverErr fdbObj.lineNum fdbKey)) ++
            compareGroups cfgGroup rest

/-- What `compare` writes to `outfile`. -/
def report (errs : List CompareErr) : String :=
  String.join (errs.map fun err => "fdb " ++ toString err.line ++ ": " ++ err.msg ++ "\n")

variable (cfgKey : α → String) (driverKey : String → String)
  (parseFdbLine : String → List (String × List FdbEntry)) (float : String → Option ℚ)

/-- The errors of `compare`, or what it raised. -/
def compareErrors (fdbLines : List String) (perfRows : List PerfRow) (cfgRows : List (Nat × α))
    (onlyFastest : Bool) : Except CompareError (List CompareErr) := do
  let cfgGroup ← buildCfgGroups cfgKey perfRows cfgRows
  let findDb ← (buildFindGroups driverKey parseFdbLine float onlyFastest 0 fdbLines []).mapError
    .findDb
  pure (compareGroups keysText cfgGroup findDb)

/-- `compare`: the text of the output file, or what it raised. -/
def compare (fdbLines : List String) (perfRows : List PerfRow) (cfgRows : List (Nat × α))
    (onlyFastest : Bool) : Except CompareError String :=
  (compareErrors keysText cfgKey driverKey parseFdbLine float fdbLines perfRows cfgRows
    onlyFastest).map report

/--
The errors `compare` writes once `build_cfg_groups` has returned: for each
find-db line in order, one error when no perf row's config has the line's
driver key, and otherwise one error for each entry of its solver lists, in
order, whose solver no perf row of that key has.
-/
theorem compareGroups_eq {perfRows : List PerfRow} {cfgRows : List (Nat × α)}
    {cfgGroup : List (String × CfgGroup α)}
    (built : buildCfgGroups cfgKey perfRows cfgRows = .ok cfgGroup) :
    ∀ findDb : List (String × FindGroup),
      compareGroups keysText cfgGroup findDb = findDb.flatMap fun group =>
        if ∃ item ∈ perfRows, RowKeyed cfgKey (cfgDb cfgRows) group.1 item then
          group.2.fdb.flatMap fun entry =>
            (entry.2.filter fun alg => !decide (∃ item ∈ perfRows,
              RowKeyed cfgKey (cfgDb cfgRows) group.1 item ∧ item.solver = alg.solver)).map
              (solverErr group.2.lineNum entry.1)
        else
          [keyErr keysText group.2]
  | [] => rfl
  | (cfgDrv, fdbObj) :: rest => by
      have keyed := fun solver => buildCfgGroups_eq_ok cfgKey built cfgDrv solver
      rw [compareGroups, List.flatMap_cons, compareGroups_eq built rest]
      cases found : cfgGroup.lookup cfgDrv with
      | none =>
          rw [if_neg fun present => by simpa [found] using (keyed "").1.mpr present]
          rfl
      | some group =>
          rw [if_pos ((keyed "").1.mp (by simp [found]))]
          dsimp only
          congr 1
          refine congrArg fdbObj.fdb.flatMap (funext fun ⟨fdbKey, algList⟩ => ?_)
          refine congrArg (List.map _) (List.filter_congr fun alg _ => ?_)
          have holds := (keyed alg.solver).2
          simp only [holdsSolver, found] at holds
          exact congrArg (!·) (Bool.eq_iff_iff.mpr (holds.trans decide_eq_true_iff.symm))

end Compare

/-! ## `only_fastest` against the full comparison -/

theorem subperm_map {β γ : Type} (f : β → γ) {first second : List β}
    (sub : List.Subperm first second) :
    List.Subperm (first.map f) (second.map f) :=
  let ⟨middle, perm, sublist⟩ := sub
  ⟨middle.map f, perm.map f, sublist.map f⟩

theorem subperm_append {β : Type} {first second third fourth : List β}
    (left : List.Subperm first second) (right : List.Subperm third fourth) :
    List.Subperm (first ++ third) (second ++ fourth) :=
  let ⟨middle, perm, sublist⟩ := left
  let ⟨other, otherPerm, otherSublist⟩ := right
  ⟨middle ++ other, perm.append otherPerm, sublist.append otherSublist⟩

/-- The pops only remove entries. -/
theorem popSlower_sublist : ∀ (i : Nat) (algList : List FdbEntry),
    List.Sublist (popSlower i algList) algList
  | 0, _ => List.Sublist.refl _
  | i + 1, algList => by
      rw [popSlower]
      split
      · split_ifs
        · exact (popSlower_sublist i _).trans (List.eraseIdx_sublist _ _)
        · exact popSlower_sublist i _
      · exact popSlower_sublist i _

/-- `only_fastest` keeps some of a list's entries, each as often as it was there. -/
theorem pruneFastest_subperm {float : String → Option ℚ} {algList pruned : List FdbEntry}
    (pruned_eq : pruneFastest float algList = .ok pruned) : List.Subperm pruned algList := by
  obtain ⟨keyed, rfl, -, rfl⟩ := pruneFastest_eq_ok pruned_eq
  exact (popSlower_sublist _ _).subperm.trans
    ((List.perm_insertionSort _ keyed).map Prod.snd).subperm

/-- A stored solver list keeps its key and some of the parsed list's entries. -/
def Pruned (stored parsed : String × List FdbEntry) : Prop :=
  stored.1 = parsed.1 ∧ List.Subperm stored.2 parsed.2

/-- A group of the `only_fastest` run against the group of the full run. -/
def PrunedGroup (fast all : String × FindGroup) : Prop :=
  fast.1 = all.1 ∧ fast.2.lineNum = all.2.lineNum ∧ List.Forall₂ Pruned fast.2.fdb all.2.fdb

theorem pruneLine_pruned {float : String → Option ℚ}
    {fdbDict stored : List (String × List FdbEntry)}
    (pruned : pruneLine float true fdbDict = .ok stored) :
    List.Forall₂ Pruned stored fdbDict := by
  rw [pruneLine, if_pos rfl, mapM_eq_ok] at pruned
  refine (List.Forall₂.flip pruned).imp fun entry parsed => ?_
  obtain ⟨key, algList⟩ := parsed
  cases list : pruneFastest float algList with
  | error _ => simp [list, Except.map]
  | ok kept =>
      simp only [list, Except.map, Except.ok.injEq]
      rintro rfl
      exact ⟨rfl, pruneFastest_subperm list⟩

theorem lookup_isSome_eq_of_keys {β : Type} {first second : List (String × β)}
    (keys : first.map Prod.fst = second.map Prod.fst) (key : String) :
    (first.lookup key).isSome = (second.lookup key).isSome := by
  have byKeys : ∀ items : List (String × β), (items.lookup key).isSome = true ↔
      key ∈ items.map Prod.fst := fun items => by
    simp [List.lookup_isSome_iff, eq_comm (a := key)]
  exact Bool.eq_iff_iff.mpr ((byKeys first).trans (keys ▸ byKeys second).symm)

theorem keys_of_pruned : ∀ {stored parsed : List (String × List FdbEntry)},
    List.Forall₂ Pruned stored parsed → stored.map Prod.fst = parsed.map Prod.fst
  | [], [], .nil => rfl
  | _ :: _, _ :: _, .cons pruned rest => by
      rw [List.map_cons, List.map_cons, pruned.1, keys_of_pruned rest]

section Fastest

variable {driverKey : String → String} {parseFdbLine : String → List (String × List FdbEntry)}
  {float : String → Option ℚ}

/-- Where `build_find_groups` with `only_fastest` returns, it returns without
it too, with the same keys and line numbers and the whole solver lists. -/
theorem buildFindGroups_fastest_pruned :
    ∀ {lineCount : Nat} {lines : List String} {fastDb allDb fast : List (String × FindGroup)},
      fastDb.map Prod.fst = allDb.map Prod.fst →
      buildFindGroups driverKey parseFdbLine float true lineCount lines fastDb = .ok fast →
      ∃ fastGroups allGroups, fast = fastDb ++ fastGroups ∧
        buildFindGroups driverKey parseFdbLine float false lineCount lines allDb =
          .ok (allDb ++ allGroups) ∧
        List.Forall₂ PrunedGroup fastGroups allGroups
  | _, [], fastDb, allDb, fast, _, returned => by
      cases returned
      exact ⟨[], [], by simp, by simp [buildFindGroups], .nil⟩
  | lineCount, line :: lines, fastDb, allDb, fast, keys, returned => by
      rw [buildFindGroups] at returned
      split_ifs at returned with repeated
      obtain ⟨stored, pruned, rest⟩ := except_bind_eq_ok.mp returned
      obtain ⟨fastGroups, allGroups, rfl, allRun, related⟩ :=
        @buildFindGroups_fastest_pruned (lineCount + 1) lines _
          (allDb ++ [(driverKey line, ⟨parseFdbLine line, lineCount + 1⟩)]) _ (by simp [keys]) rest
      refine ⟨(driverKey line, ⟨stored, lineCount + 1⟩) :: fastGroups,
        (driverKey line, ⟨parseFdbLine line, lineCount + 1⟩) :: allGroups, by simp, ?_,
        .cons ⟨rfl, rfl, pruneLine_pruned pruned⟩ related⟩
      rw [buildFindGroups, if_neg (by rwa [← lookup_isSome_eq_of_keys keys]), pruneLine, if_neg
        Bool.false_ne_true, except_ok_bind, allRun]
      simp

end Fastest

theorem subperm_flatMap {β γ : Type} {f g : β → List γ} {R : β → β → Prop}
    (within : ∀ a b, R a b → List.Subperm (f a) (g b)) :
    ∀ {first second : List β}, List.Forall₂ R first second →
      List.Subperm (first.flatMap f) (second.flatMap g)
  | [], [], .nil => List.Subperm.refl _
  | _ :: _, _ :: _, .cons related rest =>
      subperm_append (within _ _ related) (subperm_flatMap within rest)

/-- The errors of pruned groups are among the errors of the whole groups. -/
theorem compareGroups_subperm {α : Type} (keysText : List String → String)
    (cfgGroup : List (String × CfgGroup α)) :
    ∀ {fast all : List (String × FindGroup)}, List.Forall₂ PrunedGroup fast all →
      List.Subperm (compareGroups keysText cfgGroup fast) (compareGroups keysText cfgGroup all)
  | [], [], .nil => List.Subperm.refl _
  | (cfgDrv, fastObj) :: fast, (_, allObj) :: all, .cons ⟨rfl, sameLine, lists⟩ rest => by
      have rest := compareGroups_subperm keysText cfgGroup rest
      dsimp only at sameLine lists
      rw [compareGroups, compareGroups]
      cases cfgGroup.lookup cfgDrv with
      | none =>
          rw [show keyErr keysText fastObj = keyErr keysText allObj by
            simp [keyErr, sameLine, keys_of_pruned lists]]
          exact (List.subperm_cons _).mpr rest
      | some group =>
          dsimp only
          refine subperm_append (subperm_flatMap (fun stored parsed pruned => ?_) lists) rest
          obtain ⟨fdbKey, kept⟩ := stored
          obtain ⟨_, algList⟩ := parsed
          obtain ⟨rfl, sub⟩ := pruned
          rw [sameLine]
          exact subperm_map _ (sub.filter _)

theorem mapError_eq_ok {ε ε' β : Type} {x : Except ε β} {f : ε → ε'} {result : β}
    (mapped : x.mapError f = .ok result) : x = .ok result := by
  cases x <;> cases mapped
  rfl

section Whole

variable {α : Type} (keysText : List String → String) (cfgKey : α → String)
  (driverKey : String → String) (parseFdbLine : String → List (String × List FdbEntry))
  (float : String → Option ℚ)

/--
What `compare` reports when it returns: for each line of the find db in order,
numbered from 1, with the solver lists it stored, one error when no perf row's
config has the line's driver key, and otherwise one error for each stored
entry, in order, whose solver no perf row of that key has.
-/
theorem compareErrors_eq_ok {fdbLines : List String} {perfRows : List PerfRow}
    {cfgRows : List (Nat × α)} {onlyFastest : Bool} {errs : List CompareErr}
    (ran : compareErrors keysText cfgKey driverKey parseFdbLine float fdbLines perfRows cfgRows
      onlyFastest = .ok errs) :
    ∃ groups : List (String × FindGroup),
      List.Forall₂ (fun line group => group.1 = driverKey line ∧
        pruneLine float onlyFastest (parseFdbLine line) = .ok group.2.fdb) fdbLines groups ∧
      groups.map (·.2.lineNum) = List.range' 1 fdbLines.length ∧
      errs = groups.flatMap fun group =>
        if ∃ item ∈ perfRows, RowKeyed cfgKey (cfgDb cfgRows) group.1 item then
          group.2.fdb.flatMap fun entry =>
            (entry.2.filter fun alg => !decide (∃ item ∈ perfRows,
              RowKeyed cfgKey (cfgDb cfgRows) group.1 item ∧ item.solver = alg.solver)).map
              (solverErr group.2.lineNum entry.1)
        else
          [keyErr keysText group.2] := by
  obtain ⟨cfgGroup, built, rest⟩ := except_bind_eq_ok.mp ran
  obtain ⟨findDb, found, reported⟩ := except_bind_eq_ok.mp rest
  obtain ⟨groups, stored, related, numbered⟩ := buildFindGroups_eq_ok (mapError_eq_ok found)
  refine ⟨groups, related, numbered, ?_⟩
  rw [← Except.ok.inj reported, stored, List.nil_append, compareGroups_eq keysText cfgKey built]

/-- `only_fastest` reports no error that the full comparison does not: when
the run with it returns, the run without it returns too, and its errors are
among the full run's, each as often. -/
theorem compareErrors_fastest_subperm {fdbLines : List String} {perfRows : List PerfRow}
    {cfgRows : List (Nat × α)} {fastErrs : List CompareErr}
    (ran : compareErrors keysText cfgKey driverKey parseFdbLine float fdbLines perfRows cfgRows
      true = .ok fastErrs) :
    ∃ allErrs, compareErrors keysText cfgKey driverKey parseFdbLine float fdbLines perfRows
      cfgRows false = .ok allErrs ∧ List.Subperm fastErrs allErrs := by
  obtain ⟨cfgGroup, built, rest⟩ := except_bind_eq_ok.mp ran
  obtain ⟨fast, found, reported⟩ := except_bind_eq_ok.mp rest
  obtain ⟨fastGroups, allGroups, stored, allRun, related⟩ :=
    @buildFindGroups_fastest_pruned driverKey parseFdbLine float 0 fdbLines [] [] _ rfl
      (mapError_eq_ok found)
  refine ⟨compareGroups keysText cfgGroup allGroups, ?_, ?_⟩
  · simp only [compareErrors, built, allRun, except_ok_bind]
    rfl
  · rw [← Except.ok.inj reported, stored, List.nil_append]
    exact compareGroups_subperm keysText cfgGroup related

end Whole

/-- A solver list of two entries; the perf db has a row for the faster one only. -/
def twoTimes : List FdbEntry :=
  [⟨"miopenConvolutionFwdAlgoDirect", "ConvDirectNaiveConvFwd", "1.5"⟩,
    ⟨"miopenConvolutionFwdAlgoWinograd", "ConvBinWinograd3x3U", "2.5"⟩]

theorem compareErrors_reports_unbacked_solver :
    compareErrors (fun _ => "dict_keys(['1-32-32-3x3-F'])") (fun (_ : Unit) => "1-32-32-3x3")
        (fun _ => "1-32-32-3x3") (fun _ => [("1-32-32-3x3-F", twoTimes)]) plainDecimal
        ["1-32-32-3x3-F=..."] [⟨1, "ConvDirectNaiveConvFwd"⟩] [(1, ())] false =
      .ok [solverErr 1 "1-32-32-3x3-F"
        ⟨"miopenConvolutionFwdAlgoWinograd", "ConvBinWinograd3x3U", "2.5"⟩] ∧
    ∃ groups : List (String × FindGroup), groups.map (·.2.lineNum) = [1] := by
  have ran : compareErrors (fun _ => "dict_keys(['1-32-32-3x3-F'])")
      (fun (_ : Unit) => "1-32-32-3x3") (fun _ => "1-32-32-3x3")
      (fun _ => [("1-32-32-3x3-F", twoTimes)]) plainDecimal ["1-32-32-3x3-F=..."]
      [⟨1, "ConvDirectNaiveConvFwd"⟩] [(1, ())] false =
    .ok [solverErr 1 "1-32-32-3x3-F"
      ⟨"miopenConvolutionFwdAlgoWinograd", "ConvBinWinograd3x3U", "2.5"⟩] := rfl
  obtain ⟨groups, -, numbered, -⟩ := compareErrors_eq_ok _ _ _ _ _ ran
  exact ⟨ran, groups, numbered⟩

theorem compareErrors_fastest_drops_slower_error :
    compareErrors (fun _ => "dict_keys(['1-32-32-3x3-F'])") (fun (_ : Unit) => "1-32-32-3x3")
        (fun _ => "1-32-32-3x3") (fun _ => [("1-32-32-3x3-F", twoTimes)]) plainDecimal
        ["1-32-32-3x3-F=..."] [⟨1, "ConvDirectNaiveConvFwd"⟩] [(1, ())] true = .ok [] ∧
    ∃ allErrs, compareErrors (fun _ => "dict_keys(['1-32-32-3x3-F'])")
      (fun (_ : Unit) => "1-32-32-3x3") (fun _ => "1-32-32-3x3")
      (fun _ => [("1-32-32-3x3-F", twoTimes)]) plainDecimal ["1-32-32-3x3-F=..."]
      [⟨1, "ConvDirectNaiveConvFwd"⟩] [(1, ())] false = .ok allErrs ∧
      List.Subperm [] allErrs :=
  ⟨rfl, compareErrors_fastest_subperm _ _ _ _ _ rfl⟩

end MITuna
