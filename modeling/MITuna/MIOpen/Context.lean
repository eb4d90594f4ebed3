import Mathlib.Data.List.Forall2
import MITuna.Store.Select

namespace MITuna

open Sql

/-!
# The contexts of a claimed batch

`MIOpen.serialize_jobs` (`tuna/miopen/miopen_lib.py`) pairs each claimed
job with its config.  `compose_work_objs_fin` selects the valid configs the
batch names, `attach_tensors` sets each relationship attribute of a config
to the row its key references, and each job is paired with the config its
id names.  `build_context` then wraps each pair with the session's
architecture, the operation and the find-db columns.  The tables are lists
of rows in scan order, and each `SELECT` these functions write is read as
the filter it states.
-/

/-- The Python errors the context builder can raise. -/
inductive PyError
  | attributeError
  | keyError
  | indexError
  | typeError
  | valueError
  deriving Repr, DecidableEq

/-- `getattr(obj, name)` on an object `db_rows_to_obj` built. -/
def getattr (entry : Entry) (name : String) : Except PyError SqlValue :=
  match entry.lookup name with
  | some value => .ok value
  | none => .error .attributeError

/-- One entry of `cfg_rel`, a relationship of the config table. -/
structure Relationship where
  /-- The relationship's attribute, the key of `cfg_rel`. -/
  name : String
  /-- `key`: the config column holding the referenced id. -/
  key : String
  /-- `ftble`: the referenced table. -/
  ftble : String
  /-- `fkey`: the referenced column. -/
  fkey : String
  deriving Repr, DecidableEq

/-- A config row with each relationship attribute set to the row it references. -/
structure ConfigEntry where
  row : Entry
  tensors : List (String × Entry)
  deriving Repr, DecidableEq

/-- What the library object holds that `serialize_jobs` and `build_context` read. -/
structure Library (Kwargs : Type) where
  /-- `dbt.config_table.__tablename__`. -/
  configTable : String
  /-- The relationships of `dbt.config_table`, as `cfg_rel` lists them. -/
  cfgRel : List Relationship
  /-- The columns of `dbt.find_db_table`. -/
  fdbColumns : List String
  /-- `dbt.session.arch` and `dbt.session.num_cu`. -/
  arch : String
  numCu : Nat
  operation : Operation
  /-- `get_context_items()`. -/
  kwargs : Kwargs

/--
A config id as `str(job.config)` writes it into the `IN` list.  The config
column is an integer key; any other value breaks the `SELECT`, which then
gives `None`, and iterating that `None` raises `TypeError`.
-/
def configId : SqlValue → Except PyError Int
  | .int id => .ok id
  | _ => .error .typeError

/-- `gen_select_objs` of `where valid=1 and id in ({id_str})` over the config table. -/
def selectValidConfigs (rows : List Entry) (ids : List Int) : List Entry :=
  rows.filter fun row =>
    row.lookup "valid" == some (.int 1) && ids.any fun id => row.lookup "id" == some (.int id)

/--
`gen_select_objs` of `where {fkey}={rel_val}` over a referenced table.  The
key columns are integer foreign keys; any other value, `None` among them,
writes a condition MySQL refuses, and the `[0]` of the `None` returned then
raises `TypeError`.
-/
def selectWhere (rows : List Entry) (fkey : String) : SqlValue → Except PyError (List Entry)
  | .int value => .ok (rows.filter fun row => row.lookup fkey == some (.int value))
  | _ => .error .typeError

/-- One relationship attribute of one config: the first row the `SELECT` of its key returns. -/
def attachTensor (tables : String → List Entry) (cfg : Entry) (rel : Relationship) :
    Except PyError (String × Entry) := do
  let relVal ← getattr cfg rel.key
  match ← selectWhere (tables rel.ftble) rel.fkey relVal with
  | row :: _ => pure (rel.name, row)
  | [] => throw .indexError

/-- `MIOpen.attach_tensors`. -/
def attachTensors (tables : String → List Entry) (cfgRel : List Relationship)
    (cfgEntries : List Entry) : Except PyError (List ConfigEntry) :=
  cfgEntries.mapM fun cfg => do
    let tensors ← cfgRel.mapM (attachTensor tables cfg)
    pure ⟨cfg, tensors⟩

/-- `cfg_map[job.config]`: the last config of the dictionary's entries under that id. -/
def cfgMapLookup (cfgMap : List (SqlValue × ConfigEntry)) (job : Entry) :
    Except PyError (Entry × ConfigEntry) := do
  match cfgMap.reverse.lookup (← getattr job "config") with
  | some cfg => pure (job, cfg)
  | none => throw .keyError

section Build

variable {Kwargs : Type} (library : Library Kwargs) (tables : String → List Entry)

/-- `MIOpen.compose_work_objs_fin`. -/
def composeWorkObjsFin (jobEntries : List Entry) : Except PyError (List (Entry × ConfigEntry)) :=
  if jobEntries.isEmpty then
    .ok []
  else do
    let configs ← jobEntries.mapM (getattr · "config")
    let ids ← configs.mapM configId
    let cfgEntries ← attachTensors tables library.cfgRel
      (selectValidConfigs (tables library.configTable) ids)
    let cfgMap ← cfgEntries.mapM fun cfg => do pure ((← getattr cfg.row "id"), cfg)
    jobEntries.mapM (cfgMapLookup cfgMap)

/--
Modelled from the spec: `serialize_chunk` (`tuna/utils/utility.py`) is not
in the source.  It makes of each (job, config) pair a transportable copy
holding the same attributes, so the pairs stand for their copies.
-/
def serializeChunk (entries : List (Entry × ConfigEntry)) : List (Entry × ConfigEntry) :=
  entries

/-- `MIOpen.serialize_jobs`. -/
def serializeJobs (batchJobs : List Entry) : Except PyError (List (Entry × ConfigEntry)) :=
  serializeChunk <$> composeWorkObjsFin library tables batchJobs

theorem serializeJobs_eq (batchJobs : List Entry) :
    serializeJobs library tables batchJobs = composeWorkObjsFin library tables batchJobs := by
  unfold serializeJobs serializeChunk
  cases composeWorkObjsFin library tables batchJobs <;> rfl

/-- `list.remove(value)`: the first occurrence dropped, `ValueError` when there is none. -/
def listRemove (value : String) (values : List String) : Except PyError (List String) :=
  if value ∈ values then .ok (values.erase value) else .error .valueError

/-- `MIOpen.get_fdb_attr`: the find-db columns without the two timestamps. -/
def getFdbAttr : Except PyError (List String) := do
  let fdbAttr ← listRemove "insert_ts" library.fdbColumns
  listRemove "update_ts" fdbAttr

/-- The dictionary `build_context` makes for one pair. -/
structure Context (Kwargs : Type) where
  job : Entry
  config : ConfigEntry
  operation : Operation
  arch : String
  numCu : Nat
  kwargs : Kwargs
  fdbAttr : List String

/-- `MIOpen.build_context`. -/
def buildContext (serializedJobs : List (Entry × ConfigEntry)) :
    Except PyError (List (Context Kwargs)) := do
  let fdbAttr ← getFdbAttr library
  pure (serializedJobs.map fun (job, config) =>
    ⟨job, config, library.operation, library.arch, library.numCu, library.kwargs, fdbAttr⟩)

end Build

/-! ## What a successful build says -/

theorem except_bind_eq_ok {ε α β : Type} {x : Except ε α} {f : α → Except ε β} {b : β} :
    x >>= f = .ok b ↔ ∃ a, x = .ok a ∧ f a = .ok b := by
  cases x <;> simp [bind, Except.bind]

@[simp] theorem except_ok_bind {ε α β : Type} (a : α) (f : α → Except ε β) :
    (Except.ok a >>= f) = f a := rfl

theorem mapM_eq_ok {ε α β : Type} {f : α → Except ε β} {xs : List α} {ys : List β} :
    xs.mapM f = .ok ys ↔ List.Forall₂ (fun x y => f x = .ok y) xs ys := by
  induction xs generalizing ys with
  | nil =>
      rw [List.mapM_nil, List.forall₂_nil_left_iff]
      simp [pure, Except.pure, eq_comm]
  | cons x xs inductionHypothesis =>
      rw [List.mapM_cons, List.forall₂_cons_left_iff]
      simp only [except_bind_eq_ok, inductionHypothesis, pure, Except.pure, Except.ok.injEq]
      constructor
      · rintro ⟨y, first, later, rest, rfl⟩
        exact ⟨y, later, first, rest, rfl⟩
      · rintro ⟨y, later, first, rest, rfl⟩
        exact ⟨y, first, later, rest, rfl⟩

theorem Forall₂.exists_of_mem_right {α β : Type} {R : α → β → Prop} {xs : List α} {ys : List β}
    (related : List.Forall₂ R xs ys) {y : β} (member : y ∈ ys) : ∃ x ∈ xs, R x y := by
  induction related with
  | nil => cases member
  | cons head _ inductionHypothesis =>
      rcases List.mem_cons.mp member with rfl | later
      · exact ⟨_, List.mem_cons_self _ _, head⟩
      · obtain ⟨x, present, holds⟩ := inductionHypothesis later
        exact ⟨x, List.mem_cons_of_mem _ present, holds⟩

theorem Forall₂.exists_of_mem_left {α β : Type} {R : α → β → Prop} {xs : List α} {ys : List β}
    (related : List.Forall₂ R xs ys) {x : α} (member : x ∈ xs) : ∃ y ∈ ys, R x y := by
  induction related with
  | nil => cases member
  | cons head _ inductionHypothesis =>
      rcases List.mem_cons.mp member with rfl | later
      · exact ⟨_, List.mem_cons_self _ _, head⟩
      · obtain ⟨y, present, holds⟩ := inductionHypothesis later
        exact ⟨y, List.mem_cons_of_mem _ present, holds⟩

theorem mapM_exists_ok {ε α β : Type} {f : α → Except ε β} {l : List α}
    (each : ∀ x ∈ l, ∃ y, f x = .ok y) : ∃ ys, l.mapM f = .ok ys := by
  induction l with
  | nil => exact ⟨[], rfl⟩
  | cons x xs inductionHypothesis =>
      obtain ⟨y, first⟩ := each x (List.mem_cons_self _ _)
      obtain ⟨ys, rest⟩ :=
        inductionHypothesis fun other member => each other (List.mem_cons_of_mem _ member)
      exact ⟨y :: ys, mapM_eq_ok.mpr (.cons first (mapM_eq_ok.mp rest))⟩

theorem getattr_eq_ok {entry : Entry} {name : String} {value : SqlValue} :
    getattr entry name = .ok value ↔ entry.lookup name = some value := by
  unfold getattr
  cases entry.lookup name <;> simp

/-- A relationship attribute is the first row of the referenced table whose
referenced column holds the config's key. -/
def Attached (tables : String → List Entry) (cfgRel : List Relationship) (row : Entry)
    (tensors : List (String × Entry)) : Prop :=
  List.Forall₂ (fun rel tensor => tensor.1 = rel.name ∧ ∃ key,
      row.lookup rel.key = some (.int key) ∧
        (tables rel.ftble).find? (fun other => other.lookup rel.fkey == some (.int key)) =
          some tensor.2)
    cfgRel tensors

theorem attachTensor_eq_ok {tables : String → List Entry} {cfg : Entry} {rel : Relationship}
    {tensor : String × Entry} (attached : attachTensor tables cfg rel = .ok tensor) :
    tensor.1 = rel.name ∧ ∃ key, cfg.lookup rel.key = some (.int key) ∧
      (tables rel.ftble).find? (fun other => other.lookup rel.fkey == some (.int key)) =
        some tensor.2 := by
  simp only [attachTensor, except_bind_eq_ok, getattr_eq_ok] at attached
  obtain ⟨relVal, keyed, rows, selected, first⟩ := attached
  cases relVal with
  | int key =>
      simp only [selectWhere, Except.ok.injEq] at selected
      subst selected
      split at first
      · rename_i row later found
        simp only [pure, Except.pure, Except.ok.injEq] at first
        subst first
        refine ⟨rfl, key, keyed, ?_⟩
        rw [← List.filter_head?, found]
        rfl
      · cases first
  | _ => cases selected

theorem attachTensors_eq_ok {tables : String → List Entry} {cfgRel : List Relationship}
    {rows : List Entry} {cfgEntries : List ConfigEntry}
    (attached : attachTensors tables cfgRel rows = .ok cfgEntries) :
    List.Forall₂ (fun row cfg => cfg.row = row ∧ Attached tables cfgRel row cfg.tensors)
      rows cfgEntries := by
  refine (mapM_eq_ok.mp attached).imp fun row cfg built => ?_
  obtain ⟨tensors, found, equal⟩ := except_bind_eq_ok.mp built
  simp only [pure, Except.pure, Except.ok.injEq] at equal
  subst equal
  exact ⟨rfl, (mapM_eq_ok.mp found).imp fun _ _ => attachTensor_eq_ok⟩

/-- `cfg_map[job.config]` finds an entry of the map under the job's config. -/
theorem cfgMapLookup_eq_ok {cfgMap : List (SqlValue × ConfigEntry)} {job : Entry}
    {pair : Entry × ConfigEntry} (found : cfgMapLookup cfgMap job = .ok pair) :
    pair.1 = job ∧ ∃ id, job.lookup "config" = some id ∧ (id, pair.2) ∈ cfgMap := by
  obtain ⟨id, configured, looked⟩ := except_bind_eq_ok.mp found
  split at looked
  · rename_i cfg present
    cases looked
    obtain ⟨before, after, split, -⟩ := List.lookup_eq_some_iff.mp present
    refine ⟨rfl, id, getattr_eq_ok.mp configured, List.mem_reverse.mp ?_⟩
    rw [split]
    simp
  · cases looked

section Sound

variable {Kwargs : Type} (library : Library Kwargs) (tables : String → List Entry)

/-- A pair serves a job: it holds the job, and a valid row of the config
table whose id is the job's config, with its relationship rows. -/
def Serves (job : Entry) (pair : Entry × ConfigEntry) : Prop :=
  pair.1 = job ∧ pair.2.row ∈ tables library.configTable ∧
    pair.2.row.lookup "valid" = some (.int 1) ∧ pair.2.row.lookup "id" = job.lookup "config" ∧
    Attached tables library.cfgRel pair.2.row pair.2.tensors

/-- A successful `compose_work_objs_fin` serves each job of the batch, in order. -/
theorem composeWorkObjsFin_sound {jobEntries : List Entry} {pairs : List (Entry × ConfigEntry)}
    (built : composeWorkObjsFin library tables jobEntries = .ok pairs) :
    List.Forall₂ (Serves library tables) jobEntries pairs := by
  unfold composeWorkObjsFin at built
  split at built
  · rename_i empty
    cases built
    rw [List.isEmpty_iff.mp empty]
    exact .nil
  · simp only [except_bind_eq_ok] at built
    obtain ⟨configs, -, ids, -, cfgEntries, attached, cfgMap, mapped, looked⟩ := built
    refine (mapM_eq_ok.mp looked).imp fun job pair found => ?_
    obtain ⟨rfl, id, configured, member⟩ := cfgMapLookup_eq_ok found
    obtain ⟨cfg, present, keyed⟩ := Forall₂.exists_of_mem_right (mapM_eq_ok.mp mapped) member
    obtain ⟨cfgId, idAt, same⟩ := except_bind_eq_ok.mp keyed
    simp only [pure, Except.pure, Except.ok.injEq, Prod.mk.injEq] at same
    obtain ⟨rfl, rfl⟩ := same
    obtain ⟨row, selected, rfl, attachedRow⟩ :=
      Forall₂.exists_of_mem_right (attachTensors_eq_ok attached) present
    simp only [selectValidConfigs, List.mem_filter, Bool.and_eq_true, beq_iff_eq] at selected
    exact ⟨rfl, selected.1, selected.2.1, (getattr_eq_ok.mp idAt).trans configured.symm,
      attachedRow⟩

theorem getFdbAttr_eq_ok (insertTs : "insert_ts" ∈ library.fdbColumns)
    (updateTs : "update_ts" ∈ library.fdbColumns) :
    getFdbAttr library = .ok ((library.fdbColumns.erase "insert_ts").erase "update_ts") := by
  have kept : "update_ts" ∈ library.fdbColumns.erase "insert_ts" :=
    (List.mem_erase_of_ne (by decide)).mpr updateTs
  simp [getFdbAttr, listRemove, insertTs, kept, bind, Except.bind]

/--
Every context list a build returns has one context for each job of the
batch, in order: it holds the job, a valid config row whose id is the job's
config with its relationship rows, the operation, the session's arch and
num_cu, and the find-db columns `get_fdb_attr` gives.
-/
theorem buildContext_sound {batchJobs : List Entry} {contexts : List (Context Kwargs)}
    (built : (serializeJobs library tables batchJobs).bind (buildContext library) =
      .ok contexts) :
    List.Forall₂ (fun job context => Serves library tables job (context.job, context.config) ∧
        context.operation = library.operation ∧ context.arch = library.arch ∧
        context.numCu = library.numCu ∧ getFdbAttr library = .ok context.fdbAttr)
      batchJobs contexts := by
  obtain ⟨pairs, composed, contexted⟩ := except_bind_eq_ok.mp built
  rw [serializeJobs_eq] at composed
  obtain ⟨fdbAttr, fdb, listed⟩ := except_bind_eq_ok.mp contexted
  simp only [pure, Except.pure, Except.ok.injEq] at listed
  subst listed
  rw [List.forall₂_map_right_iff]
  exact (composeWorkObjsFin_sound library tables composed).imp
    fun _ _ serves => ⟨serves, rfl, rfl, rfl, fdb⟩

/-- A batch holding a job whose config has no valid row is never built: the
job is not skipped, the whole batch fails. -/
theorem buildContext_fails_of_invalid {batchJobs : List Entry} {job : Entry}
    (present : job ∈ batchJobs)
    (invalid : ∀ row ∈ tables library.configTable, row.lookup "id" = job.lookup "config" →
      row.lookup "valid" ≠ some (.int 1))
    (contexts : List (Context Kwargs)) :
    (serializeJobs library tables batchJobs).bind (buildContext library) ≠ .ok contexts := by
  intro built
  obtain ⟨context, -, ⟨-, inTable, validRow, keyed, -⟩, -⟩ :=
    Forall₂.exists_of_mem_left (buildContext_sound library tables built) present
  exact invalid _ inTable keyed validRow

/-- The batch's configs are valid rows of the config table, the relationship
keys of those rows name rows of the referenced tables, and the find-db table
has both timestamps. -/
structure ValidBatch (batchJobs : List Entry) : Prop where
  configured : ∀ job ∈ batchJobs, ∃ id, job.lookup "config" = some (.int id) ∧
    ∃ row ∈ tables library.configTable,
      row.lookup "id" = some (.int id) ∧ row.lookup "valid" = some (.int 1)
  resolved : ∀ row ∈ tables library.configTable, row.lookup "valid" = some (.int 1) →
    (∃ job ∈ batchJobs, row.lookup "id" = job.lookup "config") →
    ∀ rel ∈ library.cfgRel, ∃ key, row.lookup rel.key = some (.int key) ∧
      ∃ other ∈ tables rel.ftble, other.lookup rel.fkey = some (.int key)
  insertTs : "insert_ts" ∈ library.fdbColumns
  updateTs : "update_ts" ∈ library.fdbColumns

theorem attachTensor_exists {row : Entry} {rel : Relationship} {key : Int}
    (keyed : row.lookup rel.key = some (.int key)) {other : Entry}
    (present : other ∈ tables rel.ftble) (references : other.lookup rel.fkey = some (.int key)) :
    ∃ tensor, attachTensor tables row rel = .ok tensor := by
  have found : other ∈ (tables rel.ftble).filter
      fun row => row.lookup rel.fkey == some (.int key) :=
    List.mem_filter.mpr ⟨present, by simp [references]⟩
  obtain ⟨first, later, listed⟩ := List.exists_cons_of_ne_nil (List.ne_nil_of_mem found)
  refine ⟨(rel.name, first), ?_⟩
  simp [attachTensor, getattr, keyed, selectWhere, listed, bind, Except.bind, pure, Except.pure]

theorem attachTensors_exists {rows : List Entry}
    (resolved : ∀ row ∈ rows, ∀ rel ∈ library.cfgRel, ∃ key,
      row.lookup rel.key = some (.int key) ∧
        ∃ other ∈ tables rel.ftble, other.lookup rel.fkey = some (.int key)) :
    ∃ cfgEntries, attachTensors tables library.cfgRel rows = .ok cfgEntries := by
  refine mapM_exists_ok fun row member => ?_
  obtain ⟨tensors, found⟩ := mapM_exists_ok fun rel relMember => by
    obtain ⟨key, keyed, other, present, references⟩ := resolved row member rel relMember
    exact attachTensor_exists tables keyed present references
  exact ⟨⟨row, tensors⟩, by rw [found]; rfl⟩

/-- A batch of valid configs is built without an error. -/
theorem composeWorkObjsFin_complete {batchJobs : List Entry}
    (valid : ValidBatch library tables batchJobs) :
    ∃ pairs, composeWorkObjsFin library tables batchJobs = .ok pairs := by
  unfold composeWorkObjsFin
  split
  · exact ⟨[], rfl⟩
  obtain ⟨configs, gotConfigs⟩ := mapM_exists_ok (f := (getattr · "config")) fun job member =>
    let ⟨id, configured, _⟩ := valid.configured job member
    ⟨.int id, getattr_eq_ok.mpr configured⟩
  have configsRel := mapM_eq_ok.mp gotConfigs
  obtain ⟨ids, gotIds⟩ := mapM_exists_ok (f := configId) (l := configs) fun config member => by
    obtain ⟨job, present, got⟩ := Forall₂.exists_of_mem_right configsRel member
    obtain ⟨id, configured, -⟩ := valid.configured job present
    rw [getattr_eq_ok, configured] at got
    cases got
    exact ⟨id, rfl⟩
  have idsRel := mapM_eq_ok.mp gotIds
  have listed : ∀ job ∈ batchJobs, ∀ id, job.lookup "config" = some (.int id) → id ∈ ids := by
    intro job present id configured
    obtain ⟨config, member, got⟩ := Forall₂.exists_of_mem_left configsRel present
    rw [getattr_eq_ok, configured] at got
    cases got
    obtain ⟨same, member, got⟩ := Forall₂.exists_of_mem_left idsRel member
    cases got
    exact member
  have selectedRows : ∀ row ∈ selectValidConfigs (tables library.configTable) ids,
      row ∈ tables library.configTable ∧ row.lookup "valid" = some (.int 1) ∧
        ∃ id ∈ ids, row.lookup "id" = some (.int id) := by
    intro row member
    simpa [selectValidConfigs] using member
  obtain ⟨cfgEntries, gotCfg⟩ := attachTensors_exists library tables fun row member => by
    obtain ⟨inTable, validRow, id, idMember, idAt⟩ := selectedRows row member
    refine valid.resolved row inTable validRow ?_
    obtain ⟨config, member, got⟩ := Forall₂.exists_of_mem_right idsRel idMember
    obtain ⟨job, present, gotJob⟩ := Forall₂.exists_of_mem_right configsRel member
    cases config <;> simp only [configId, Except.ok.injEq, reduceCtorEq] at got
    subst got
    exact ⟨job, present, idAt.trans (getattr_eq_ok.mp gotJob).symm⟩
  have cfgRel := attachTensors_eq_ok gotCfg
  obtain ⟨cfgMap, gotMap⟩ := mapM_exists_ok (l := cfgEntries)
      (f := fun cfg => do pure ((← getattr cfg.row "id"), cfg)) fun cfg member => by
    obtain ⟨row, rowMember, rowEq, -⟩ := Forall₂.exists_of_mem_right cfgRel member
    obtain ⟨-, -, id, -, idAt⟩ := selectedRows row rowMember
    rw [← rowEq] at idAt
    exact ⟨(.int id, cfg), by simp [getattr, idAt, bind, Except.bind, pure, Except.pure]⟩
  have mapRel := mapM_eq_ok.mp gotMap
  obtain ⟨pairs, gotPairs⟩ := mapM_exists_ok (l := batchJobs) (f := cfgMapLookup cfgMap)
      fun job present => by
    obtain ⟨id, configured, row, inTable, idAt, validRow⟩ := valid.configured job present
    have rowSelected : row ∈ selectValidConfigs (tables library.configTable) ids :=
      List.mem_filter.mpr ⟨inTable, by simp [validRow, idAt, listed job present id configured]⟩
    obtain ⟨cfg, cfgMember, rowEq, -⟩ := Forall₂.exists_of_mem_left cfgRel rowSelected
    obtain ⟨entry, entryMember, gotEntry⟩ := Forall₂.exists_of_mem_left mapRel cfgMember
    have keyed : entry = (.int id, cfg) := by
      simp only [getattr, rowEq, idAt, bind, Except.bind, pure, Except.pure,
        Except.ok.injEq] at gotEntry
      exact gotEntry.symm
    obtain ⟨found, foundAt⟩ := Option.isSome_iff_exists.mp
      ((List.lookup_isSome_iff (k := SqlValue.int id) (l := cfgMap.reverse)).mpr
        ⟨entry, List.mem_reverse.mpr entryMember, by simp [keyed]⟩)
    exact ⟨(job, found), by
      simp [cfgMapLookup, getattr, configured, foundAt, bind, Except.bind, pure, Except.pure]⟩
  exact ⟨pairs, by simp only [gotConfigs, except_ok_bind, gotIds, gotCfg, gotMap, gotPairs]⟩

/--
For a batch whose configs are valid rows whose relationship keys name
existing rows, `serialize_jobs` followed by `build_context` raises nothing
and gives one context for each job, in batch order.  Each holds the job, the
valid config row whose id is the job's config with its relationship rows,
the operation, the session's arch and num_cu, and the find-db columns
without `insert_ts` and `update_ts`.
-/
theorem buildContext_of_validBatch {batchJobs : List Entry}
    (valid : ValidBatch library tables batchJobs) :
    ∃ contexts, (serializeJobs library tables batchJobs).bind (buildContext library) =
        .ok contexts ∧
      List.Forall₂ (fun job context => Serves library tables job (context.job, context.config) ∧
          context.operation = library.operation ∧ context.arch = library.arch ∧
          context.numCu = library.numCu ∧
          context.fdbAttr = (library.fdbColumns.erase "insert_ts").erase "update_ts")
        batchJobs contexts := by
  obtain ⟨pairs, composed⟩ := composeWorkObjsFin_complete library tables valid
  have fdb := getFdbAttr_eq_ok library valid.insertTs valid.updateTs
  have built : (serializeJobs library tables batchJobs).bind (buildContext library) =
      .ok (pairs.map fun (job, config) => ⟨job, config, library.operation, library.arch,
        library.numCu, library.kwargs, (library.fdbColumns.erase "insert_ts").erase "update_ts"⟩) := by
    rw [serializeJobs_eq, composed]
    simp only [Except.bind, buildContext, fdb, except_ok_bind]
    rfl
  exact ⟨_, built, (buildContext_sound library tables built).imp
    fun _ _ ⟨serves, operation, arch, numCu, got⟩ =>
      ⟨serves, operation, arch, numCu, (Except.ok.inj (fdb.symm.trans got)).symm⟩⟩

end Sound

/-- A convolution library whose config table has no relationships. -/
def convLibrary : Library Unit where
  configTable := "conv_config"
  cfgRel := []
  fdbColumns := ["id", "config", "insert_ts", "update_ts"]
  arch := "gfx90a"
  numCu := 104
  operation := .compile
  kwargs := ()

/-- A config table whose one config has been invalidated. -/
def invalidatedConfig : String → List Entry
  | "conv_config" => [[("id", .int 7), ("valid", .int 0)]]
  | _ => []

theorem serializeJobs_invalidated_config_raises :
    (serializeJobs convLibrary invalidatedConfig [[("id", .int 1), ("config", .int 7)]]).bind
        (buildContext convLibrary) =
      .error .keyError :=
  rfl

theorem buildContext_fails_on_invalidated_config :
    [("id", .int 1), ("config", .int 7)] ∈ [[("id", SqlValue.int 1), ("config", .int 7)]] ∧
      (∀ row ∈ invalidatedConfig convLibrary.configTable,
        row.lookup "id" = [("id", SqlValue.int 1), ("config", .int 7)].lookup "config" →
          row.lookup "valid" ≠ some (.int 1)) ∧
      (serializeJobs convLibrary invalidatedConfig [[("id", .int 1), ("config", .int 7)]]).bind
        (buildContext convLibrary) ≠ .ok [] :=
  ⟨List.mem_singleton_self _, by decide,
    buildContext_fails_of_invalid convLibrary invalidatedConfig (List.mem_singleton_self _)
      (by decide) []⟩

/-- The same config table with its config still valid. -/
def validConfig : String → List Entry
  | "conv_config" => [[("id", .int 7), ("valid", .int 1)]]
  | _ => []

theorem buildContext_of_valid_config :
    ValidBatch convLibrary validConfig [[("id", .int 1), ("config", .int 7)]] ∧
      ∃ contexts, (serializeJobs convLibrary validConfig
          [[("id", .int 1), ("config", .int 7)]]).bind (buildContext convLibrary) = .ok contexts ∧
        List.Forall₂ (fun job context =>
            Serves convLibrary validConfig job (context.job, context.config) ∧
            context.operation = convLibrary.operation ∧ context.arch = convLibrary.arch ∧
            context.numCu = convLibrary.numCu ∧
            context.fdbAttr = (convLibrary.fdbColumns.erase "insert_ts").erase "update_ts")
          [[("id", .int 1), ("config", .int 7)]] contexts :=
  have valid : ValidBatch convLibrary validConfig [[("id", .int 1), ("config", .int 7)]] :=
    ⟨fun job member => by
        rw [List.mem_singleton] at member
        subst member
        exact ⟨7, rfl, _, List.mem_singleton_self _, rfl, rfl⟩,
      fun _ _ _ _ rel member => absurd member (List.not_mem_nil rel), by decide, by decide⟩
  ⟨valid, buildContext_of_validBatch convLibrary validConfig valid⟩

end MITuna
