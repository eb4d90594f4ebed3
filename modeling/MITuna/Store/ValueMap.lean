import Mathlib.Data.Char
import Mathlib.Data.List.Lex
import Mathlib.Data.List.Sort
import MITuna.MIOpen.Context

namespace MITuna.Sql

/-!
# Keys of rows by their values

`build_dict_val_key` (`tuna/utils/db_utility.py`) turns an object into a key:
it drops the excluded attributes, sorts the names that are left and joins the
`str` of their values with `-`.  `get_session_val_map` selects every row of a
table and maps each row's key, with its id excluded, to that id.  The join
does not escape the separator, so the key forgets where one value ends when a
value's text holds a `-`, and `str` prints `NULL` as the string `'None'` does.
Where no value's text holds a `-`, two rows of one table get one key exactly
when their values print alike.

`SimpleDict` (`tuna/utils/utility.py`) is not in the source: an object is the
dict of the attributes `db_rows_to_obj` set on it, which is what `to_dict`
returns.
-/

/-- Python's `str` of a value the driver returns. -/
def SqlValue.format : SqlValue → String
  | .null => "None"
  | .int value => toString value
  | .str text => text

/-- A Python dict keyed by attribute names: its entries in insertion order,
each name once. -/
structure AttrDict where
  entries : List (String × SqlValue)
  distinct : (entries.map Prod.fst).Nodup

namespace AttrDict

/-- The names, as `keys()` lists them. -/
def names (dict : AttrDict) : List String :=
  dict.entries.map Prod.fst

/-- The empty dict. -/
def empty : AttrDict :=
  ⟨[], List.nodup_nil⟩

/-- `dict[name] = value`, and `setattr`, which writes the object's dict: a new
name goes last, a present one keeps its place. -/
def set (dict : AttrDict) (name : String) (value : SqlValue) : AttrDict :=
  if present : name ∈ dict.names then
    ⟨dict.entries.map fun entry => if entry.1 = name then (name, value) else entry, by
      rw [List.map_map]
      convert dict.distinct using 2
      funext entry
      by_cases same : entry.1 = name <;> simp [same]⟩
  else
    ⟨dict.entries ++ [(name, value)], by
      rw [List.map_append, List.nodup_append]
      exact ⟨dict.distinct, List.nodup_singleton _,
        by simpa [List.disjoint_singleton, names] using present⟩⟩

/-- `dict.pop(name, False)`: the entry of `name` goes, if there is one. -/
def pop (dict : AttrDict) (name : String) : AttrDict :=
  ⟨dict.entries.filter fun entry => entry.1 ≠ name,
    (List.filter_sublist dict.entries).map Prod.fst |>.nodup dict.distinct⟩

/-- `dict[name]` is the value of the one entry of `name`. -/
theorem lookup_eq_some_iff {dict : AttrDict} {name : String} {value : SqlValue} :
    dict.entries.lookup name = some value ↔ (name, value) ∈ dict.entries := by
  rw [List.lookup_eq_some_iff]
  constructor
  · rintro ⟨before, after, split, -⟩
    simp [split]
  · intro member
    obtain ⟨before, after, split⟩ := List.append_of_mem member
    have distinct := dict.distinct
    rw [split, List.map_append, List.nodup_append] at distinct
    refine ⟨before, after, split, fun entry early => bne_iff_ne.mpr fun same => ?_⟩
    exact distinct.2.2 (List.mem_map_of_mem Prod.fst early) (same ▸ List.mem_cons_self _ _)

theorem mem_set {dict : AttrDict} {name : String} {value : SqlValue} {entry : String × SqlValue} :
    entry ∈ (dict.set name value).entries ↔
      entry = (name, value) ∨ entry ∈ dict.entries ∧ entry.1 ≠ name := by
  unfold set
  split
  · next present =>
    simp only [List.mem_map]
    constructor
    · rintro ⟨old, member, rfl⟩
      by_cases same : old.1 = name <;> simp [same, member]
    · rintro (rfl | ⟨member, other⟩)
      · obtain ⟨old, member, same⟩ := List.mem_map.mp present
        exact ⟨old, member, by simp [same]⟩
      · exact ⟨entry, member, by simp [other]⟩
  · next absent =>
    simp only [List.mem_append, List.mem_singleton]
    constructor
    · rintro (member | rfl)
      · exact .inr ⟨member, fun same => absent (same ▸ List.mem_map_of_mem Prod.fst member)⟩
      · exact .inl rfl
    · rintro (rfl | ⟨member, -⟩)
      · exact .inr rfl
      · exact .inl member

/-- `dict[name] = value` writes `name` and no other name. -/
theorem lookup_set (dict : AttrDict) (name other : String) (value : SqlValue) :
    (dict.set name value).entries.lookup other =
      if other = name then some value else dict.entries.lookup other := by
  refine Option.ext fun found => ?_
  rw [Option.mem_def, lookup_eq_some_iff, mem_set]
  split_ifs with same
  · subst same
    simp [eq_comm]
  · simp [same, lookup_eq_some_iff]

end AttrDict

/-- `db_rows_to_obj` on one row: a `SimpleDict` with each selected column set in turn. -/
def dbRowToObj (row : Entry) : AttrDict :=
  row.foldl (fun obj column => obj.set column.1 column.2) AttrDict.empty

/-! ## The order of `sorted` -/

/-- `textLt` is the lexicographic order of code points. -/
theorem textLt_iff_lex : ∀ first second : List Char,
    textLt first second = true ↔ List.Lex (· < ·) first second
  | _, [] => by simp [textLt, List.Lex.not_nil_right]
  | [], _ :: _ => by simpa [textLt] using List.Lex.nil
  | c :: rest, d :: others => by
      by_cases same : c = d
      · subst same
        rw [textLt, if_pos rfl, textLt_iff_lex rest others, List.Lex.cons_iff]
      · rw [textLt, if_neg same, decide_eq_true_iff]
        constructor
        · exact fun below => .rel (show c < d from below)
        · intro below
          cases below with
          | cons => exact absurd rfl same
          | rel below => exact below

theorem textLt_asymm {first second : List Char} (below : textLt first second = true) :
    textLt second first = false := by
  rw [← Bool.not_eq_true, textLt_iff_lex]
  exact asymm ((textLt_iff_lex first second).mp below)

theorem textLt_trichotomous (first second : List Char) :
    textLt first second = true ∨ first = second ∨ textLt second first = true := by
  simpa only [textLt_iff_lex] using
    trichotomous_of (List.Lex (· < · : Char → Char → Prop)) first second

theorem textLt_trans {first second third : List Char} (below : textLt first second = true)
    (above : textLt second third = true) : textLt first third = true := by
  rw [textLt_iff_lex] at *
  exact trans_of (List.Lex (· < · : Char → Char → Prop)) below above

/-- The order `sorted` puts names in. -/
def NameLe (first second : String) : Prop :=
  textLt second.data first.data = false

instance : DecidableRel NameLe :=
  fun _ _ => inferInstanceAs (Decidable (_ = false))

instance : IsTotal String NameLe where
  total first second := by
    cases above : textLt second.data first.data
    · exact .inl above
    · exact .inr (textLt_asymm above)

instance : IsAntisymm String NameLe where
  antisymm first second below above := by
    rcases textLt_trichotomous first.data second.data with less | same | greater
    · exact absurd less (by simpa [NameLe] using above)
    · exact String.ext same
    · exact absurd greater (by simpa [NameLe] using below)

instance : IsTrans String NameLe where
  trans first second third below above := by
    unfold NameLe at *
    cases order : textLt third.data first.data
    · rfl
    rcases textLt_trichotomous third.data second.data with less | same | greater
    · rw [less] at above
      cases above
    · rw [same, below] at order
      cases order
    · rw [textLt_trans greater order] at below
      cases below

/-- Two dicts with the same names list them in one order. -/
theorem insertionSort_names_eq {first second : List String} (perm : first.Perm second) :
    first.insertionSort NameLe = second.insertionSort NameLe :=
  List.eq_of_perm_of_sorted
    ((List.perm_insertionSort _ _).trans (perm.trans (List.perm_insertionSort _ _).symm))
    (List.sorted_insertionSort _ _) (List.sorted_insertionSort _ _)

/--
`build_dict_val_key`: the excluded names popped, then `'-'.join` of the `str`
of `obj_dict[key]` for each `key` of `sorted(obj_dict.keys())`, that is of
the values of the entries in the order of their names.
-/
def buildDictValKey (obj : AttrDict) (exclude : List String) : String :=
  let objDict := exclude.foldl AttrDict.pop obj
  "-".intercalate
    ((objDict.entries.insertionSort fun first second => NameLe first.1 second.1).map
      fun entry => entry.2.format)

/-! ## What the key keeps -/

/-- The attributes left once the excluded names are popped. -/
theorem foldl_pop_entries (obj : AttrDict) (exclude : List String) :
    (exclude.foldl AttrDict.pop obj).entries =
      obj.entries.filter fun entry => entry.1 ∉ exclude := by
  induction exclude generalizing obj with
  | nil => simp
  | cons name exclude inductionHypothesis =>
      rw [List.foldl_cons, inductionHypothesis, AttrDict.pop, List.filter_filter]
      exact List.filter_congr fun entry _ => by simp [Bool.and_comm]

/-- The entries a key is made of, in the order of their names. -/
def keyEntries (obj : AttrDict) (exclude : List String) : List (String × SqlValue) :=
  (obj.entries.filter fun entry => entry.1 ∉ exclude).insertionSort
    fun first second => NameLe first.1 second.1

theorem buildDictValKey_eq (obj : AttrDict) (exclude : List String) :
    buildDictValKey obj exclude =
      "-".intercalate ((keyEntries obj exclude).map fun entry => entry.2.format) := by
  simp only [buildDictValKey, foldl_pop_entries, keyEntries]

theorem mem_keyEntries {obj : AttrDict} {exclude : List String} {entry : String × SqlValue} :
    entry ∈ keyEntries obj exclude ↔ entry ∈ obj.entries ∧ entry.1 ∉ exclude := by
  simp [keyEntries, List.mem_insertionSort]

/-- The names of the key's entries are `sorted(obj_dict.keys())`. -/
theorem keyEntries_names (obj : AttrDict) (exclude : List String) :
    (keyEntries obj exclude).map Prod.fst =
      (obj.names.filter fun name => name ∉ exclude).insertionSort NameLe := by
  rw [keyEntries, List.map_insertionSort _ NameLe _ _ fun _ _ _ _ => Iff.rfl,
    AttrDict.names, List.filter_map]
  rfl

theorem keyEntries_names_nodup (obj : AttrDict) (exclude : List String) :
    ((keyEntries obj exclude).map Prod.fst).Nodup := by
  rw [keyEntries_names]
  exact (List.perm_insertionSort _ _).nodup_iff.mpr (obj.distinct.filter _)

theorem keyEntries_names_eq {first second : AttrDict} (sameNames : first.names.Perm second.names)
    (exclude : List String) :
    (keyEntries first exclude).map Prod.fst = (keyEntries second exclude).map Prod.fst := by
  rw [keyEntries_names, keyEntries_names, insertionSort_names_eq (sameNames.filter _)]

/-- `'-'.join` forgets nothing of parts that hold no `-`: splitting at `-`
gives them back. -/
theorem intercalate_dash_injective {parts others : List String}
    (lengths : parts.length = others.length) (dashFree : ∀ text ∈ parts ++ others, '-' ∉ text.data)
    (joined : "-".intercalate parts = "-".intercalate others) : parts = others := by
  by_cases empty : parts = []
  · subst empty
    exact (List.length_eq_zero.mp lengths.symm).symm
  · have nonempty : others ≠ [] := fun none =>
      empty (List.length_eq_zero.mp (by simpa [none] using lengths))
    have split := congrArg (fun text => text.data.splitOn '-') joined
    simp only [intercalate_data, show "-".data = ['-'] from rfl] at split
    rw [List.splitOn_intercalate _ _
        (by simpa using fun text member => dashFree text (List.mem_append_left _ member))
        (by simpa using empty),
      List.splitOn_intercalate _ _
        (by simpa using fun text member => dashFree text (List.mem_append_right _ member))
        (by simpa using nonempty)] at split
    exact List.map_injective_iff.mpr (fun _ _ => String.ext) split

/-- Two lists of entries with one name sequence print alike exactly when their
entries of one name do. -/
theorem map_format_eq_iff :
    ∀ {first second : List (String × SqlValue)}, first.map Prod.fst = second.map Prod.fst →
      (first.map Prod.fst).Nodup →
      (first.map (fun entry => entry.2.format) = second.map (fun entry => entry.2.format) ↔
        ∀ x ∈ first, ∀ y ∈ second, x.1 = y.1 → x.2.format = y.2.format)
  | [], [], _, _ => by simp
  | [], _ :: _, names, _ => by cases names
  | _ :: _, [], names, _ => by cases names
  | x :: first, y :: second, names, distinct => by
      obtain ⟨sameName, names⟩ := List.cons.inj names
      rw [List.map_cons, List.nodup_cons] at distinct
      have fresh : ∀ z ∈ second, x.1 ≠ z.1 := fun z member same =>
        distinct.1 (names ▸ same ▸ List.mem_map_of_mem Prod.fst member)
      have fresh' : ∀ z ∈ first, z.1 ≠ y.1 := fun z member same =>
        distinct.1 (sameName ▸ same ▸ List.mem_map_of_mem Prod.fst member)
      simp only [List.map_cons, List.cons.injEq, List.forall_mem_cons,
        map_format_eq_iff names distinct.2]
      constructor
      · rintro ⟨head, tail⟩
        exact ⟨⟨fun _ => head, fun z member same => absurd same (fresh z member)⟩,
          fun z member => ⟨fun same => absurd same (fresh' z member), tail z member⟩⟩
      · rintro ⟨⟨head, -⟩, tail⟩
        exact ⟨head sameName, fun z member => (tail z member).2⟩

/-- Where no kept value prints a `-`, two objects with one set of names get one
key exactly when their kept values print alike. -/
theorem buildDictValKey_eq_iff {first second : AttrDict} {exclude : List String}
    (sameNames : first.names.Perm second.names)
    (dashFree : ∀ entry ∈ first.entries ++ second.entries, entry.1 ∉ exclude →
      '-' ∉ entry.2.format.data) :
    buildDictValKey first exclude = buildDictValKey second exclude ↔
      ∀ x ∈ first.entries, ∀ y ∈ second.entries, x.1 = y.1 → x.1 ∉ exclude →
        x.2.format = y.2.format := by
  have names := keyEntries_names_eq sameNames exclude
  have prints := map_format_eq_iff names (keyEntries_names_nodup first exclude)
  rw [buildDictValKey_eq, buildDictValKey_eq]
  constructor
  · intro joined x xMember y yMember same kept
    refine prints.mp (intercalate_dash_injective ?_ ?_ joined) x
      (mem_keyEntries.mpr ⟨xMember, kept⟩) y (mem_keyEntries.mpr ⟨yMember, same ▸ kept⟩) same
    · simpa using congrArg List.length names
    · simp only [List.mem_append, List.mem_map]
      rintro _ (⟨entry, member, rfl⟩ | ⟨entry, member, rfl⟩) <;>
        obtain ⟨member, kept⟩ := mem_keyEntries.mp member
      · exact dashFree entry (List.mem_append_left _ member) kept
      · exact dashFree entry (List.mem_append_right _ member) kept
  · intro agree
    rw [prints.mpr fun x xMember y yMember same =>
      agree x (mem_keyEntries.mp xMember).1 y (mem_keyEntries.mp yMember).1 same
        (mem_keyEntries.mp xMember).2]

/-- The loop of `get_session_val_map` over the objects left, with the map so
far: each object's key gets its `val`, or `obj.to_dict()[val]` raises. -/
def fillValMap (val : String) : List AttrDict → AttrDict → Except PyError AttrDict
  | [], valMap => .ok valMap
  | obj :: objs, valMap =>
      match obj.entries.lookup val with
      | some id => fillValMap val objs (valMap.set (buildDictValKey obj [val]) id)
      | none => .error .keyError

/-- The loop raises `KeyError` exactly when an object has no `val`. -/
theorem fillValMap_ok_iff {val : String} : ∀ {objs : List AttrDict} {valMap : AttrDict},
    (∃ result, fillValMap val objs valMap = .ok result) ↔
      ∀ obj ∈ objs, ∃ id, obj.entries.lookup val = some id
  | [], valMap => by simp [fillValMap]
  | obj :: objs, valMap => by
      rw [fillValMap, List.forall_mem_cons]
      cases obj.entries.lookup val with
      | none => simp
      | some id => simpa using @fillValMap_ok_iff val objs _

/-- The map the loop ends with sends `key` to `id` when the map it starts from
does, or an object of that key is met, and every object of that key has `id`. -/
theorem fillValMap_lookup {val key : String} {id : SqlValue} :
    ∀ {objs : List AttrDict} {valMap result : AttrDict}, fillValMap val objs valMap = .ok result →
      (∀ obj ∈ objs, buildDictValKey obj [val] = key → obj.entries.lookup val = some id) →
      (valMap.entries.lookup key = some id ∨ ∃ obj ∈ objs, buildDictValKey obj [val] = key) →
      result.entries.lookup key = some id
  | [], valMap, result, filled, _, found => by
      cases filled
      simpa using found
  | obj :: objs, valMap, result, filled, agree, found => by
      rw [fillValMap] at filled
      split at filled
      · next found' =>
        refine fillValMap_lookup filled (fun other member => agree other (.tail _ member)) ?_
        rw [AttrDict.lookup_set]
        by_cases same : key = buildDictValKey obj [val]
        · rw [if_pos same, ← found', agree obj (.head _) same.symm]
          exact .inl rfl
        · rw [if_neg same]
          rcases found with found | ⟨other, member, sameKey⟩
          · exact .inl found
          · rcases List.mem_cons.mp member with rfl | member
            · exact absurd sameKey.symm same
            · exact .inr ⟨other, member, sameKey⟩
      · cases filled

/-- `get_session_val_map` on the rows `get_job_rows` returned for the table,
`none` where the `SELECT` failed and `gen_select_objs` returned `None`, which
the loop cannot iterate. -/
def getSessionValMap (selected : Option (List Entry)) (val : String) : Except PyError AttrDict :=
  match selected with
  | none => .error .typeError
  | some rows => fillValMap val (rows.map dbRowToObj) AttrDict.empty

/-- Where no value but `val` prints a `-` and the rows have the same columns,
`build_dict_val_key` gives two objects one key exactly when their kept values
print alike, and the map `get_session_val_map` returns finds each row's `val`
under the row's key unless a row that prints alike has another. -/
theorem getSessionValMap_keys_dash_free_rows :
    (∀ (first second : AttrDict) (exclude : List String), first.names.Perm second.names →
      (∀ entry ∈ first.entries ++ second.entries, entry.1 ∉ exclude →
        '-' ∉ entry.2.format.data) →
      (buildDictValKey first exclude = buildDictValKey second exclude ↔
        ∀ x ∈ first.entries, ∀ y ∈ second.entries, x.1 = y.1 → x.1 ∉ exclude →
          x.2.format = y.2.format)) ∧
    ∀ (rows : List Entry) (val : String) (valMap : AttrDict),
      getSessionValMap (some rows) val = .ok valMap →
      (∀ row ∈ rows, ∀ other ∈ rows, (dbRowToObj row).names.Perm (dbRowToObj other).names) →
      (∀ row ∈ rows, ∀ entry ∈ (dbRowToObj row).entries, entry.1 ≠ val →
        '-' ∉ entry.2.format.data) →
      ∀ row ∈ rows,
        (∀ other ∈ rows, (∀ x ∈ (dbRowToObj row).entries, ∀ y ∈ (dbRowToObj other).entries,
            x.1 = y.1 → x.1 ≠ val → x.2.format = y.2.format) →
          (dbRowToObj other).entries.lookup val = (dbRowToObj row).entries.lookup val) →
        valMap.entries.lookup (buildDictValKey (dbRowToObj row) [val]) =
          (dbRowToObj row).entries.lookup val := by
  refine ⟨fun _ _ _ => buildDictValKey_eq_iff, fun rows val valMap filled sameNames dashFree row
    member alike => ?_⟩
  have filled : fillValMap val (rows.map dbRowToObj) AttrDict.empty = .ok valMap := filled
  obtain ⟨id, found⟩ := fillValMap_ok_iff.mp ⟨valMap, filled⟩ _ (List.mem_map_of_mem _ member)
  rw [found]
  refine fillValMap_lookup filled (fun obj objMember sameKey => ?_)
    (.inr ⟨_, List.mem_map_of_mem _ member, rfl⟩)
  obtain ⟨other, otherMember, rfl⟩ := List.mem_map.mp objMember
  have keyDashFree : ∀ entry ∈ (dbRowToObj row).entries ++ (dbRowToObj other).entries,
      entry.1 ∉ [val] → '-' ∉ entry.2.format.data := by
    simp only [List.mem_append, List.mem_singleton]
    rintro entry (entryMember | entryMember) kept
    · exact dashFree row member entry entryMember kept
    · exact dashFree other otherMember entry entryMember kept
  rw [← found]
  exact alike other otherMember fun x xMember y yMember same kept =>
    (buildDictValKey_eq_iff (sameNames row member other otherMember) keyDashFree).mp
      sameKey.symm x xMember y yMember same (by simpa using kept)

/-- A row of a machine table, and another of a second machine. -/
def gfx908Row : Entry :=
  [("id", .int 1), ("arch", .str "gfx908"), ("num_cu", .int 120)]

def gfx90aRow : Entry :=
  [("id", .int 2), ("arch", .str "gfx90a"), ("num_cu", .int 104)]

/-- Their map: each key with its row's id. -/
def gfxMap : AttrDict :=
  ⟨[("gfx908-120", .int 1), ("gfx90a-104", .int 2)], by decide⟩

theorem getSessionValMap_keys_gfx_rows :
    (buildDictValKey (dbRowToObj gfx908Row) ["id"] = buildDictValKey (dbRowToObj gfx90aRow) ["id"] ↔
      ∀ x ∈ (dbRowToObj gfx908Row).entries, ∀ y ∈ (dbRowToObj gfx90aRow).entries, x.1 = y.1 →
        x.1 ∉ ["id"] → x.2.format = y.2.format) ∧
      getSessionValMap (some [gfx908Row, gfx90aRow]) "id" = .ok gfxMap ∧
      gfxMap.entries.lookup (buildDictValKey (dbRowToObj gfx90aRow) ["id"]) = some (.int 2) :=
  ⟨getSessionValMap_keys_dash_free_rows.1 _ _ _ (by decide) (by decide), rfl,
    getSessionValMap_keys_dash_free_rows.2 [gfx908Row, gfx90aRow] "id" gfxMap rfl (by decide)
      (by decide) _ (.tail _ (.head _)) (by decide)⟩

/-- Two rows whose values differ only in where a `-` stands. -/
def dashedFirst : Entry :=
  [("id", .int 1), ("arch", .str "gfx90a-sramecc"), ("rocm_v", .str "6.0")]

def dashedSecond : Entry :=
  [("id", .int 2), ("arch", .str "gfx90a"), ("rocm_v", .str "sramecc-6.0")]

/-- Both rows get the key `gfx90a-sramecc-6.0` though their `arch` differs, so
the map keeps only the second row's id. -/
theorem getSessionValMap_merges_dashed_rows :
    (dbRowToObj dashedFirst).names.Perm (dbRowToObj dashedSecond).names ∧
      buildDictValKey (dbRowToObj dashedFirst) ["id"] =
        buildDictValKey (dbRowToObj dashedSecond) ["id"] ∧
      (dbRowToObj dashedFirst).entries.lookup "arch" ≠
        (dbRowToObj dashedSecond).entries.lookup "arch" ∧
      (getSessionValMap (some [dashedFirst, dashedSecond]) "id").map AttrDict.entries =
        .ok [("gfx90a-sramecc-6.0", .int 2)] :=
  ⟨by decide, by decide, by decide, rfl⟩

end MITuna.Sql
