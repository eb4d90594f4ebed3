import Mathlib.Algebra.Order.Ring.Rat
import Mathlib.Data.List.Sort
import MITuna.MIOpen.Context

namespace MITuna

/-!
# Pruning a find db to its fastest solvers

`build_find_groups` (`tuna/miopen/analyze_fdb.py`) reads a find-db file line
by line.  Each line gives a driver key, which must not repeat, and a dict from
find-db keys to solver lists.  With `only_fastest` each list is sorted by
`float(kernel_time)` and then pruned from the back: an entry goes when its
`kernel_time` is greater than the first entry's.  That comparison is of the
texts, not of the numbers the sort read.

`parse_fdb_line` and `DriverConvolution` are not in the source, so the parse of
a line and its driver key are parameters.  `float` is a parameter too: the
value of the double it reads, or `none` for its `ValueError` (NaN is left
out).  `kernel_time` is the text of the line, the form the `float` of the sort
key takes.
-/

/-- A solver entry of a find-db list: the fields `build_find_groups` and
`compare` read. -/
structure FdbEntry where
  algLib : String
  solver : String
  kernelTime : String
  deriving Repr, DecidableEq

/-- The exceptions `build_find_groups` raises. -/
inductive FindDbError
  | assertionError
  | valueError
  deriving Repr, DecidableEq

/-- What `find_db[cfg_drv]` holds. -/
structure FindGroup where
  fdb : List (String × List FdbEntry)
  lineNum : Nat
  deriving Repr, DecidableEq

section SortKey

variable (float : String → Option ℚ)

/-- The sort key `float(x['kernel_time'])` with its entry, or the `ValueError`. -/
def keyedEntry (entry : FdbEntry) : Except FindDbError (ℚ × FdbEntry) :=
  match float entry.kernelTime with
  | some time => .ok (time, entry)
  | none => .error .valueError

/-- `alg_list.sort(key=lambda x: float(x['kernel_time']))`: every key is read
first, then the entries are sorted stably by key. -/
def sortByKernelTime (algList : List FdbEntry) : Except FindDbError (List FdbEntry) := do
  let keyed ← algList.mapM (keyedEntry float)
  pure ((keyed.insertionSort fun a b => a.1 ≤ b.1).map Prod.snd)

end SortKey

/--
The loop `while i > 0: if alg_list[i]['kernel_time'] > alg_list[0]['kernel_time']:
alg_list.pop(i)` from index `i` down to 1, comparing the texts.  Popping index
`i` leaves the lower indices in place, so `alg_list[i]` always exists.
-/
def popSlower : Nat → List FdbEntry → List FdbEntry
  | 0, algList => algList
  | i + 1, algList =>
      match algList[i + 1]?, algList.head? with
      | some entry, some fastest =>
          popSlower i
            (if textLt fastest.kernelTime.data entry.kernelTime.data then algList.eraseIdx (i + 1)
              else algList)
      | _, _ => popSlower i algList

/-- `only_fastest` on one solver list: the sort, then the pops from the last index. -/
def pruneFastest (float : String → Option ℚ) (algList : List FdbEntry) :
    Except FindDbError (List FdbEntry) := do
  let sorted ← sortByKernelTime float algList
  pure (popSlower (sorted.length - 1) sorted)

/-- The solver lists of one line as `build_find_groups` stores them. -/
def pruneLine (float : String → Option ℚ) (onlyFastest : Bool)
    (fdbDict : List (String × List FdbEntry)) :
    Except FindDbError (List (String × List FdbEntry)) :=
  if onlyFastest then
    fdbDict.mapM fun (key, algList) => (pruneFastest float algList).map (key, ·)
  else
    .ok fdbDict

/-- `build_find_groups` over the lines still to read, after `lineCount` lines
and the groups they made. -/
def buildFindGroups (driverKey : String → String)
    (parseFdbLine : String → List (String × List FdbEntry)) (float : String → Option ℚ)
    (onlyFastest : Bool) :
    Nat → List String → List (String × FindGroup) → Except FindDbError (List (String × FindGroup))
  | _, [], findDb => .ok findDb
  | lineCount, line :: lines, findDb =>
      if (findDb.lookup (driverKey line)).isSome then
        .error .assertionError
      else do
        let fdbDict ← pruneLine float onlyFastest (parseFdbLine line)
        buildFindGroups driverKey parseFdbLine float onlyFastest (lineCount + 1) lines
          (findDb ++ [(driverKey line, ⟨fdbDict, lineCount + 1⟩)])

/-- The entries the pops keep: those whose text is not above the first's. -/
def keepsText (fastest entry : FdbEntry) : Bool :=
  !textLt fastest.kernelTime.data entry.kernelTime.data

/-- The pops from index `i` keep the first entry, filter the next `i` by
their text, and leave the rest alone. -/
theorem popSlower_eq (first : FdbEntry) :
    ∀ (i : Nat) (rest : List FdbEntry), i ≤ rest.length →
      popSlower i (first :: rest) =
        first :: ((rest.take i).filter (keepsText first) ++ rest.drop i)
  | 0, rest, _ => by simp [popSlower]
  | i + 1, rest, within => by
      have inside : i < rest.length := by omega
      have split : rest.take (i + 1) = rest.take i ++ [rest[i]] := by
        rw [List.take_succ, List.getElem?_eq_getElem inside, Option.toList_some]
      rw [popSlower]
      simp only [List.getElem?_cons_succ, List.getElem?_eq_getElem inside, List.head?_cons]
      split_ifs with slower
      · rw [List.eraseIdx_cons_succ,
          popSlower_eq first i _ (by rw [List.length_eraseIdx_of_lt inside]; omega),
          List.eraseIdx_eq_take_drop_succ, List.take_left' (List.length_take_of_le (by omega)),
          List.drop_left' (List.length_take_of_le (by omega)), split, List.filter_append]
        simp [keepsText, slower]
      · rw [popSlower_eq first i rest (by omega), split, List.filter_append,
          List.drop_eq_getElem_cons inside]
        simp [keepsText, slower]

/-- From the last index, the pops keep the first entry and every later entry
whose text is not above the first's. -/
theorem popSlower_length (first : FdbEntry) (rest : List FdbEntry) :
    popSlower rest.length (first :: rest) = first :: rest.filter (keepsText first) := by
  rw [popSlower_eq first rest.length rest le_rfl, List.take_length, List.drop_length,
    List.append_nil]

theorem keyedEntry_eq_ok {float : String → Option ℚ} {entry : FdbEntry} {keyed : ℚ × FdbEntry} :
    keyedEntry float entry = .ok keyed ↔ float entry.kernelTime = some keyed.1 ∧ entry = keyed.2 := by
  unfold keyedEntry
  split <;> rename_i read <;> simp [read, Prod.ext_iff, eq_comm]

theorem eq_map_snd_of_keyed {float : String → Option ℚ} {algList : List FdbEntry}
    {keyed : List (ℚ × FdbEntry)}
    (reads : List.Forall₂ (fun entry p => keyedEntry float entry = .ok p) algList keyed) :
    algList = keyed.map Prod.snd := by
  induction reads with
  | nil => rfl
  | cons read _ inductionHypothesis =>
      rw [List.map_cons, (keyedEntry_eq_ok.mp read).2, inductionHypothesis]

/-- A sort that returns read every key: the list is its keyed entries'
second components, and each key is the time `float` reads. -/
theorem sortByKernelTime_eq_ok {float : String → Option ℚ} {algList sorted : List FdbEntry}
    (sorted_eq : sortByKernelTime float algList = .ok sorted) :
    ∃ keyed : List (ℚ × FdbEntry), algList = keyed.map Prod.snd ∧
      (∀ p ∈ keyed, float p.2.kernelTime = some p.1) ∧
      sorted = (keyed.insertionSort fun a b => a.1 ≤ b.1).map Prod.snd := by
  obtain ⟨keyed, reads, sorted_eq⟩ := except_bind_eq_ok.mp sorted_eq
  refine ⟨keyed, eq_map_snd_of_keyed (mapM_eq_ok.mp reads), ?_, (Except.ok.inj sorted_eq).symm⟩
  intro p member
  obtain ⟨entry, -, read⟩ := Forall₂.exists_of_mem_right (mapM_eq_ok.mp reads) member
  obtain ⟨time, rfl⟩ := keyedEntry_eq_ok.mp read
  exact time

/-- Python's sort is stable, and so is `insertionSort`: the entries of one key
keep their order. -/
theorem insertionSort_filter_key (keyed : List (ℚ × FdbEntry)) (key : ℚ) :
    (keyed.insertionSort fun a b => a.1 ≤ b.1).filter (fun p => p.1 = key) =
      keyed.filter (fun p => p.1 = key) := by
  have same : (keyed.filter fun p => p.1 = key).Pairwise fun a b => a.1 ≤ b.1 :=
    List.pairwise_of_forall_mem_list fun a aMember b bMember => by
      simp only [List.mem_filter, decide_eq_true_eq] at aMember bMember
      rw [aMember.2, bMember.2]
  have kept := (List.sublist_insertionSort same (List.filter_sublist keyed)).filter
    (fun p => decide (p.1 = key))
  rw [List.filter_filter, List.filter_congr (fun _ _ => Bool.and_self _)] at kept
  exact (kept.eq_of_length ((List.perm_insertionSort _ keyed).filter _).length_eq.symm).symm

/-- The pruning taken apart: the keyed entries, and the sorted list the pops
start from. -/
theorem pruneFastest_eq_ok {float : String → Option ℚ} {algList pruned : List FdbEntry}
    (pruned_eq : pruneFastest float algList = .ok pruned) :
    ∃ keyed : List (ℚ × FdbEntry), algList = keyed.map Prod.snd ∧
      (∀ p ∈ keyed, float p.2.kernelTime = some p.1) ∧
      pruned = popSlower (keyed.length - 1)
        ((keyed.insertionSort fun a b => a.1 ≤ b.1).map Prod.snd) := by
  obtain ⟨sorted, sorted_eq, popped⟩ := except_bind_eq_ok.mp pruned_eq
  obtain ⟨keyed, rfl, reads, rfl⟩ := sortByKernelTime_eq_ok sorted_eq
  refine ⟨keyed, rfl, reads, ?_⟩
  rw [← Except.ok.inj popped, List.length_map, List.length_insertionSort]

/-- The texts of a list compare as the numbers `float` reads from them. -/
def TextOrdered (float : String → Option ℚ) (algList : List FdbEntry) : Prop :=
  ∀ a ∈ algList, ∀ b ∈ algList, ∀ t u, float a.kernelTime = some t →
    float b.kernelTime = some u → (textLt a.kernelTime.data b.kernelTime.data = true ↔ t < u)

instance (float : String → Option ℚ) (algList : List FdbEntry) :
    Decidable (TextOrdered float algList) :=
  decidable_of_iff (∀ a ∈ algList, ∀ b ∈ algList,
      (match float a.kernelTime, float b.kernelTime with
        | some t, some u => textLt a.kernelTime.data b.kernelTime.data == decide (t < u)
        | _, _ => true) = true)
    (forall₂_congr fun a _ => forall₂_congr fun b _ => by
      cases float a.kernelTime <;> cases float b.kernelTime <;> simp
      exact Bool.eq_iff_iff.trans (iff_congr Iff.rfl decide_eq_true_iff))

/-- An entry whose time, as `float` reads it, is the smallest of its list. -/
def IsFastest (float : String → Option ℚ) (algList : List FdbEntry) (entry : FdbEntry) : Bool :=
  match float entry.kernelTime with
  | some time => algList.all fun other => (float other.kernelTime).all (time ≤ ·)
  | none => false

section Fastest

variable {float : String → Option ℚ} {keyed : List (ℚ × FdbEntry)}

theorem isFastest_keyed (reads : ∀ p ∈ keyed, float p.2.kernelTime = some p.1)
    {p : ℚ × FdbEntry} (member : p ∈ keyed) :
    IsFastest float (keyed.map Prod.snd) p.2 = true ↔ ∀ q ∈ keyed, p.1 ≤ q.1 := by
  simp only [IsFastest, reads p member, List.all_eq_true, List.forall_mem_map]
  exact forall₂_congr fun q qMember => by simp [reads q qMember]

/-- The law of `only_fastest` where it holds.  When every time reads as a
number and the texts compare as those numbers, the pruned list is exactly the
entries with the smallest time, in their order in the list. -/
theorem pruneFastest_eq_filter_isFastest {algList pruned : List FdbEntry}
    (textOrdered : TextOrdered float algList)
    (pruned_eq : pruneFastest float algList = .ok pruned) :
    pruned = algList.filter (IsFastest float algList) := by
  obtain ⟨keyed, rfl, reads, rfl⟩ := pruneFastest_eq_ok pruned_eq
  have total : IsTotal (ℚ × FdbEntry) fun a b => a.1 ≤ b.1 := ⟨fun a b => le_total a.1 b.1⟩
  have transitive : IsTrans (ℚ × FdbEntry) fun a b => a.1 ≤ b.1 := ⟨fun _ _ _ => le_trans⟩
  have perm := List.perm_insertionSort (fun a b : ℚ × FdbEntry => a.1 ≤ b.1) keyed
  have ordered := List.sorted_insertionSort (fun a b : ℚ × FdbEntry => a.1 ≤ b.1) keyed
  cases sorted : keyed.insertionSort fun a b => a.1 ≤ b.1 with
  | nil =>
      rw [sorted, List.nil_perm] at perm
      simp [perm, popSlower]
  | cons first rest =>
      rw [sorted] at perm ordered
      have minimal : ∀ p ∈ keyed, first.1 ≤ p.1 := fun p member => by
        rcases List.mem_cons.mp (perm.mem_iff.mpr member) with rfl | later
        · exact le_rfl
        · exact (List.sorted_cons.mp ordered).1 p later
      have firstMember : first ∈ keyed := perm.subset (List.mem_cons_self _ _)
      have keeps : ∀ p ∈ keyed, keepsText first.2 p.2 = true ↔ p.1 = first.1 := fun p member => by
        rw [keepsText, Bool.not_eq_true', ← Bool.not_eq_true,
          textOrdered _ (List.mem_map_of_mem _ firstMember) _ (List.mem_map_of_mem _ member) _ _
            (reads first firstMember) (reads p member)]
        exact ⟨fun notBelow => le_antisymm (not_lt.mp notBelow) (minimal p member),
          fun same => not_lt.mpr same.le⟩
      calc popSlower (keyed.length - 1) ((first :: rest).map Prod.snd)
          = ((first :: rest).filter fun p => p.1 = first.1).map Prod.snd := by
            rw [perm.length_eq.symm, List.length_cons, Nat.add_sub_cancel, List.map_cons,
              ← List.length_map rest Prod.snd, popSlower_length, List.filter_cons_of_pos (by simp),
              List.map_cons, List.filter_map]
            congr 2
            exact List.filter_congr fun p member => Bool.eq_iff_iff.mpr (by
              rw [Function.comp_apply, keeps p (perm.subset (List.mem_cons_of_mem _ member)),
                decide_eq_true_iff])
        _ = ((keyed.insertionSort fun a b => a.1 ≤ b.1).filter fun p => p.1 = first.1).map
              Prod.snd := by rw [sorted]
        _ = (keyed.filter fun p => p.1 = first.1).map Prod.snd := by rw [insertionSort_filter_key]
        _ = (keyed.map Prod.snd).filter (IsFastest float (keyed.map Prod.snd)) := by
            rw [List.filter_map]
            congr 1
            refine List.filter_congr fun p member => Bool.eq_iff_iff.mpr ?_
            rw [decide_eq_true_iff, Function.comp_apply, isFastest_keyed reads member]
            exact ⟨fun same q qMember => same ▸ minimal q qMember,
              fun least => le_antisymm (least first firstMember) (minimal p member)⟩

end Fastest

/-- With `only_fastest`, a line whose lists are all text-ordered stores the
fastest entries of each. -/
theorem pruneLine_fastest {float : String → Option ℚ} :
    ∀ {fdbDict pruned : List (String × List FdbEntry)},
      (∀ entry ∈ fdbDict, TextOrdered float entry.2) → pruneLine float true fdbDict = .ok pruned →
        pruned = fdbDict.map fun entry => (entry.1, entry.2.filter (IsFastest float entry.2))
  | [], pruned, _, pruned_eq => by
      rw [pruneLine, if_pos rfl, List.mapM_nil] at pruned_eq
      exact (Except.ok.inj pruned_eq).symm
  | (key, algList) :: fdbDict, pruned, textOrdered, pruned_eq => by
      rw [pruneLine, if_pos rfl, List.mapM_cons] at pruned_eq
      obtain ⟨head, headEq, pruned_eq⟩ := except_bind_eq_ok.mp pruned_eq
      obtain ⟨tail, tailEq, pruned_eq⟩ := except_bind_eq_ok.mp pruned_eq
      cases list : pruneFastest float algList with
      | error _ => simp [list, Except.map] at headEq
      | ok list' =>
          simp only [list, Except.map, Except.ok.injEq] at headEq
          rw [← Except.ok.inj pruned_eq, ← headEq, List.map_cons,
            pruneFastest_eq_filter_isFastest (textOrdered _ (List.mem_cons_self _ _)) list,
            pruneLine_fastest (fun entry member => textOrdered entry (List.mem_cons_of_mem _ member))
              (show pruneLine float true fdbDict = .ok tail by rw [pruneLine, if_pos rfl]; exact tailEq)]

section Run

variable {driverKey : String → String} {parseFdbLine : String → List (String × List FdbEntry)}
  {float : String → Option ℚ} {onlyFastest : Bool}

/-- A run of `build_find_groups` that returns adds one group per line, in
order: the line's driver key, its stored dict, and its line number. -/
theorem buildFindGroups_eq_ok :
    ∀ {lineCount : Nat} {lines : List String} {findDb result : List (String × FindGroup)},
      buildFindGroups driverKey parseFdbLine float onlyFastest lineCount lines findDb = .ok result →
      ∃ groups, result = findDb ++ groups ∧
        List.Forall₂ (fun line group => group.1 = driverKey line ∧
          pruneLine float onlyFastest (parseFdbLine line) = .ok group.2.fdb) lines groups ∧
        groups.map (·.2.lineNum) = List.range' (lineCount + 1) lines.length
  | _, [], findDb, result, returned => ⟨[], by cases returned; simp, .nil, rfl⟩
  | lineCount, line :: lines, findDb, result, returned => by
      rw [buildFindGroups] at returned
      split_ifs at returned
      obtain ⟨fdbDict, pruned, rest⟩ := except_bind_eq_ok.mp returned
      obtain ⟨groups, rfl, related, numbered⟩ := buildFindGroups_eq_ok rest
      exact ⟨(driverKey line, ⟨fdbDict, lineCount + 1⟩) :: groups, by simp,
        .cons ⟨rfl, pruned⟩ related, by simp [numbered, List.range'_succ]⟩

/-- The `only_fastest` law over a whole file, wherever it holds: when every
solver list's texts compare as their numbers, each line's group holds its
driver key and exactly the fastest entries of each of its lists. -/
theorem buildFindGroups_fastest {lineCount : Nat} {lines : List String}
    {findDb result : List (String × FindGroup)}
    (textOrdered : ∀ line ∈ lines, ∀ entry ∈ parseFdbLine line, TextOrdered float entry.2)
    (returned : buildFindGroups driverKey parseFdbLine float true lineCount lines findDb = .ok result) :
    ∃ groups, result = findDb ++ groups ∧
      List.Forall₂ (fun line group => group.1 = driverKey line ∧
        group.2.fdb = (parseFdbLine line).map fun entry =>
          (entry.1, entry.2.filter (IsFastest float entry.2))) lines groups := by
  obtain ⟨groups, rfl, related, -⟩ := buildFindGroups_eq_ok returned
  refine ⟨groups, rfl, ((List.forall₂_and_left _ _).mpr ⟨textOrdered, related⟩).imp ?_⟩
  exact fun _ _ ⟨ordered, key, pruned⟩ => ⟨key, pruneLine_fastest ordered pruned⟩

end Run

/-- The number a non-empty run of decimal digits spells. -/
def digitsValue (digits : List Char) : Option Nat :=
  if digits ≠ [] ∧ digits.all Char.isDigit then
    some (digits.foldl (fun value digit => 10 * value + (digit.toNat - '0'.toNat)) 0)
  else
    none

/-- The value of a plain decimal text, `digits` or `digits.digits`, and `none`
for any other text.  `float()` reads such a text as the nearest double, which
keeps the order of the times below and reads `9.5` and `9.50` alike. -/
def plainDecimal (text : String) : Option ℚ :=
  match text.data.span (· ≠ '.') with
  | (whole, []) => (digitsValue whole).map fun value => (value : ℚ)
  | (whole, _ :: fraction) => do
      let wholeValue ← digitsValue whole
      let fractionValue ← digitsValue fraction
      pure (mkRat (wholeValue * 10 ^ fraction.length + fractionValue) (10 ^ fraction.length))

/-- One solver list: a time of 10.1, and the time 9.5 written as `9.5` and as `9.50`. -/
def mixedTimes : List FdbEntry :=
  [⟨"miopenConvolutionFwdAlgoDirect", "ConvOclDirectFwd", "10.1"⟩,
    ⟨"miopenConvolutionFwdAlgoWinograd", "ConvBinWinograd3x3U", "9.5"⟩,
    ⟨"miopenConvolutionFwdAlgoImplicitGEMM", "ConvHipImplicitGemmV4R1Fwd", "9.50"⟩]

/-- On a line with that list, `only_fastest` keeps the entry of 10.1, whose
text is below `9.5`, and drops the one of `9.50`, whose text is above it: the
fastest entries are those of `9.5` and `9.50`. -/
theorem buildFindGroups_keeps_slower_drops_tied :
    buildFindGroups (fun _ => "1-32-32-3x3") (fun _ => [("1-32-32-3x3-F", mixedTimes)])
        plainDecimal true 0 ["1-32-32-3x3-F=..."] [] =
      .ok [("1-32-32-3x3",
        ⟨[("1-32-32-3x3-F",
          [⟨"miopenConvolutionFwdAlgoWinograd", "ConvBinWinograd3x3U", "9.5"⟩,
            ⟨"miopenConvolutionFwdAlgoDirect", "ConvOclDirectFwd", "10.1"⟩])], 1⟩)] ∧
    mixedTimes.filter (IsFastest plainDecimal mixedTimes) =
      [⟨"miopenConvolutionFwdAlgoWinograd", "ConvBinWinograd3x3U", "9.5"⟩,
        ⟨"miopenConvolutionFwdAlgoImplicitGEMM", "ConvHipImplicitGemmV4R1Fwd", "9.50"⟩] :=
  ⟨rfl, by decide⟩

/-- A solver list whose times, `2.5` and `1.5`, compare as their texts. -/
def orderedTimes : List FdbEntry :=
  [⟨"miopenConvolutionFwdAlgoDirect", "ConvOclDirectFwd", "2.5"⟩,
    ⟨"miopenConvolutionFwdAlgoWinograd", "ConvBinWinograd3x3U", "1.5"⟩]

/-- What `only_fastest` stores for a line with that list: the entry of 1.5. -/
def orderedGroup : FindGroup :=
  ⟨[("1-32-32-3x3-F", [⟨"miopenConvolutionFwdAlgoWinograd", "ConvBinWinograd3x3U", "1.5"⟩])], 1⟩

theorem buildFindGroups_fastest_on_ordered_times :
    (∀ line ∈ ["1-32-32-3x3-F=..."], ∀ entry ∈ [("1-32-32-3x3-F", orderedTimes)],
      TextOrdered plainDecimal entry.2) ∧
    buildFindGroups (fun _ => "1-32-32-3x3") (fun _ => [("1-32-32-3x3-F", orderedTimes)])
        plainDecimal true 0 ["1-32-32-3x3-F=..."] [] = .ok [("1-32-32-3x3", orderedGroup)] ∧
    ∃ groups, [("1-32-32-3x3", orderedGroup)] = [] ++ groups ∧
      List.Forall₂ (fun _ group => group.1 = "1-32-32-3x3" ∧
          group.2.fdb = [("1-32-32-3x3-F", orderedTimes)].map fun entry =>
            (entry.1, entry.2.filter (IsFastest plainDecimal entry.2)))
        ["1-32-32-3x3-F=..."] groups :=
  have ordered : ∀ line ∈ ["1-32-32-3x3-F=..."], ∀ entry ∈ [("1-32-32-3x3-F", orderedTimes)],
      TextOrdered plainDecimal entry.2 := by decide
  have returned : buildFindGroups (fun _ => "1-32-32-3x3")
      (fun _ => [("1-32-32-3x3-F", orderedTimes)]) plainDecimal true 0 ["1-32-32-3x3-F=..."] [] =
      .ok [("1-32-32-3x3", orderedGroup)] := rfl
  ⟨ordered, returned, buildFindGroups_fastest ordered returned⟩

end MITuna
