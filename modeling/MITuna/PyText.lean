import Mathlib.Data.List.Infix

namespace MITuna

/-!
# Python's text operations

The source splits, searches and strips texts with Python's `str` methods.
These are their meanings on the characters of a text, with the facts about
them that the modules reading the source's texts share.  Every one is
structurally recursive, so a concrete text evaluates by `decide` or `rfl`.
-/

/-- Python's `str.split` at a one-character separator. -/
def splitText (sep : Char) (text : String) : List String :=
  (text.data.splitOn sep).map String.mk

/-- Python's `in` on two texts: `part` is a substring of `text`. -/
def hasInfix (part text : String) : Bool :=
  decide (part.data <:+: text.data)

/-- `str.split(sep)` on characters for a separator `sep` of more than one
character: `skip` counts the characters of a separator still to pass over. -/
def splitAtGo (sep : List Char) : Nat → List Char → List (List Char)
  | _, [] => [[]]
  | skip + 1, _ :: rest => splitAtGo sep skip rest
  | 0, c :: rest =>
      if sep.isPrefixOf (c :: rest) then [] :: splitAtGo sep (sep.length - 1) rest
      else (splitAtGo sep 0 rest).modifyHead (c :: ·)

/-- Python's `str.split(sep)` for a non-empty separator. -/
def splitAtText (sep text : String) : List String :=
  (splitAtGo sep.data 0 text.data).map String.mk

/-- Python's `str.index`: where `part` first starts in `text`, or none for the
`ValueError` it raises. -/
def textIndex (part : List Char) : List Char → Option Nat
  | [] => if part = [] then some 0 else none
  | c :: rest => if part.isPrefixOf (c :: rest) then some 0 else (textIndex part rest).map (· + 1)

/-- Python's `str.isspace` on one character. -/
def isPySpace (c : Char) : Bool :=
  c.toNat ∈ [0x09, 0x0A, 0x0B, 0x0C, 0x0D, 0x1C, 0x1D, 0x1E, 0x1F, 0x20, 0x85, 0xA0, 0x1680,
    0x2028, 0x2029, 0x202F, 0x205F, 0x3000] || (0x2000 ≤ c.toNat && c.toNat ≤ 0x200A)

/-- Python's `str.strip()`. -/
def stripSpace (text : String) : String :=
  ⟨((text.data.dropWhile isPySpace).reverse.dropWhile isPySpace).reverse⟩

/-! ## Splitting at one character -/

theorem splitOn_of_not_mem {sep : Char} {chars : List Char} (absent : sep ∉ chars) :
    chars.splitOn sep = [chars] :=
  List.splitOnP_eq_single _ _ fun _ mem same => absent (beq_iff_eq.mp same ▸ mem)

theorem splitText_of_not_mem {sep : Char} {text : String} (absent : sep ∉ text.data) :
    splitText sep text = [text] := by
  rw [splitText, splitOn_of_not_mem absent]
  rfl

/-- No piece of a split holds the separator. -/
theorem not_mem_of_mem_splitOn {sep : Char} {chars piece : List Char}
    (mem : piece ∈ chars.splitOn sep) : sep ∉ piece := by
  induction chars generalizing piece with
  | nil =>
      rw [List.splitOn_nil, List.mem_singleton] at mem
      simp [mem]
  | cons c rest inductionHypothesis =>
      obtain ⟨first, others, split⟩ :=
        List.exists_cons_of_ne_nil (List.splitOnP_ne_nil (· == sep) rest)
      rw [List.splitOn, List.splitOnP_cons] at mem
      split_ifs at mem with separator
      · rcases List.mem_cons.mp mem with rfl | later
        · exact List.not_mem_nil _
        · exact inductionHypothesis later
      · rw [split] at mem
        rcases List.mem_cons.mp mem with rfl | later
        · rw [List.mem_cons, not_or]
          refine ⟨fun same => separator (by simp [same]), inductionHypothesis ?_⟩
          rw [List.splitOn, split]
          exact List.mem_cons_self _ _
        · exact inductionHypothesis
            (by rw [List.splitOn, split]; exact List.mem_cons_of_mem _ later)

theorem not_mem_of_mem_splitText {sep : Char} {text piece : String}
    (mem : piece ∈ splitText sep text) : sep ∉ piece.data := by
  obtain ⟨chars, member, rfl⟩ := List.mem_map.mp mem
  exact not_mem_of_mem_splitOn member

/-- A text splits into exactly two pieces when it holds the separator once. -/
theorem splitOn_eq_pair {sep : Char} {chars first second : List Char} :
    chars.splitOn sep = [first, second] ↔
      chars = first ++ sep :: second ∧ sep ∉ first ∧ sep ∉ second := by
  constructor
  · intro split
    have joined : [sep].intercalate (chars.splitOn sep) = chars :=
      List.intercalate_splitOn chars sep
    rw [split] at joined
    refine ⟨by simpa [List.intercalate] using joined.symm, ?_, ?_⟩
    · exact not_mem_of_mem_splitOn (by rw [split]; simp)
    · exact not_mem_of_mem_splitOn (by rw [split]; simp)
  · rintro ⟨rfl, absentFirst, absentSecond⟩
    have split : ([sep].intercalate [first, second]).splitOn sep = [first, second] :=
      List.splitOn_intercalate [first, second] sep (by simp [absentFirst, absentSecond]) (by simp)
    simpa [List.intercalate] using split

theorem splitText_eq_pair {sep : Char} {text first second : String} :
    splitText sep text = [first, second] ↔
      text = first ++ ⟨[sep]⟩ ++ second ∧ sep ∉ first.data ∧ sep ∉ second.data := by
  have pieces : [first, second] = [first.data, second.data].map String.mk := rfl
  have injective : Function.Injective (List.map String.mk) :=
    List.map_injective_iff.mpr fun _ _ same => congrArg String.data same
  rw [splitText, pieces, injective.eq_iff, splitOn_eq_pair, String.ext_iff]
  simp

/-! ## Splitting at a longer separator -/

theorem length_splitAtGo_pos (sep : List Char) (skip : Nat) (chars : List Char) :
    0 < (splitAtGo sep skip chars).length := by
  induction chars generalizing skip with
  | nil => simp [splitAtGo]
  | cons c rest inductionHypothesis =>
      cases skip with
      | succ skip => exact inductionHypothesis skip
      | zero =>
          rw [splitAtGo]
          split_ifs
          · simp
          · simpa using inductionHypothesis 0

/-- A text that holds the separator splits into at least two pieces, so
`split(sep)[1]` exists. -/
theorem two_le_length_splitAtGo {sep chars : List Char} (nonempty : sep ≠ [])
    (inside : sep <:+: chars) : 2 ≤ (splitAtGo sep 0 chars).length := by
  induction chars with
  | nil => exact absurd (List.infix_nil.mp inside) nonempty
  | cons c rest inductionHypothesis =>
      rw [splitAtGo]
      split_ifs with starts
      · simpa using length_splitAtGo_pos sep (sep.length - 1) rest
      · rw [List.length_modifyHead]
        refine inductionHypothesis ((List.infix_cons_iff.mp inside).resolve_left ?_)
        simpa using starts

end MITuna
