import Mathlib.Data.List.Basic

namespace MITuna.Sql

/-!
# SQL text as the store reads it

The code builds every statement as a Python string and hands it to
`session.execute`, which wraps it in SQLAlchemy's `text()`.  `text()` reads a
colon before a name as a bind parameter, and MySQL then reads the literals
the code wrote: `NULL`, decimal numerals and single-quoted strings with
backslash escapes.  This module models both readers for the tokens the code
writes and proves the round trips the statement modules build on: a token
written for a value is read back as that value when the text after it cannot
continue it.
-/

/-- The value of a decimal digit character. -/
def digitValue (c : Char) : Nat :=
  c.toNat - '0'.toNat

/-- One more digit on the right of a numeral. -/
def pushDigit (acc : Nat) (c : Char) : Nat :=
  acc * 10 + digitValue c

/-- The longest run of digits, read onto `acc`. -/
def readDigits (acc : Nat) : List Char → Nat × List Char
  | c :: rest => if c.isDigit then readDigits (pushDigit acc c) rest else (acc, c :: rest)
  | [] => (acc, [])

/-- An unsigned decimal numeral: at least one digit, and every digit that follows. -/
def readNat : List Char → Option (Nat × List Char)
  | c :: rest => if c.isDigit then some (readDigits (digitValue c) rest) else none
  | [] => none

/-- A decimal numeral with an optional minus sign. -/
def readInt : List Char → Option (Int × List Char)
  | '-' :: rest => (readNat rest).map fun (n, after) => (-(n : Int), after)
  | cs => (readNat cs).map fun (n, after) => ((n : Int), after)

/-- What a backslash escape stands for in a MySQL string literal; `\%` and `\_`
keep their backslash, for `LIKE`. -/
def unescape : Char → List Char
  | '0' => ['\x00']
  | 'b' => ['\x08']
  | 'n' => ['\n']
  | 'r' => ['\r']
  | 't' => ['\t']
  | 'Z' => ['\x1a']
  | '%' => ['\\', '%']
  | '_' => ['\\', '_']
  | c => [c]

/--
The body of a single-quoted MySQL literal after its opening quote: the text
it stands for and what follows the closing quote.  A quote stands for itself
when doubled or escaped with a backslash.
-/
def readQuoted : List Char → Option (List Char × List Char)
  | '\'' :: '\'' :: rest => (readQuoted rest).map fun (text, after) => ('\'' :: text, after)
  | '\'' :: rest => some ([], rest)
  | '\\' :: c :: rest => (readQuoted rest).map fun (text, after) => (unescape c ++ text, after)
  | c :: rest => (readQuoted rest).map fun (text, after) => (c :: text, after)
  | [] => none

/-- The characters of an unquoted MySQL identifier. -/
def isIdentChar (c : Char) : Bool :=
  c.isAlphanum || c == '_' || c == '$' || (0x80 ≤ c.toNat && c.toNat ≤ 0xFFFF)

/-- A value as MySQL reads it from a literal. -/
inductive SqlValue
  | null
  | int (value : Int)
  | str (text : String)
  deriving Repr, DecidableEq

/-- A literal in a value position: `NULL`, a quoted string or a numeral. -/
def readLiteral : List Char → Option (SqlValue × List Char)
  | 'N' :: 'U' :: 'L' :: 'L' :: rest =>
      if rest.head?.all fun c => !isIdentChar c then some (.null, rest) else none
  | '\'' :: rest => (readQuoted rest).map fun (text, after) => (.str (String.mk text), after)
  | cs => (readInt cs).map fun (n, after) => (.int n, after)

/-- An unquoted identifier: a run of identifier characters, not all digits. -/
def readName (cs : List Char) : Option (String × List Char) :=
  let name := cs.takeWhile isIdentChar
  if name.all Char.isDigit then none else some (String.mk name, cs.dropWhile isIdentChar)

/-- A fixed piece of text at the front, and what follows it. -/
def expectChars : List Char → List Char → Option (List Char)
  | [], cs => some cs
  | w :: word, c :: cs => if w = c then expectChars word cs else none
  | _ :: _, [] => none

/-- A fixed piece of text. -/
def expect (word : String) (cs : List Char) : Option (List Char) :=
  expectChars word.data cs

/-! ## What the code writes -/

/-- A name MySQL reads as an unquoted identifier. -/
def IsIdentifier (name : String) : Prop :=
  (∀ c ∈ name.data, isIdentChar c = true) ∧ ∃ c ∈ name.data, c.isDigit = false

/-- Text a quoted literal reproduces as written: no quote, no backslash. -/
def Quotable (text : List Char) : Prop :=
  ∀ c ∈ text, c ≠ '\'' ∧ c ≠ '\\'

instance (text : List Char) : Decidable (Quotable text) :=
  inferInstanceAs (Decidable (∀ c ∈ text, c ≠ '\'' ∧ c ≠ '\\'))

/-- Text the code can put between quotes and have read back through `text()`:
no quote, no backslash, no colon. -/
def PlainText (text : String) : Prop :=
  Quotable text.data ∧ ':' ∉ text.data

instance (text : String) : Decidable (PlainText text) :=
  inferInstanceAs (Decidable (_ ∧ _))

/--
What follows a token in the statements the code writes: nothing that would
continue a name, a numeral or a quoted literal.
-/
def Delimited (rest : List Char) : Prop :=
  ∀ c ∈ rest.head?, isIdentChar c = false ∧ c ≠ '\''

instance (rest : List Char) : Decidable (Delimited rest) :=
  inferInstanceAs (Decidable (∀ c ∈ rest.head?, isIdentChar c = false ∧ c ≠ '\''))

/-- No identifier character is a colon, a backslash or a quote. -/
theorem isIdentChar_harmless {c : Char} (ident : isIdentChar c = true) :
    c ≠ ':' ∧ c ≠ '\\' ∧ c ≠ '\'' := by
  refine ⟨?_, ?_, ?_⟩ <;> rintro rfl <;> revert ident <;> decide

theorem isIdentChar_of_isDigit {c : Char} (digit : c.isDigit = true) : isIdentChar c = true := by
  simp [isIdentChar, Char.isAlphanum, digit]

/-- Text with no colon and no backslash, which `text()` passes on unchanged. -/
def Harmless (cs : List Char) : Prop :=
  ∀ c ∈ cs, c ≠ ':' ∧ c ≠ '\\'

instance (cs : List Char) : Decidable (Harmless cs) :=
  inferInstanceAs (Decidable (∀ c ∈ cs, c ≠ ':' ∧ c ≠ '\\'))

instance (name : String) : Decidable (IsIdentifier name) :=
  inferInstanceAs (Decidable (_ ∧ _))

@[simp] theorem harmless_append_iff {first second : List Char} :
    Harmless (first ++ second) ↔ Harmless first ∧ Harmless second := by
  simp only [Harmless, List.mem_append, or_imp, forall_and, and_and_and_comm]

theorem PlainText.harmless {text : String} (plain : PlainText text) : Harmless text.data :=
  fun c member => ⟨fun colon => plain.2 (colon ▸ member), (plain.1 c member).2⟩

theorem IsIdentifier.harmless {name : String} (identifier : IsIdentifier name) :
    Harmless name.data := fun _ member =>
  ⟨(isIdentChar_harmless (identifier.1 _ member)).1,
    (isIdentChar_harmless (identifier.1 _ member)).2.1⟩

theorem IsIdentifier.nonempty {name : String} (identifier : IsIdentifier name) :
    name.data ≠ [] := by
  obtain ⟨c, member, -⟩ := identifier.2
  exact List.ne_nil_of_mem member

theorem delimited_cons {c : Char} (rest : List Char) (stops : isIdentChar c = false ∧ c ≠ '\'') :
    Delimited (c :: rest) := by
  simpa [Delimited] using stops

/-! ## Numerals -/

theorem readDigits_append (acc : Nat) (digits rest : List Char)
    (allDigits : ∀ c ∈ digits, c.isDigit = true) (stop : ∀ c ∈ rest.head?, c.isDigit = false) :
    readDigits acc (digits ++ rest) = (digits.foldl pushDigit acc, rest) := by
  induction digits generalizing acc with
  | nil =>
      cases rest with
      | nil => rfl
      | cons c after => simp [readDigits, stop c rfl]
  | cons c digits inductionHypothesis =>
      simp only [List.cons_append, readDigits, allDigits c (List.mem_cons_self _ _), ↓reduceIte,
        List.foldl_cons]
      exact inductionHypothesis _ fun d member => allDigits d (List.mem_cons_of_mem _ member)

theorem digitChar_digit :
    ∀ value < 10, (Nat.digitChar value).isDigit = true ∧
      digitValue (Nat.digitChar value) = value := by
  decide

/-- `Nat.toDigitsCore` with enough fuel puts the digits of `n` before `tail`. -/
theorem toDigitsCore_ten (fuel n : Nat) (tail : List Char) (enough : n < fuel) :
    ∃ digits, Nat.toDigitsCore 10 fuel n tail = digits ++ tail ∧ digits ≠ [] ∧
      (∀ c ∈ digits, c.isDigit = true) ∧ digits.foldl pushDigit 0 = n := by
  induction fuel generalizing n tail with
  | zero => omega
  | succ fuel inductionHypothesis =>
      obtain ⟨isDigit, value⟩ := digitChar_digit _ (Nat.mod_lt n (by decide))
      rw [show Nat.toDigitsCore 10 (fuel + 1) n tail =
          if n / 10 = 0 then Nat.digitChar (n % 10) :: tail
          else Nat.toDigitsCore 10 fuel (n / 10) (Nat.digitChar (n % 10) :: tail) from rfl]
      split
      · refine ⟨[Nat.digitChar (n % 10)], rfl, by simp, by simpa using isDigit, ?_⟩
        simp [pushDigit, value]
        omega
      · obtain ⟨digits, shape, -, allDigits, folded⟩ :=
          inductionHypothesis (n / 10) (Nat.digitChar (n % 10) :: tail) (by omega)
        refine ⟨digits ++ [Nat.digitChar (n % 10)], by simp [shape], by simp, ?_, ?_⟩
        · simpa [or_imp, forall_and] using ⟨allDigits, isDigit⟩
        · rw [List.foldl_append, folded]
          simp [pushDigit, value]
          omega

/-- The digits `Nat.repr` writes. -/
theorem repr_digits (n : Nat) :
    ∃ first later, (Nat.repr n).data = first :: later ∧ first.isDigit = true ∧
      (∀ c ∈ later, c.isDigit = true) ∧ later.foldl pushDigit (digitValue first) = n := by
  obtain ⟨digits, shape, nonempty, allDigits, folded⟩ := toDigitsCore_ten (n + 1) n [] (by omega)
  obtain ⟨first, later, rfl⟩ := List.exists_cons_of_ne_nil nonempty
  refine ⟨first, later,
    by rw [show (Nat.repr n).data = Nat.toDigitsCore 10 (n + 1) n [] from rfl, shape, List.append_nil],
    allDigits first (List.mem_cons_self _ _),
    fun c member => allDigits c (List.mem_cons_of_mem _ member), ?_⟩
  simpa [pushDigit] using folded

/-- Python's `str` of an integer writes only digits and a minus sign. -/
theorem toString_int_chars (value : Int) :
    ∀ c ∈ (toString value).data, c = '-' ∨ c.isDigit = true := by
  have digits : ∀ n, ∀ c ∈ (Nat.repr n).data, c.isDigit = true := fun n c member => by
    obtain ⟨first, later, written, firstDigit, allDigits, -⟩ := repr_digits n
    rw [written] at member
    rcases List.mem_cons.mp member with rfl | later
    exacts [firstDigit, allDigits c later]
  cases value with
  | ofNat n => exact fun c member => .inr (digits n c member)
  | negSucc n =>
      intro c member
      simp only [toString, Int.repr, String.data_append, List.mem_append] at member
      rcases member with sign | member
      · exact .inl (by simpa using sign)
      · exact .inr (digits _ c member)

/-- Python's `str` of an integer needs no escaping for `text()`. -/
theorem harmless_toString (value : Int) : Harmless (toString value).data := fun c member => by
  rcases toString_int_chars value c member with rfl | digit
  · decide
  · exact ⟨(isIdentChar_harmless (isIdentChar_of_isDigit digit)).1,
      (isIdentChar_harmless (isIdentChar_of_isDigit digit)).2.1⟩

/-- MySQL reads back the numeral `Nat.repr` writes. -/
theorem readNat_repr (n : Nat) (rest : List Char) (stop : ∀ c ∈ rest.head?, c.isDigit = false) :
    readNat ((Nat.repr n).data ++ rest) = some (n, rest) := by
  obtain ⟨first, later, written, firstDigit, allDigits, folded⟩ := repr_digits n
  rw [written, List.cons_append, readNat, if_pos firstDigit,
    readDigits_append _ later rest allDigits stop, folded]

/-- MySQL reads back the numeral Python's `str` writes for an integer. -/
theorem readInt_toString (value : Int) (rest : List Char)
    (stop : ∀ c ∈ rest.head?, c.isDigit = false) :
    readInt ((toString value).data ++ rest) = some (value, rest) := by
  cases value with
  | ofNat n =>
      obtain ⟨first, later, written, firstDigit, -⟩ := repr_digits n
      have notMinus : first ≠ '-' := by
        rintro rfl
        exact absurd firstDigit (by decide)
      have shown : (toString (Int.ofNat n)).data = (Nat.repr n).data := rfl
      rw [shown, written, List.cons_append, readInt.eq_2 _ (by simp [notMinus]),
        ← List.cons_append, ← written, readNat_repr n rest stop]
      rfl
  | negSucc n =>
      have shown : (toString (Int.negSucc n)).data = '-' :: (Nat.repr (n + 1)).data := by
        simp [toString, Int.repr]
      rw [shown, List.cons_append, readInt, readNat_repr _ rest stop]
      rfl

/-! ## Quoted strings -/

/-- A character other than a quote or a backslash stands for itself. -/
theorem readQuoted_plain {c : Char} (rest : List Char) (notQuote : c ≠ '\'')
    (notBackslash : c ≠ '\\') :
    readQuoted (c :: rest) = (readQuoted rest).map fun (text, after) => (c :: text, after) :=
  readQuoted.eq_4 c rest (fun _ quote _ => notQuote quote) notQuote
    (fun _ _ backslash _ => notBackslash backslash)

/-- MySQL reads back quotable text closed by a quote, when no second quote follows. -/
theorem readQuoted_quotable (text rest : List Char) (quotable : Quotable text)
    (stop : ∀ c ∈ rest.head?, c ≠ '\'') :
    readQuoted (text ++ '\'' :: rest) = some (text, rest) := by
  induction text with
  | nil =>
      cases rest with
      | nil => rfl
      | cons c after => simp [readQuoted, stop c rfl]
  | cons c text inductionHypothesis =>
      obtain ⟨notQuote, notBackslash⟩ := quotable c (List.mem_cons_self _ _)
      rw [List.cons_append, readQuoted_plain _ notQuote notBackslash,
        inductionHypothesis fun d member => quotable d (List.mem_cons_of_mem _ member)]
      rfl

/-! ## Literals and names -/

/-- Python's `str` of an integer starts with a minus sign or a digit. -/
theorem toString_int_head (value : Int) :
    ∃ first later, (toString value).data = first :: later ∧
      (first = '-' ∨ first.isDigit = true) := by
  cases value with
  | ofNat n =>
      obtain ⟨first, later, written, digit, -⟩ := repr_digits n
      exact ⟨first, later, written, .inr digit⟩
  | negSucc n => exact ⟨'-', (Nat.repr (n + 1)).data, by simp [toString, Int.repr], .inl rfl⟩

theorem readLiteral_null (rest : List Char) (delimited : Delimited rest) :
    readLiteral ("NULL".data ++ rest) = some (.null, rest) := by
  cases rest with
  | nil => rfl
  | cons c after => simp [readLiteral, (delimited c rfl).1]

theorem readLiteral_int (value : Int) (rest : List Char) (delimited : Delimited rest) :
    readLiteral ((toString value).data ++ rest) = some (.int value, rest) := by
  have stop : ∀ c ∈ rest.head?, c.isDigit = false := fun c first =>
    Bool.eq_false_iff.mpr fun digit =>
      absurd (isIdentChar_of_isDigit digit) (by simp [(delimited c first).1])
  obtain ⟨first, later, written, leading⟩ := toString_int_head value
  have notStart : ∀ c cs, c = 'N' ∨ c = '\'' → (toString value).data ++ rest ≠ c :: cs := by
    rintro c cs letter same
    rw [written, List.cons_append, List.cons.injEq] at same
    rcases same with ⟨rfl, -⟩
    rcases letter with rfl | rfl <;> rcases leading with wrong | wrong <;> revert wrong <;> decide
  have notLetter := fun cs => notStart 'N' ('U' :: 'L' :: 'L' :: cs) (.inl rfl)
  have notQuote := fun cs => notStart '\'' cs (.inr rfl)
  rw [readLiteral.eq_3 _ notLetter notQuote, readInt_toString value rest stop]
  rfl

theorem readLiteral_quoted (text : String) (rest : List Char) (quotable : Quotable text.data)
    (delimited : Delimited rest) :
    readLiteral (("'" ++ text ++ "'").data ++ rest) = some (.str text, rest) := by
  have written : ("'" ++ text ++ "'").data ++ rest = '\'' :: (text.data ++ '\'' :: rest) := by
    simp
  rw [written, readLiteral, readQuoted_quotable _ _ quotable fun c first => (delimited c first).2]
  rfl

theorem readName_identifier (name : String) (rest : List Char) (identifier : IsIdentifier name)
    (delimited : Delimited rest) :
    readName (name.data ++ rest) = some (name, rest) := by
  obtain ⟨data⟩ := name
  obtain ⟨allIdent, notDigit, member, notAllDigits⟩ := identifier
  have restStops : rest.takeWhile isIdentChar = [] ∧ rest.dropWhile isIdentChar = rest := by
    cases rest with
    | nil => simp
    | cons c after => simp [(delimited c rfl).1]
  have notAll : ¬ data.all Char.isDigit := by
    simp only [List.all_eq_true, not_forall]
    exact ⟨notDigit, member, by simp [notAllDigits]⟩
  simp only [String.data] at allIdent
  simp [readName, List.takeWhile_append_of_pos allIdent, List.dropWhile_append_of_pos allIdent,
    restStops, notAll]

@[simp] theorem expect_append (word : String) (rest : List Char) :
    expect word (word.data ++ rest) = some rest := by
  rw [expect]
  induction word.data with
  | nil => rfl
  | cons w word inductionHypothesis => simp [expectChars, inductionHypothesis]

/-! ## SQLAlchemy's `text()` -/

/-- Python's `\w` on ASCII text: letters, digits and the underscore. -/
def asciiWord (c : Char) : Bool :=
  c.isAlphanum || c == '_'

section TextClause

-- Python's `\w` for the `str` the code passes: the Unicode word characters.
variable (word : Char → Bool)

/-- A character of a bind name, `[\w\$]`. -/
def bindChar (c : Char) : Bool :=
  word c || c == '$'

/--
`BIND_PARAMS`, `(?<![:\w\$\\]):([\w\$]+)(?![:\w\$])`: some colon follows no
name character, colon or backslash (`previous` is the character before
`cs`) and is followed by a name that no colon follows.
-/
def hasBindParam (previous : Option Char) : List Char → Bool
  | ':' :: rest =>
      (previous.all fun p => !(bindChar word p || p == ':' || p == '\\')) &&
          !(rest.takeWhile (bindChar word)).isEmpty &&
          (rest.dropWhile (bindChar word)).head? != some ':' ||
        hasBindParam (some ':') rest
  | c :: rest => hasBindParam (some c) rest
  | [] => false

/-- `BIND_PARAMS_ESC`, `\\(:[\w\$]*)(?![:\w\$])`: an escaped colon loses its backslash. -/
def unescapeColons : List Char → List Char
  | '\\' :: ':' :: rest =>
      if (rest.dropWhile (bindChar word)).head? = some ':' then
        '\\' :: ':' :: unescapeColons rest
      else ':' :: unescapeColons rest
  | c :: rest => c :: unescapeColons rest
  | [] => []

/--
`session.execute` on a string: `text()` raises when the statement holds a
bind parameter, for no value is given; otherwise MySQL receives the text with
its escaped colons unescaped.
-/
def textClause (cs : List Char) : Option (List Char) :=
  if hasBindParam word none cs then none else some (unescapeColons word cs)

theorem hasBindParam_of_colon_free (previous : Option Char) (cs : List Char)
    (colonFree : ':' ∉ cs) : hasBindParam word previous cs = false := by
  induction cs generalizing previous with
  | nil => rfl
  | cons c rest inductionHypothesis =>
      have notColon : c ≠ ':' := fun same => colonFree (same ▸ List.mem_cons_self _ _)
      rw [hasBindParam.eq_2 word previous c rest notColon]
      exact inductionHypothesis _ fun member => colonFree (List.mem_cons_of_mem _ member)

theorem unescapeColons_of_backslash_free (cs : List Char) (backslashFree : '\\' ∉ cs) :
    unescapeColons word cs = cs := by
  induction cs with
  | nil => rfl
  | cons c rest inductionHypothesis =>
      have notBackslash : c ≠ '\\' := fun same => backslashFree (same ▸ List.mem_cons_self _ _)
      rw [unescapeColons.eq_2 word c rest fun _ same _ => notBackslash same,
        inductionHypothesis fun member => backslashFree (List.mem_cons_of_mem _ member)]

/-- A statement with no colon and no backslash reaches MySQL as written. -/
theorem textClause_harmless (cs : List Char) (harmless : Harmless cs) :
    textClause word cs = some cs := by
  have colonFree : ':' ∉ cs := fun member => (harmless ':' member).1 rfl
  have backslashFree : '\\' ∉ cs := fun member => (harmless '\\' member).2 rfl
  simp [textClause, hasBindParam_of_colon_free word none cs colonFree,
    unescapeColons_of_backslash_free word cs backslashFree]

end TextClause

end MITuna.Sql
