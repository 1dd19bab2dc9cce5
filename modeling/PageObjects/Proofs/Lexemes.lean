import Mathlib.Tactic.IntervalCases
import PageObjects.Settings.Token

/-!
# Lexemes shared by the selector and settings lexers

Both lexers read quoted texts, numbers and words by the same rules:
`UiSelector.quotedLength` closes a quoted text, `UiSelector.numberAt?` reads
a number and `UiSelector.isWordPart` continues a word. This module says which
characters these rules read in full, and what they read them as:

* a quoted text is read exactly when its inside is in the quoted-text language
  (`QuotedBody`): no quote, and every backslash followed by a character other
  than a line feed;
* a number is an optional minus sign and decimal digits of any script
  (`SpellsNumber`), read up to the first character that is not a digit; the
  decimal text of an integer is one, and reads back as that integer;
* a word starts with a letter or `_` and goes on with letters, digits and `_`;
  it never starts like a number.
-/

namespace PageObjects

namespace Text

theorem toNat_of_isDigit {c : Char} (digit : c.isDigit = true) : 48 ≤ c.toNat ∧ c.toNat ≤ 57 := by
  simp only [Char.isDigit, Bool.and_eq_true, decide_eq_true_eq] at digit
  exact ⟨digit.1, digit.2⟩

/-- An ASCII digit is a decimal digit: it lies in the first block of digits. -/
theorem isDecimalDigit_of_isDigit {c : Char} (digit : c.isDigit = true) : isDecimalDigit c = true := by
  obtain ⟨low, high⟩ := toNat_of_isDigit digit
  show decimalRanges.contains c.toNat = true
  generalize c.toNat = point at low high
  interval_cases point <;> decide +kernel

/-- An ASCII digit is valued by its distance from `0`. -/
theorem decimalValue_of_isDigit {c : Char} (digit : c.isDigit = true) :
    decimalValue c = c.toNat - '0'.toNat := by
  obtain ⟨low, high⟩ := toNat_of_isDigit digit
  unfold decimalValue
  -- the first block of digits is the ASCII one, so the search stops there
  rw [show decimalRanges.intervals.toList = (0x30, 0x39) :: decimalRanges.intervals.toList.tail from rfl,
    List.find?_cons_of_pos (by simp; omega)]
  have inBlock : c.toNat - 48 < 10 := by omega
  simp only [Char.reduceToNat, Nat.mod_eq_of_lt inBlock]

theorem foldl_decimalValue_of_isDigit (digits : List Char) (init : Nat)
    (ascii : ∀ c ∈ digits, c.isDigit = true) :
    digits.foldl (fun acc c => acc * 10 + decimalValue c) init = Nat.ofDigitChars 10 digits init := by
  induction digits generalizing init with
  | nil => rfl
  | cons c digits ih =>
    rw [List.foldl_cons, Nat.ofDigitChars_cons, decimalValue_of_isDigit (ascii c (by simp)),
      Nat.mul_comm init 10]
    exact ih _ (fun d mem => ascii d (List.mem_cons_of_mem c mem))

/-- The decimal digits of a natural number read back as that number. -/
theorem decimalNumber_toDigits (n : Nat) : decimalNumber (Nat.toDigits 10 n) = n := by
  unfold decimalNumber
  rw [foldl_decimalValue_of_isDigit _ _ (fun c mem => Nat.isDigit_of_mem_toDigits (by omega) (by omega) mem)]
  exact Nat.ofDigitChars_ten_toDigits

end Text

namespace UiSelector

/-- A character that may start a word is no decimal digit, so a word never
starts like a number. -/
theorem not_isDecimalDigit_of_isWordStart {c : Char} (start : isWordStart c = true) :
    Text.isDecimalDigit c = false := by
  simp only [isWordStart, Bool.or_eq_true, decide_eq_true_eq, beq_iff_eq, Char.le_def,
    UInt32.le_iff_toNat_le] at start
  show Text.decimalRanges.contains c.val.toNat = false
  rcases start with (⟨low, high⟩ | ⟨low, high⟩) | underscore
  · generalize c.val.toNat = point at low high
    simp only [Char.reduceVal, UInt32.reduceToNat] at low high
    interval_cases point <;> decide +kernel
  · generalize c.val.toNat = point at low high
    simp only [Char.reduceVal, UInt32.reduceToNat] at low high
    interval_cases point <;> decide +kernel
  · subst underscore
    decide +kernel

/-- The inside of a quoted text, as the quoted-text rule reads it: characters
other than a quote and a backslash, and a backslash followed by any character
but a line feed. -/
inductive QuotedBody : List Char → Prop where
  | nil : QuotedBody []
  | plain {c : Char} {rest : List Char} (notQuote : c ≠ '"') (notBackslash : c ≠ '\\') :
      QuotedBody rest → QuotedBody (c :: rest)
  | escape {c : Char} {rest : List Char} (notLineFeed : c ≠ '\n') :
      QuotedBody rest → QuotedBody ('\\' :: c :: rest)

/-- A quoted text closes at the first quote after its inside. -/
theorem quotedLength_of_body {body : List Char} (inside : QuotedBody body) (rest : List Char) :
    quotedLength (body ++ '"' :: rest) = some (body.length + 1) := by
  induction inside with
  | nil => rfl
  | @plain c more notQuote notBackslash _ ih =>
    rw [List.cons_append, quotedLength.eq_5 _ _ notQuote (fun _ _ same => absurd same notBackslash)
      (fun same => absurd same notBackslash), ih]
    simp
  | @escape c more notLineFeed _ ih =>
    rw [List.cons_append, List.cons_append, quotedLength]
    simp [notLineFeed, ih]

/-- What closes is a quoted text: an inside in the language, then a quote. -/
theorem body_of_quotedLength {cs : List Char} {n : Nat} (closes : quotedLength cs = some n) :
    ∃ body rest, cs = body ++ '"' :: rest ∧ QuotedBody body ∧ n = body.length + 1 := by
  induction cs using quotedLength.induct generalizing n with
  | case1 => simp [quotedLength] at closes
  | case2 rest => exact ⟨[], rest, rfl, .nil, by simpa [quotedLength] using closes.symm⟩
  | case3 c rest lineFeed =>
    simp [quotedLength, lineFeed] at closes
  | case4 c rest lineFeed ih =>
    rw [quotedLength.eq_3, if_neg lineFeed, Option.map_eq_some_iff] at closes
    obtain ⟨m, inner, rfl⟩ := closes
    obtain ⟨body, after, rfl, inside, rfl⟩ := ih inner
    exact ⟨'\\' :: c :: body, after, rfl, .escape (by simpa using lineFeed) inside, by simp⟩
  | case5 => simp [quotedLength] at closes
  | case6 c rest notQuote notEscape notLone ih =>
    rw [quotedLength.eq_5 _ _ notQuote notEscape notLone, Option.map_eq_some_iff] at closes
    obtain ⟨m, inner, rfl⟩ := closes
    obtain ⟨body, after, rfl, inside, rfl⟩ := ih inner
    have notBackslash : c ≠ '\\' := by
      intro same
      cases body with
      | nil => exact notEscape '"' after same rfl
      | cons d more => exact notEscape d (more ++ '"' :: after) same rfl
    exact ⟨c :: body, after, rfl, .plain notQuote notBackslash inside, by simp⟩

/-- A number as both lexers spell it: an optional minus sign and one or more
decimal digits of any script, valued most significant digit first. -/
inductive SpellsNumber : Int → Nat → List Char → Prop where
  | mk (negative : Bool) (digits : List Char) (nonempty : digits ≠ [])
      (decimal : ∀ c ∈ digits, Text.isDecimalDigit c = true) :
      SpellsNumber (if negative then -(Text.decimalNumber digits : Int) else Text.decimalNumber digits)
        digits.length ((if negative then ['-'] else []) ++ digits)

/-- A run of characters that all pass a test, followed by one that fails it,
is taken whole and no further. -/
theorem takeWhile_append_of_stops {p : Char → Bool} {run rest : List Char}
    (passes : ∀ c ∈ run, p c = true) (stops : ∀ c ∈ rest.head?, p c = false) :
    (run ++ rest).takeWhile p = run := by
  rw [List.takeWhile_append_of_pos passes]
  cases rest with
  | nil => simp
  | cons c more => simp [List.takeWhile_cons_of_neg, stops c rfl]

/-- No number starts at a character other than a minus sign or a digit. -/
theorem numberAt?_eq_none {c : Char} (notMinus : c ≠ '-') (notDigit : Text.isDecimalDigit c = false)
    (rest : List Char) : numberAt? (c :: rest) = none := by
  rw [numberAt?.eq_2 _ (fun _ same => notMinus (List.cons.inj same).1)]
  simp [List.takeWhile_cons_of_neg, notDigit]

/-- A spelled number is read in full when no digit follows it. -/
theorem numberAt?_of_spells {value : Int} {digits : Nat} {cs : List Char}
    (spelled : SpellsNumber value digits cs) {rest : List Char}
    (ends : ∀ c ∈ rest.head?, Text.isDecimalDigit c = false) :
    numberAt? (cs ++ rest) = some (value, digits, cs.length) := by
  obtain ⟨negative, ds, nonempty, decimal⟩ := spelled
  have read := takeWhile_append_of_stops decimal ends
  cases negative with
  | true =>
    simp [numberAt?, read, nonempty]
  | false =>
    obtain ⟨d, more, rfl⟩ := List.exists_cons_of_ne_nil nonempty
    have notMinus : d ≠ '-' := by
      intro same
      have := decimal d (by simp)
      subst same
      revert this
      decide +kernel
    rw [if_neg Bool.false_ne_true, List.nil_append, List.cons_append,
      numberAt?.eq_2 _ (fun after same => notMinus (List.cons.inj same).1), ← List.cons_append, read]
    simp

theorem decimal_of_mem_takeWhile {body : List Char} :
    ∀ c ∈ body.takeWhile Text.isDecimalDigit, Text.isDecimalDigit c = true :=
  List.all_eq_true.mp List.all_takeWhile

/-- What a number reading takes is a spelled number. -/
theorem spells_of_numberAt? {cs : List Char} {value : Int} {digits n : Nat}
    (read : numberAt? cs = some (value, digits, n)) :
    ∃ spelled rest, cs = spelled ++ rest ∧ SpellsNumber value digits spelled ∧ n = spelled.length := by
  by_cases minus : ∃ body, cs = '-' :: body
  · obtain ⟨body, rfl⟩ := minus
    rw [numberAt?.eq_1] at read
    split at read
    · contradiction
    · rename_i nonempty
      simp only [if_true, Option.some.injEq, Prod.mk.injEq] at read
      obtain ⟨rfl, rfl, rfl⟩ := read
      have spelled := SpellsNumber.mk true _ (by simpa using nonempty) decimal_of_mem_takeWhile
      refine ⟨'-' :: body.takeWhile Text.isDecimalDigit, body.dropWhile Text.isDecimalDigit, ?_, ?_, ?_⟩
      · simp
      · simpa using spelled
      · simp
  · rw [numberAt?.eq_2 _ (fun body same => minus ⟨body, same⟩)] at read
    split at read
    · contradiction
    · rename_i nonempty
      simp only [Bool.false_eq_true, if_false, Option.some.injEq, Prod.mk.injEq, Nat.add_zero] at read
      obtain ⟨rfl, rfl, rfl⟩ := read
      have spelled := SpellsNumber.mk false _ (by simpa using nonempty) decimal_of_mem_takeWhile
      exact ⟨cs.takeWhile Text.isDecimalDigit, cs.dropWhile Text.isDecimalDigit, by simp,
        by simpa using spelled, rfl⟩

/-- The decimal text of an integer spells it, with as many digits as its
absolute value has. -/
theorem spells_intText (n : Int) :
    SpellsNumber n (Nat.toDigits 10 n.natAbs).length (Decimal.intText n).toList := by
  have decimal : ∀ c ∈ Nat.toDigits 10 n.natAbs, Text.isDecimalDigit c = true :=
    fun c mem => Text.isDecimalDigit_of_isDigit (Nat.isDigit_of_mem_toDigits (by omega) (by omega) mem)
  have spelled := SpellsNumber.mk (n < 0) _ Nat.toDigits_ne_nil decimal
  rw [Text.decimalNumber_toDigits] at spelled
  by_cases negative : n < 0
  · simp only [negative, decide_true, if_true] at spelled
    rw [show -(n.natAbs : Int) = n by omega] at spelled
    simpa [Decimal.intText, negative, Decimal.natText] using spelled
  · simp only [negative, decide_false] at spelled
    rw [show (n.natAbs : Int) = n by omega] at spelled
    simpa [Decimal.intText, negative, Decimal.natText, show n.toNat = n.natAbs by omega] using spelled

end UiSelector

end PageObjects
