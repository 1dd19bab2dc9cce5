import Mathlib.Data.List.Chain
import PageObjects.Proofs.Lexemes
import PageObjects.Settings.Printer

/-!
# Settings files read back

A settings file is written as sections `compiler { … }` of entries
`key: value`, each entry optionally followed by a comma. Between any two
tokens may stand a `Gap`: spaces, tabs, carriage returns, line feeds, and
comments from `--` to the end of their line. `WrittenSection` and
`WrittenEntry` describe such a file token by token, each token with the gap
after it, and `writtenText` is its text.

Reading a written file gives back its entries in order, each with the line
of its key, which counts the line feeds of the gaps before it
(`readEntries_writtenText`). A key is a word other than the three keywords and
a value is a quoted text in the quoted-text language, a number of at most
`Decimal.digitLimit` digits or a flag. One layout does not read back: a flag
value followed by nothing at all, no comma and no gap, runs into the key
after it, which the lexer then reads as part of one word (`RunsOn`).

Lexing and reading are followed together (`readLexed`), one lexeme or gap
at a time, so that the line of every token is the one its gaps give. On top,
the duplicate check reports the first entry whose key came before, and
settings written by `renderEntries` in any order of their entries load back.
-/

namespace PageObjects.Settings

open UiSelector (QuotedBody SpellsNumber isWordStart isWordPart)

/-! ## Gaps -/

/-- What may stand between two tokens: skipped characters, line feeds, and
comments running to the end of their line. -/
inductive Gap : List Char → Prop where
  | nil : Gap []
  | skipped {c : Char} {rest : List Char} (skip : isSkipped c = true) : Gap rest → Gap (c :: rest)
  | lineFeed {rest : List Char} : Gap rest → Gap ('\n' :: rest)
  | comment {body rest : List Char} (oneLine : '\n' ∉ body) :
      Gap rest → Gap ('-' :: '-' :: (body ++ '\n' :: rest))

/-- The line feeds of a gap, by which the lines after it are further on. -/
def linesIn (gap : String) : Nat :=
  gap.toList.count '\n'

theorem skipped_cases {c : Char} (skip : isSkipped c = true) : c = ' ' ∨ c = '\t' ∨ c = '\r' := by
  simpa [isSkipped, or_assoc] using skip

/-- Skipped characters and line feeds make a gap. -/
theorem gap_of_blanks {gap : List Char} (blank : gap.all (fun c => isSkipped c || c == '\n') = true) :
    Gap gap := by
  induction gap with
  | nil => exact .nil
  | cons c more ih =>
    simp only [List.all_cons, Bool.and_eq_true, Bool.or_eq_true, beq_iff_eq] at blank
    rcases blank with ⟨skip | rfl, rest⟩
    · exact .skipped skip (ih rest)
    · exact .lineFeed (ih rest)

theorem lexFrom_skipped {c : Char} (skip : isSkipped c = true) (line : Nat) (rest : List Char) :
    lexFrom line (c :: rest) = lexFrom line rest := by
  rw [lexFrom.eq_2, if_pos skip]

/-- A run of line feeds is read at once and moves the line on by its length. -/
theorem lexFrom_feeds {run rest : List Char} (feeds : ∀ c ∈ run, c = '\n') (nonempty : run ≠ [])
    (stops : ∀ c ∈ rest.head?, c ≠ '\n') (line : Nat) :
    lexFrom line (run ++ rest) = lexFrom (line + run.length) rest := by
  obtain ⟨c, more, rfl⟩ := List.exists_cons_of_ne_nil nonempty
  obtain rfl : c = '\n' := feeds c (by simp)
  have taken : ((more ++ rest).takeWhile (· == '\n')) = more :=
    UiSelector.takeWhile_append_of_stops (by simpa using fun d mem => feeds d (by simp [mem]))
      (by simpa using stops)
  rw [List.cons_append, lexFrom.eq_2, if_neg (by decide),
    pieceAt?.eq_3 _ _ (fun _ same => absurd same (by decide)) (by decide),
    UiSelector.numberAt?_eq_none (by decide) (by decide +kernel)]
  simp [taken, show isWordStart '\n' = false by decide]

/-- A line feed moves the line on by one, however many line feeds follow it. -/
theorem lexFrom_lineFeed (line : Nat) (rest : List Char) :
    lexFrom line ('\n' :: rest) = lexFrom (line + 1) rest := by
  have feeds : ∀ c ∈ rest.takeWhile (· == '\n'), c = '\n' := by
    simpa using List.all_eq_true.mp (List.all_takeWhile (p := (· == '\n')) (l := rest))
  have stops : ∀ c ∈ (rest.dropWhile (· == '\n')).head?, c ≠ '\n' := by
    intro c first
    have nonempty : rest.dropWhile (· == '\n') ≠ [] := fun empty => by simp [empty] at first
    have same : (rest.dropWhile (· == '\n')).head nonempty = c := by
      simpa [List.head?_eq_some_head nonempty] using first
    simpa [same] using List.head_dropWhile_not (· == '\n') nonempty
  have whole := List.takeWhile_append_dropWhile (p := (· == '\n')) (l := rest)
  rw [← whole, ← List.cons_append, lexFrom_feeds (by simpa using feeds) (by simp) stops]
  by_cases noMore : rest.takeWhile (· == '\n') = []
  · rw [noMore]
    rfl
  · rw [lexFrom_feeds feeds noMore stops]
    simp [Nat.add_assoc, Nat.add_comm 1]

/-- A comment is dropped, up to the line feed that ends it. -/
theorem lexFrom_comment {body : List Char} (oneLine : '\n' ∉ body) (line : Nat) (rest : List Char) :
    lexFrom line ('-' :: '-' :: (body ++ '\n' :: rest)) = lexFrom line ('\n' :: rest) := by
  have taken : (body ++ '\n' :: rest).takeWhile (· != '\n') = body :=
    UiSelector.takeWhile_append_of_stops (fun c mem => bne_iff_ne.mpr fun same => oneLine (same ▸ mem))
      (by simp)
  rw [lexFrom.eq_2, if_neg (by decide), pieceAt?.eq_1, taken]
  simp [Nat.add_comm 2 body.length]

/-- A gap moves the line on by its line feeds and gives no token. -/
theorem lexFrom_gap {gap : List Char} (spaced : Gap gap) (line : Nat) (rest : List Char) :
    lexFrom line (gap ++ rest) = lexFrom (line + gap.count '\n') rest := by
  induction spaced generalizing line with
  | nil => rfl
  | @skipped c more skip _ ih =>
    have notFeed : c ≠ '\n' := by rcases skipped_cases skip with rfl | rfl | rfl <;> decide
    rw [List.cons_append, lexFrom_skipped skip, ih, List.count_cons_of_ne notFeed]
  | @lineFeed more _ ih =>
    rw [List.cons_append, lexFrom_lineFeed, ih, List.count_cons_self]
    simp [Nat.add_assoc, Nat.add_comm 1]
  | @comment body more oneLine _ ih =>
    rw [List.cons_append, List.cons_append, List.append_assoc, List.cons_append, lexFrom_comment oneLine,
      lexFrom_lineFeed, ih]
    simp [List.count_eq_zero_of_not_mem oneLine, Nat.add_assoc, Nat.add_comm 1]

/-! ## Lexemes -/

/-- Whether a character joins a token it directly follows: a word takes in
letters, digits and `_`, a number takes in digits, and every other token ends
on its own. -/
def TokenKind.absorbs : TokenKind → Char → Bool
  | .number _ _, c => Text.isDecimalDigit c
  | .word _, c | .compilerKeyword, c | .trueKeyword, c | .falseKeyword, c => isWordPart c
  | _, _ => false

/-- The characters that spell a token, read whole by the lexer: a quoted text
with its inside in the quoted-text language, a number of at most
`Decimal.digitLimit` digits, a word (a keyword when it is one) and the four
punctuation marks. -/
inductive Lexeme : TokenKind → List Char → Prop where
  | text {raw : String} (inside : QuotedBody raw.toList) : Lexeme (.text raw) ('"' :: raw.toList ++ ['"'])
  | number {value : Int} {digits : Nat} {cs : List Char} (spelled : SpellsNumber value digits cs)
      (short : digits ≤ Decimal.digitLimit) : Lexeme (.number value digits) cs
  | word {c : Char} {cs : List Char} (start : isWordStart c = true) (parts : cs.all isWordPart = true) :
      Lexeme (wordKind (String.ofList (c :: cs))) (c :: cs)
  | colon : Lexeme .colon [':']
  | comma : Lexeme .comma [',']
  | openBrace : Lexeme .openBrace ['\x7b']
  | closeBrace : Lexeme .closeBrace ['\x7d']

/-- A character that is neither a digit nor a word character joins no token. -/
theorem absorbs_eq_false {c : Char} (notDigit : Text.isDecimalDigit c = false)
    (notPart : isWordPart c = false) (kind : TokenKind) : kind.absorbs c = false := by
  cases kind <;> simp [TokenKind.absorbs, notDigit, notPart]

/-- No token takes in the first character of a gap, so a gap after a token
ends it whatever follows. -/
theorem Gap.absorbs_head {gap : List Char} (spaced : Gap gap) (nonempty : gap ≠ []) (kind : TokenKind) :
    ∀ c ∈ gap.head?, kind.absorbs c = false := by
  cases spaced with
  | nil => contradiction
  | skipped skip =>
    rcases skipped_cases skip with rfl | rfl | rfl <;>
      simpa using absorbs_eq_false (by decide +kernel) (by decide) kind
  | lineFeed => simpa using absorbs_eq_false (by decide +kernel) (by decide) kind
  | comment => simpa using absorbs_eq_false (by decide +kernel) (by decide) kind

/-- A token followed by a gap ends there, and with an empty gap it ends if
what follows ends it. -/
theorem Gap.absorbs_append {gap rest : List Char} (spaced : Gap gap) {kind : TokenKind}
    (ends : gap = [] → ∀ c ∈ rest.head?, kind.absorbs c = false) :
    ∀ c ∈ (gap ++ rest).head?, kind.absorbs c = false := by
  cases gap with
  | nil => simpa using ends rfl
  | cons c more => simpa using spaced.absorbs_head (List.cons_ne_nil c more) kind

/-- A name of word characters, not starting with a digit, spells its word kind. -/
theorem Lexeme.of_name {name : String} {c : Char} {cs : List Char} (chars : name.toList = c :: cs)
    (start : isWordStart c = true) (parts : cs.all isWordPart = true) :
    Lexeme (wordKind name) name.toList := by
  have spelled := Lexeme.word start parts
  rwa [← chars, String.ofList_toList] at spelled

/-- A lexeme is never an overlong number. -/
theorem Lexeme.oversized_eq_none {kind : TokenKind} {cs : List Char} (spelled : Lexeme kind cs) :
    kind.oversized? = none := by
  cases spelled with
  | number _ short => simp [TokenKind.oversized?]; omega
  | word =>
    unfold wordKind
    split <;> rfl
  | _ => rfl

/-- Every lexeme starts with a character that is not skipped. -/
theorem Lexeme.exists_cons {kind : TokenKind} {cs : List Char} (spelled : Lexeme kind cs) :
    ∃ c more, cs = c :: more ∧ isSkipped c = false := by
  cases spelled with
  | text | colon | comma | openBrace | closeBrace => exact ⟨_, _, rfl, rfl⟩
  | number spelled =>
    obtain ⟨negative, ds, nonempty, decimal⟩ := spelled
    obtain ⟨d, more, rfl⟩ := List.exists_cons_of_ne_nil nonempty
    cases negative with
    | true => exact ⟨_, _, rfl, rfl⟩
    | false =>
      refine ⟨d, more, rfl, ?_⟩
      have digit := decimal d (by simp)
      cases skip : isSkipped d
      · rfl
      · rcases skipped_cases skip with rfl | rfl | rfl <;> revert digit <;> decide +kernel
  | @word c cs start =>
    refine ⟨c, cs, rfl, ?_⟩
    cases skip : isSkipped c
    · rfl
    · rcases skipped_cases skip with rfl | rfl | rfl <;> revert start <;> decide

theorem absorbs_wordKind (name : String) (c : Char) : (wordKind name).absorbs c = isWordPart c := by
  unfold wordKind
  split <;> rfl

/-- The lexer reads a lexeme whole when what follows does not join it. -/
theorem pieceAt?_of_lexeme {kind : TokenKind} {cs : List Char} (spelled : Lexeme kind cs)
    {rest : List Char} (ends : ∀ c ∈ rest.head?, kind.absorbs c = false) :
    pieceAt? (cs ++ rest) = some (.token kind, cs.length) := by
  cases spelled with
  | @text raw inside =>
    simp only [List.cons_append, List.append_assoc]
    rw [pieceAt?.eq_2, UiSelector.quotedLength_of_body inside]
    simp
  | @number value digits cs spelled _ =>
    have read := UiSelector.numberAt?_of_spells spelled ends
    obtain ⟨negative, ds, nonempty, decimal⟩ := spelled
    obtain ⟨d, more, rfl⟩ := List.exists_cons_of_ne_nil nonempty
    have first := decimal d (by simp)
    have notMinus : d ≠ '-' := ne_of_apply_ne Text.isDecimalDigit (by rw [first]; decide +kernel)
    have notQuote : d ≠ '"' := ne_of_apply_ne Text.isDecimalDigit (by rw [first]; decide +kernel)
    cases negative with
    | true =>
      simp only [if_true, List.cons_append, List.nil_append] at read ⊢
      rw [pieceAt?.eq_3 _ _ (fun _ _ same => notMinus (List.cons.inj same).1) (by decide), read]
    | false =>
      simp only [Bool.false_eq_true, if_false, List.nil_append, List.cons_append] at read ⊢
      rw [pieceAt?.eq_3 _ _ (fun _ same _ => notMinus same) notQuote, read]
  | @word c cs start parts =>
    have notMinus : c ≠ '-' := ne_of_apply_ne isWordStart (by rw [start]; decide)
    have notQuote : c ≠ '"' := ne_of_apply_ne isWordStart (by rw [start]; decide)
    have word := UiSelector.takeWhile_append_of_stops (List.all_eq_true.mp parts) (fun d mem => by
      rw [← absorbs_wordKind (String.ofList (c :: cs))]
      exact ends d mem)
    rw [List.cons_append, pieceAt?.eq_3 _ _ (fun _ same _ => notMinus same) notQuote,
      UiSelector.numberAt?_eq_none notMinus (UiSelector.not_isDecimalDigit_of_isWordStart start)]
    simp [start, word]
  | colon | comma | openBrace | closeBrace =>
    rw [List.singleton_append, pieceAt?.eq_3 _ _ (fun _ same _ => absurd same (by decide)) (by decide),
      UiSelector.numberAt?_eq_none (by decide) (by decide +kernel)]
    rfl

/-- A lexeme the following character does not join is lexed as one token on
the current line, and lexing goes on after it. -/
theorem lexFrom_lexeme {kind : TokenKind} {cs : List Char} (spelled : Lexeme kind cs)
    {rest : List Char} (ends : ∀ c ∈ rest.head?, kind.absorbs c = false) (line : Nat) :
    lexFrom line (cs ++ rest) = ⟨⟨kind, line⟩ :: (lexFrom line rest).tokens, (lexFrom line rest).stop⟩ := by
  have read := pieceAt?_of_lexeme spelled ends
  obtain ⟨c, more, rfl, notSkipped⟩ := spelled.exists_cons
  rw [List.cons_append] at read ⊢
  rw [lexFrom.eq_2, if_neg (by simp [notSkipped]), read]
  simp [spelled.oversized_eq_none]

/-! ## Keys and values -/

/-- Whether a name is read back as the key it is: a word, and none of the
keywords `compiler`, `true` and `false`. -/
def isKey (name : String) : Bool :=
  match name.toList with
  | c :: cs => isWordStart c && cs.all isWordPart && !(["compiler", "true", "false"].contains name)
  | [] => false

theorem isKey_cons {name : String} (key : isKey name = true) :
    ∃ c cs, name.toList = c :: cs ∧ isWordStart c = true ∧ cs.all isWordPart = true := by
  unfold isKey at key
  split at key
  · rename_i c cs chars
    simp only [Bool.and_eq_true] at key
    exact ⟨c, cs, chars, key.1.1, key.1.2⟩
  · contradiction

theorem wordKind_of_isKey {name : String} (key : isKey name = true) : wordKind name = .word name := by
  have plain : name ∉ ["compiler", "true", "false"] := by
    unfold isKey at key
    split at key <;> simp_all
  unfold wordKind
  split <;> simp_all

/-- A key spells the word it is. -/
theorem Lexeme.of_key {name : String} (key : isKey name = true) : Lexeme (.word name) name.toList := by
  obtain ⟨c, cs, chars, start, parts⟩ := isKey_cons key
  rw [← wordKind_of_isKey key]
  exact Lexeme.of_name chars start parts

/-- The token a value's text is read as. -/
def Value.kind : Value → TokenKind
  | .text raw => .text raw
  | .number value => .number value (Nat.toDigits 10 value.natAbs).length
  | .flag true => .trueKeyword
  | .flag false => .falseKeyword

/-- Whether a value's text reads back as the value: a text in the
quoted-text language, a number of at most `Decimal.digitLimit` digits, or a
flag. -/
def Value.Writable : Value → Prop
  | .text raw => QuotedBody raw.toList
  | .number value => (Nat.toDigits 10 value.natAbs).length ≤ Decimal.digitLimit
  | .flag _ => True

/-- The text of a value that may be written spells its token. -/
theorem Value.lexeme {value : Value} (writable : value.Writable) : Lexeme value.kind value.render.toList := by
  cases value with
  | text raw => simpa [Value.render, Value.kind] using Lexeme.text writable
  | number value => exact .number (UiSelector.spells_intText value) writable
  | flag b =>
    cases b with
    | true =>
      have spelled : Lexeme (wordKind "true") "true".toList := Lexeme.of_name rfl (by decide) (by decide)
      exact spelled
    | false =>
      have spelled : Lexeme (wordKind "false") "false".toList := Lexeme.of_name rfl (by decide) (by decide)
      exact spelled

@[simp]
theorem valueOf?_kind (value : Value) : valueOf? value.kind = some value := by
  cases value with
  | flag b => cases b <;> rfl
  | _ => rfl

/-! ## Written files -/

/-- An entry as a file may write it: its key, colon and value, optionally a
comma, and after each of these tokens the gap that follows it. -/
structure WrittenEntry where
  key : String
  afterKey : String
  afterColon : String
  value : Value
  afterValue : String
  /-- The gap after the comma, when a comma is written. -/
  comma : Option String

namespace WrittenEntry

/-- The text of a written entry. -/
def text (e : WrittenEntry) : String :=
  e.key ++ e.afterKey ++ ":" ++ e.afterColon ++ e.value.render ++ e.afterValue ++
    (e.comma.map ("," ++ ·)).getD ""

/-- The line feeds in the gaps of a written entry. -/
def lineCount (e : WrittenEntry) : Nat :=
  linesIn e.afterKey + linesIn e.afterColon + linesIn e.afterValue + (e.comma.map linesIn).getD 0

/-- An entry whose flag value is followed by nothing, neither a comma nor a
gap: the key of a next entry runs into the value, and the two are read as one
word. -/
def RunsOn (e : WrittenEntry) : Prop :=
  (∃ b, e.value = .flag b) ∧ e.afterValue = "" ∧ e.comma = none

/-- What an entry needs to be read back: a key, a value that may be written,
and gaps after its tokens. -/
structure Valid (e : WrittenEntry) : Prop where
  keyed : isKey e.key = true
  writable : e.value.Writable
  afterKey : Gap e.afterKey.toList
  afterColon : Gap e.afterColon.toList
  afterValue : Gap e.afterValue.toList
  afterComma : ∀ gap ∈ e.comma, Gap gap.toList

/-- An entry whose gaps hold only skipped characters and line feeds is read
back when its key is a key and its value may be written. -/
theorem Valid.of_blanks {e : WrittenEntry} (keyed : isKey e.key = true) (writable : e.value.Writable)
    (blank : ([e.afterKey, e.afterColon, e.afterValue] ++ e.comma.toList).all
      (fun gap => gap.toList.all fun c => isSkipped c || c == '\n') = true) : e.Valid := by
  have gaps := List.all_eq_true.mp blank
  exact ⟨keyed, writable, gap_of_blanks (gaps _ (by simp)), gap_of_blanks (gaps _ (by simp)),
    gap_of_blanks (gaps _ (by simp)),
    fun gap mem => gap_of_blanks (gaps gap (List.mem_append_right _ (Option.mem_toList.mpr mem)))⟩

/-- The entries written one after another from a line on, each with the line
of its key. -/
def entriesFrom : Nat → List WrittenEntry → List Entry
  | _, [] => []
  | line, e :: es => ⟨e.key, e.value, line⟩ :: entriesFrom (line + e.lineCount) es

/-- The line feeds in the gaps of entries written one after another. -/
def linesOf : List WrittenEntry → Nat
  | [] => 0
  | e :: es => e.lineCount + linesOf es

end WrittenEntry

/-- A section as a file may write it: `compiler`, `{`, its entries and `}`,
each token followed by its gap. -/
structure WrittenSection where
  afterCompiler : String
  afterOpen : String
  entries : List WrittenEntry
  afterClose : String

namespace WrittenSection

/-- The text of a written section. -/
def text (s : WrittenSection) : String :=
  "compiler" ++ s.afterCompiler ++ "\x7b" ++ s.afterOpen ++ String.join (s.entries.map WrittenEntry.text) ++
    "\x7d" ++ s.afterClose

/-- The line feeds in the gaps of a written section. -/
def lineCount (s : WrittenSection) : Nat :=
  linesIn s.afterCompiler + linesIn s.afterOpen + WrittenEntry.linesOf s.entries + linesIn s.afterClose

/-- What a section needs to be read back: entries that are read back, gaps
after its tokens, and no entry but the last one running on. -/
structure Valid (s : WrittenSection) : Prop where
  afterCompiler : Gap s.afterCompiler.toList
  afterOpen : Gap s.afterOpen.toList
  entries : ∀ e ∈ s.entries, e.Valid
  apart : ∀ e ∈ s.entries.dropLast, ¬ e.RunsOn
  afterClose : Gap s.afterClose.toList

/-- A section whose gaps hold only skipped characters and line feeds is read
back when its entries are and none but the last runs on. -/
theorem Valid.of_blanks {s : WrittenSection} (entries : ∀ e ∈ s.entries, e.Valid)
    (apart : ∀ e ∈ s.entries.dropLast, ¬ e.RunsOn)
    (blank : [s.afterCompiler, s.afterOpen, s.afterClose].all
      (fun gap => gap.toList.all fun c => isSkipped c || c == '\n') = true) : s.Valid := by
  have gaps := List.all_eq_true.mp blank
  exact ⟨gap_of_blanks (gaps _ (by simp)), gap_of_blanks (gaps _ (by simp)), entries, apart,
    gap_of_blanks (gaps _ (by simp))⟩

/-- The entries of sections written one after another from a line on, each
with the line of its key. -/
def entriesFrom : Nat → List WrittenSection → List Entry
  | _, [] => []
  | line, s :: ss =>
    WrittenEntry.entriesFrom (line + linesIn s.afterCompiler + linesIn s.afterOpen) s.entries ++
      entriesFrom (line + s.lineCount) ss

end WrittenSection

/-- The text of a settings file written as a leading gap and sections. -/
def writtenText (lead : String) (sections : List WrittenSection) : String :=
  lead ++ String.join (sections.map WrittenSection.text)

/-- The entries of a written settings file, each with the line of its key;
lines count from one. -/
def writtenEntries (lead : String) (sections : List WrittenSection) : List Entry :=
  WrittenSection.entriesFrom (1 + linesIn lead) sections

/-! ## Reading a written file -/

/-- Reads the tokens of a lexer run from a stage, after the entries read so
far (the newest first), ending as the run ended. -/
def readLexed (stage : Stage) (done : List Entry) (lexed : Lexed) : Except ParseError (List Entry) :=
  readEntries lexed.stop stage done lexed.tokens

/-- A stage where an entry or the end of its section may come: the start of
a section's entries, or after a value. -/
def Stage.TakesEntry (stage : Stage) : Prop :=
  stage = .entries ∨ stage = .afterValue

theorem step_key {stage : Stage} (takes : stage.TakesEntry) (key : String) (line : Nat) :
    step stage ⟨.word key, line⟩ = some (.afterKey key line, none) := by
  rcases takes with rfl | rfl <;> rfl

theorem step_closeBrace {stage : Stage} (takes : stage.TakesEntry) (line : Nat) :
    step stage ⟨.closeBrace, line⟩ = some (.sections, none) := by
  rcases takes with rfl | rfl <;> rfl

theorem step_value (key : String) (line : Nat) (value : Value) (valueLine : Nat) :
    step (.afterColon key line) ⟨value.kind, valueLine⟩ = some (.afterValue, some ⟨key, value, line⟩) := by
  simp [step]

/-- A lexeme read as a token that moves the reader on to a next stage without
completing an entry. -/
theorem readLexed_lexeme {kind : TokenKind} {cs : List Char} (spelled : Lexeme kind cs)
    {rest : List Char} (ends : ∀ c ∈ rest.head?, kind.absorbs c = false) {stage next : Stage} {line : Nat}
    (stepped : step stage ⟨kind, line⟩ = some (next, none)) (done : List Entry) :
    readLexed stage done (lexFrom line (cs ++ rest)) = readLexed next done (lexFrom line rest) := by
  rw [lexFrom_lexeme spelled ends]
  simp [readLexed, readEntries, stepped]

/-- A value after a key and its colon completes the entry, on the key's line. -/
theorem readLexed_value {value : Value} (writable : value.Writable) {rest : List Char}
    (ends : ∀ c ∈ rest.head?, value.kind.absorbs c = false) (key : String) (keyLine line : Nat)
    (done : List Entry) :
    readLexed (.afterColon key keyLine) done (lexFrom line (value.render.toList ++ rest)) =
      readLexed .afterValue (⟨key, value, keyLine⟩ :: done) (lexFrom line rest) := by
  rw [lexFrom_lexeme (Value.lexeme writable) ends]
  simp [readLexed, readEntries, step_value]

/-- A punctuation mark ends whatever token comes right before it. -/
theorem absorbs_mark_head (c : Char) (mark : c = ':' ∨ c = ',' ∨ c = '\x7b' ∨ c = '\x7d')
    (kind : TokenKind) (rest : List Char) : ∀ d ∈ ([c] ++ rest).head?, kind.absorbs d = false := by
  intro d first
  obtain rfl : c = d := Option.some.inj first
  rcases mark with rfl | rfl | rfl | rfl <;> exact absorbs_eq_false (by decide +kernel) (by decide) kind

/-- A written entry is read as its key and value on the line of its key, from
a stage that takes an entry to another such stage. -/
theorem readLexed_entry {e : WrittenEntry} (valid : e.Valid) {stage : Stage} (takes : stage.TakesEntry)
    {rest : List Char}
    (ends : e.comma = none → e.afterValue = "" → ∀ c ∈ rest.head?, e.value.kind.absorbs c = false)
    (done : List Entry) (line : Nat) :
    ∃ next : Stage, next.TakesEntry ∧
      readLexed stage done (lexFrom line (e.text.toList ++ rest)) =
        readLexed next (⟨e.key, e.value, line⟩ :: done) (lexFrom (line + e.lineCount) rest) := by
  obtain ⟨key, afterKey, afterColon, value, afterValue, comma⟩ := e
  obtain ⟨keyed, writable, keyGap, colonGap, valueGap, commaGap⟩ := valid
  have colonChars : ":".toList = [':'] := rfl
  have commaChars : ",".toList = [','] := rfl
  -- the value ends at its gap, at a comma, or else where the next entry starts
  have valueEnds : ∀ c ∈ (afterValue.toList ++ ((comma.map ("," ++ ·)).getD "").toList ++ rest).head?,
      value.kind.absorbs c = false := by
    rw [List.append_assoc]
    refine valueGap.absorbs_append fun noGap => ?_
    cases comma with
    | none => simpa using ends rfl (String.toList_eq_nil_iff.mp noGap)
    | some gap =>
      simp only [Option.map_some, Option.getD_some, String.toList_append, commaChars, List.append_assoc]
      exact absorbs_mark_head ',' (by decide) value.kind _
  unfold WrittenEntry.text
  simp only [String.toList_append, List.append_assoc] at valueEnds ⊢
  rw [colonChars]
  rw [readLexed_lexeme (Lexeme.of_key keyed) (keyGap.absorbs_append fun _ => absorbs_mark_head ':' (by decide) _ _)
      (step_key takes key line),
    lexFrom_gap keyGap, readLexed_lexeme Lexeme.colon (fun _ _ => rfl) rfl, lexFrom_gap colonGap,
    readLexed_value writable valueEnds, lexFrom_gap valueGap]
  cases comma with
  | none =>
    refine ⟨.afterValue, .inr rfl, ?_⟩
    simp [WrittenEntry.lineCount, linesIn, Nat.add_assoc]
  | some gap =>
    refine ⟨.entries, .inl rfl, ?_⟩
    simp only [Option.map_some, Option.getD_some, String.toList_append, commaChars, List.append_assoc]
    rw [readLexed_lexeme Lexeme.comma (fun _ _ => rfl) rfl, lexFrom_gap (commaGap gap rfl)]
    simp [WrittenEntry.lineCount, linesIn, Nat.add_assoc]

/-- The text of written entries starts with the first character of the first
key. -/
theorem head_join_text {e : WrittenEntry} {c : Char} {cs : List Char} (chars : e.key.toList = c :: cs)
    (es : List WrittenEntry) (rest : List Char) :
    ((String.join ((e :: es).map WrittenEntry.text)).toList ++ rest).head? = some c := by
  simp [WrittenEntry.text, String.toList_append, chars]

/-- Written entries and the closing brace after them are read as the entries,
each on the line of its key, and end the section. -/
theorem readLexed_entries {es : List WrittenEntry} (valid : ∀ e ∈ es, e.Valid)
    (apart : ∀ e ∈ es.dropLast, ¬ e.RunsOn) {stage : Stage} (takes : stage.TakesEntry) (rest : List Char)
    (done : List Entry) (line : Nat) :
    readLexed stage done (lexFrom line ((String.join (es.map WrittenEntry.text)).toList ++ (['\x7d'] ++ rest))) =
      readLexed .sections ((WrittenEntry.entriesFrom line es).reverse ++ done)
        (lexFrom (line + WrittenEntry.linesOf es) rest) := by
  induction es generalizing stage done line with
  | nil =>
    simpa [WrittenEntry.entriesFrom, WrittenEntry.linesOf] using
      @readLexed_lexeme _ _ Lexeme.closeBrace rest (fun _ _ => rfl) _ _ _ (step_closeBrace takes line) done
  | cons e es ih =>
    -- what follows an entry is the next key or the closing brace; only a
    -- flag runs into a key, and the entries before the last do not run on
    have follows : e.comma = none → e.afterValue = "" →
        ∀ c ∈ ((String.join (es.map WrittenEntry.text)).toList ++ (['\x7d'] ++ rest)).head?,
          e.value.kind.absorbs c = false := by
      intro noComma noGap
      cases es with
      | nil => simpa using absorbs_mark_head '\x7d' (by decide) e.value.kind rest
      | cons next more =>
        obtain ⟨c, cs, chars, start, -⟩ := isKey_cons (valid next (by simp)).keyed
        rw [head_join_text chars]
        intro d same
        obtain rfl : c = d := Option.some.inj same
        cases value : e.value with
        | text raw => rfl
        | number v => exact UiSelector.not_isDecimalDigit_of_isWordStart start
        | flag b => exact absurd ⟨⟨b, value⟩, noGap, noComma⟩ (apart e (by simp))
    have restApart : ∀ e' ∈ es.dropLast, ¬ e'.RunsOn := fun e' mem => apart e' (by
      cases es with
      | nil => simp at mem
      | cons next more => simp [mem])
    obtain ⟨next, takesNext, read⟩ := readLexed_entry (valid e (by simp)) takes follows done line
    rw [List.map_cons, String.join_cons, String.toList_append, List.append_assoc, read,
      ih (fun e' mem => valid e' (by simp [mem])) restApart takesNext]
    simp [WrittenEntry.entriesFrom, WrittenEntry.linesOf, Nat.add_assoc]

/-- A written section is read as its entries, each on the line of its key. -/
theorem readLexed_section {s : WrittenSection} (valid : s.Valid) (rest : List Char) (done : List Entry)
    (line : Nat) :
    readLexed .sections done (lexFrom line (s.text.toList ++ rest)) =
      readLexed .sections
        ((WrittenEntry.entriesFrom (line + linesIn s.afterCompiler + linesIn s.afterOpen) s.entries).reverse ++
          done) (lexFrom (line + s.lineCount) rest) := by
  obtain ⟨afterCompiler, afterOpen, entries, afterClose⟩ := s
  obtain ⟨compilerGap, openGap, entriesValid, apart, closeGap⟩ := valid
  have compiler : Lexeme (wordKind "compiler") "compiler".toList := Lexeme.of_name rfl (by decide) (by decide)
  have openChars : "\x7b".toList = ['\x7b'] := rfl
  have closeChars : "\x7d".toList = ['\x7d'] := rfl
  unfold WrittenSection.text
  simp only [String.toList_append, List.append_assoc]
  rw [openChars, closeChars]
  rw [readLexed_lexeme compiler
      (compilerGap.absorbs_append fun _ => absorbs_mark_head '\x7b' (by decide) _ _) rfl,
    lexFrom_gap compilerGap, readLexed_lexeme Lexeme.openBrace (fun _ _ => rfl) rfl, lexFrom_gap openGap,
    readLexed_entries entriesValid apart (.inl rfl), lexFrom_gap closeGap]
  simp only [WrittenSection.lineCount, linesIn, Nat.add_assoc]

/-- Written sections are read as their entries in order, each on the line of
its key, and the reading ends there. -/
theorem readLexed_sections {ss : List WrittenSection} (valid : ∀ s ∈ ss, s.Valid) (done : List Entry)
    (line : Nat) :
    readLexed .sections done (lexFrom line (String.join (ss.map WrittenSection.text)).toList) =
      .ok (done.reverse ++ WrittenSection.entriesFrom line ss) := by
  induction ss generalizing done line with
  | nil => simp [readLexed, lexFrom, readEntries, WrittenSection.entriesFrom]
  | cons s ss ih =>
    rw [List.map_cons, String.join_cons, String.toList_append, readLexed_section (valid s (by simp)),
      ih (fun s' mem => valid s' (by simp [mem]))]
    simp [WrittenSection.entriesFrom]

/-- A written settings file is read as its entries in order, each on the line
of its key. -/
theorem readEntries_writtenText {lead : String} (leading : Gap lead.toList) {sections : List WrittenSection}
    (valid : ∀ s ∈ sections, s.Valid) :
    readEntries (lex (writtenText lead sections)).stop .sections [] (lex (writtenText lead sections)).tokens =
      .ok (writtenEntries lead sections) := by
  have read := readLexed_sections valid [] (1 + linesIn lead)
  rw [linesIn, ← lexFrom_gap leading] at read
  simpa [readLexed, lex, writtenText, writtenEntries, linesIn, String.toList_append] using read

/-! ## The duplicate check -/

theorem firstDuplicate?_go_eq_none {seen : List String} {es : List Entry} (distinct : (es.map Entry.key).Nodup)
    (fresh : ∀ e ∈ es, e.key ∉ seen) : firstDuplicate?.go seen es = none := by
  induction es generalizing seen with
  | nil => rfl
  | cons e es ih =>
    simp only [List.map_cons, List.nodup_cons, List.mem_map, not_exists, not_and] at distinct
    rw [firstDuplicate?.go, if_neg (by simpa using fresh e (by simp))]
    refine ih distinct.2 fun d mem => ?_
    simp only [List.mem_cons, not_or]
    exact ⟨fun same => distinct.1 d mem same, fresh d (by simp [mem])⟩

theorem firstDuplicate?_go_repeat {seen : List String} {before after : List Entry} {e : Entry}
    (distinct : (before.map Entry.key).Nodup) (fresh : ∀ d ∈ before, d.key ∉ seen)
    (repeats : e.key ∈ before.map Entry.key ∨ e.key ∈ seen) :
    firstDuplicate?.go seen (before ++ e :: after) = some e := by
  induction before generalizing seen with
  | nil =>
    simp only [List.map_nil, List.not_mem_nil, false_or] at repeats
    simp [firstDuplicate?.go, repeats]
  | cons d before ih =>
    simp only [List.map_cons, List.nodup_cons] at distinct
    rw [List.cons_append, firstDuplicate?.go, if_neg (by simpa using fresh d (by simp))]
    refine ih distinct.2 (fun d' mem => ?_) ?_
    · simp only [List.mem_cons, not_or]
      exact ⟨fun same => distinct.1 (same ▸ List.mem_map_of_mem mem), fresh d' (by simp [mem])⟩
    · simp only [List.map_cons, List.mem_cons] at repeats
      simp only [List.mem_cons]
      tauto

/-- Entries of pairwise distinct keys have no duplicate. -/
theorem firstDuplicate?_of_nodup {es : List Entry} (distinct : (es.map Entry.key).Nodup) :
    firstDuplicate? es = none :=
  firstDuplicate?_go_eq_none distinct (by simp)

/-- The duplicate reported is the first entry whose key came before it. -/
theorem firstDuplicate?_of_repeat {before after : List Entry} {e : Entry}
    (distinct : (before.map Entry.key).Nodup) (repeats : e.key ∈ before.map Entry.key) :
    firstDuplicate? (before ++ e :: after) = some e :=
  firstDuplicate?_go_repeat distinct (by simp) (.inl repeats)

/-- Entries of pairwise distinct keys each keep their value, in order. -/
theorem firstValues_of_nodup {es : List Entry} (distinct : (es.map Entry.key).Nodup) :
    firstValues es = es.map fun e => (e.key, e.value) := by
  unfold firstValues
  -- the pairs kept so far never share a key with the entries still to come
  suffices keep : ∀ kept : List (String × Value), (∀ e ∈ es, ∀ p ∈ kept, p.1 ≠ e.key) →
      es.foldl (fun kept e => if kept.any (·.1 == e.key) then kept else kept ++ [(e.key, e.value)]) kept =
        kept ++ es.map fun e => (e.key, e.value) from keep [] (by simp)
  induction es with
  | nil => simp
  | cons e es ih =>
    intro kept fresh
    simp only [List.map_cons, List.nodup_cons, List.mem_map, not_exists, not_and] at distinct
    have unseen : kept.any (·.1 == e.key) = false := by
      simpa using fun p mem => fresh e (by simp) p mem
    rw [List.foldl_cons, unseen, if_neg Bool.false_ne_true, ih distinct.2]
    · simp
    · intro d mem p kept'
      simp only [List.mem_append, List.mem_singleton] at kept'
      rcases kept' with old | rfl
      · exact fresh d (by simp [mem]) p old
      · exact fun same => distinct.1 d mem same.symm

/-- A written file of pairwise distinct keys is parsed as its entries in
order. -/
theorem parse_writtenText_of_nodup {lead : String} (leading : Gap lead.toList) {sections : List WrittenSection}
    (valid : ∀ s ∈ sections, s.Valid) (distinct : ((writtenEntries lead sections).map Entry.key).Nodup) :
    parse (writtenText lead sections) = .ok ((writtenEntries lead sections).map fun e => (e.key, e.value)) := by
  unfold parse
  dsimp only
  rw [readEntries_writtenText leading valid]
  simp only [bind, Except.bind, firstDuplicate?_of_nodup distinct, firstValues_of_nodup distinct]

/-- A written file with a repeated key fails on the first entry whose key came
before it, at the line of that key. -/
theorem parse_writtenText_of_repeat {lead : String} (leading : Gap lead.toList) {sections : List WrittenSection}
    (valid : ∀ s ∈ sections, s.Valid) {before after : List Entry} {e : Entry}
    (split : writtenEntries lead sections = before ++ e :: after) (distinct : (before.map Entry.key).Nodup)
    (repeats : e.key ∈ before.map Entry.key) :
    parse (writtenText lead sections) = .error (.duplicateKey e.key e.line) := by
  unfold parse
  dsimp only
  rw [readEntries_writtenText leading valid]
  simp only [bind, Except.bind, split, firstDuplicate?_of_repeat distinct repeats]

/-! ## Settings written and loaded back -/

/-- Entries as `renderEntries` writes them: no gap after a key, a space after
its colon, a comma and a space after each entry but the last, and a space
after the last. -/
def commaSeparated : List (String × Value) → List WrittenEntry
  | [] => []
  | [p] => [⟨p.1, "", " ", p.2, " ", none⟩]
  | p :: next :: rest => ⟨p.1, "", " ", p.2, "", some " "⟩ :: commaSeparated (next :: rest)

theorem join_commaSeparated {f : String × Value → String}
    (written : ∀ key value, f (key, value) = key ++ ": " ++ value.render) (p : String × Value)
    (ps : List (String × Value)) :
    String.join ((commaSeparated (p :: ps)).map WrittenEntry.text) = ", ".intercalate ((p :: ps).map f) ++ " " := by
  induction ps generalizing p with
  | nil =>
    rw [← String.toList_inj]
    simp [commaSeparated, WrittenEntry.text, written, String.toList_append]
  | cons q qs ih =>
    rw [commaSeparated, List.map_cons, String.join_cons, ih]
    simp only [List.map_cons, String.intercalate_cons_cons]
    rw [← String.toList_inj]
    simp [WrittenEntry.text, written, String.toList_append]

/-- What `renderEntries` writes is one written section. -/
theorem renderEntries_written {f : String × Value → String}
    (written : ∀ key value, f (key, value) = key ++ ": " ++ value.render) (p : String × Value)
    (ps : List (String × Value)) :
    "compiler \x7b " ++ ", ".intercalate ((p :: ps).map f) ++ " \x7d" =
      writtenText "" [⟨" ", " ", commaSeparated (p :: ps), ""⟩] := by
  unfold writtenText
  simp only [List.map_cons, List.map_nil, String.join_cons, String.join_nil]
  unfold WrittenSection.text
  rw [join_commaSeparated written, ← String.toList_inj]
  simp only [String.toList_append, List.append_assoc]
  rfl

theorem renderEntries_cons (p : String × Value) (ps : List (String × Value)) :
    renderEntries (p :: ps) = writtenText "" [⟨" ", " ", commaSeparated (p :: ps), ""⟩] :=
  renderEntries_written (by intros; rfl) p ps

theorem gap_space : Gap " ".toList :=
  gap_of_blanks rfl

/-- Entries written by `renderEntries` are read back when their keys are keys
and their values may be written, and none runs on. -/
theorem commaSeparated_valid {ps : List (String × Value)} (keys : ∀ p ∈ ps, isKey p.1 = true)
    (writable : ∀ p ∈ ps, p.2.Writable) : ∀ e ∈ commaSeparated ps, e.Valid ∧ ¬ e.RunsOn := by
  induction ps with
  | nil => simp [commaSeparated]
  | cons p ps ih =>
    have head : isKey p.1 = true ∧ p.2.Writable := ⟨keys p (by simp), writable p (by simp)⟩
    cases ps with
    | nil =>
      simp only [commaSeparated, List.mem_singleton, forall_eq]
      exact ⟨.of_blanks head.1 head.2 (by simp [isSkipped]), fun runs => by simp [WrittenEntry.RunsOn] at runs⟩
    | cons q qs =>
      rw [commaSeparated]
      intro e mem
      rcases List.mem_cons.mp mem with rfl | mem
      · exact ⟨.of_blanks head.1 head.2 (by simp [isSkipped]), fun runs => by simp [WrittenEntry.RunsOn] at runs⟩
      · exact ih (fun p' mem' => keys p' (by simp [mem'])) (fun p' mem' => writable p' (by simp [mem'])) e mem

theorem commaSeparated_pairs (ps : List (String × Value)) :
    (commaSeparated ps).map (fun e => (e.key, e.value)) = ps := by
  induction ps with
  | nil => rfl
  | cons p ps ih =>
    cases ps with
    | nil => rfl
    | cons q qs => rw [commaSeparated, List.map_cons, ih]

theorem entriesFrom_pairs (line : Nat) (es : List WrittenEntry) :
    (WrittenEntry.entriesFrom line es).map (fun e => (e.key, e.value)) = es.map (fun e => (e.key, e.value)) := by
  induction es generalizing line with
  | nil => rfl
  | cons e es ih => simp [WrittenEntry.entriesFrom, ih]

theorem entriesFrom_keys (line : Nat) (es : List WrittenEntry) :
    (WrittenEntry.entriesFrom line es).map Entry.key = es.map WrittenEntry.key := by
  induction es generalizing line with
  | nil => rfl
  | cons e es ih => simp [WrittenEntry.entriesFrom, ih]

/-- Entries of pairwise distinct keys, written by `renderEntries`, are read
back in order. -/
theorem parse_renderEntries {p : String × Value} {ps : List (String × Value)}
    (keys : ∀ q ∈ p :: ps, isKey q.1 = true) (writable : ∀ q ∈ p :: ps, q.2.Writable)
    (distinct : ((p :: ps).map Prod.fst).Nodup) :
    parse (renderEntries (p :: ps)) = .ok (p :: ps) := by
  have valid := commaSeparated_valid keys writable
  have sectionValid : WrittenSection.Valid ⟨" ", " ", commaSeparated (p :: ps), ""⟩ :=
    ⟨gap_space, gap_space, fun e mem => (valid e mem).1, fun e mem => (valid e (List.dropLast_subset _ mem)).2,
      .nil⟩
  have entries : writtenEntries "" [⟨" ", " ", commaSeparated (p :: ps), ""⟩] =
      WrittenEntry.entriesFrom (1 + linesIn "" + linesIn " " + linesIn " ") (commaSeparated (p :: ps)) := by
    simp [writtenEntries, WrittenSection.entriesFrom]
  have pairs := commaSeparated_pairs (p :: ps)
  have keys : (commaSeparated (p :: ps)).map WrittenEntry.key = (p :: ps).map Prod.fst := by
    simpa [List.map_map, Function.comp_def] using congrArg (List.map Prod.fst) pairs
  rw [renderEntries_cons, @parse_writtenText_of_nodup "" .nil _ (by simpa using sectionValid)
      (by rw [entries, entriesFrom_keys, keys]; exact distinct),
    entries, entriesFrom_pairs, pairs]

/-- Two entries of settings applied one after the other give the same in
either order: each sets its own setting. -/
theorem applyEntry_swap {settings : Settings} {x y : String × Json}
    (first : x ∈ settings.entries.map fun p => (p.1, valueJson p.2))
    (second : y ∈ settings.entries.map fun p => (p.1, valueJson p.2)) (current : Settings × Option Int) :
    (applyEntry current x >>= fun c => applyEntry c y) = (applyEntry current y >>= fun c => applyEntry c x) := by
  simp only [Settings.entries, List.map_cons, List.map_nil, List.mem_cons, List.not_mem_nil, or_false]
    at first second
  rcases first with rfl | rfl | rfl <;> rcases second with rfl | rfl | rfl <;> rfl

/-- The entries of settings with a depth of at least one make those settings,
in whatever order they come. -/
theorem ofEntries_perm {settings : Settings} (deep : 1 ≤ settings.maxPredicateDepth)
    {g : String × Value → String × Json} (asJson : ∀ key value, g (key, value) = (key, valueJson value))
    {order : List (String × Value)} (perm : order.Perm settings.entries) :
    ofEntries (order.map g) = .ok settings := by
  have sameG : g = fun p => (p.1, valueJson p.2) := funext fun ⟨key, value⟩ => asJson key value
  subst sameG
  -- applying the entries commutes, so the canonical order gives the result
  have reordered : (order.map fun p => (p.1, valueJson p.2)).foldlM applyEntry ({}, none) =
      (settings.entries.map fun p => (p.1, valueJson p.2)).foldlM applyEntry ({}, none) := by
    rw [List.foldlM_eq_foldl, List.foldlM_eq_foldl]
    refine (perm.map _).foldl_eq' (fun x first y second z => ?_) _
    have first' := (perm.map _).subset first
    have second' := (perm.map _).subset second
    cases z with
    | error e => rfl
    | ok current => exact applyEntry_swap first' second' current
  obtain ⟨depth, namespace_, strict⟩ := settings
  unfold ofEntries
  rw [reordered]
  have positive : depth ≠ 0 := by simpa using Nat.pos_iff_ne_zero.mp deep
  simp [Settings.entries, valueJson, applyEntry, bind, Except.bind, pure, Except.pure, positive]

/-- Settings of a depth of at least one, of at most `Decimal.digitLimit`
digits, and a namespace in the quoted-text language, load back from their
entries written in any order. -/
theorem ofText_renderEntries_perm {settings : Settings} (deep : 1 ≤ settings.maxPredicateDepth)
    (fits : (Nat.toDigits 10 settings.maxPredicateDepth).length ≤ Decimal.digitLimit)
    (inside : QuotedBody settings.identifierNamespace.toList) {order : List (String × Value)}
    (perm : order.Perm settings.entries) :
    Settings.ofText (renderEntries order) = .ok settings := by
  obtain ⟨p, ps, rfl⟩ : ∃ p ps, order = p :: ps := List.exists_cons_of_length_pos (by simp [perm.length_eq,
    Settings.entries])
  have named : ((p :: ps).map Prod.fst).Perm Settings.keys := perm.map Prod.fst
  have keys : ∀ q ∈ p :: ps, isKey q.1 = true := fun q mem =>
    List.all_eq_true.mp (show Settings.keys.all isKey = true by decide) q.1
      (named.subset (List.mem_map_of_mem mem))
  have writable : ∀ q ∈ p :: ps, q.2.Writable := fun q mem => by
    have := perm.subset mem
    simp only [Settings.entries, List.mem_cons, List.not_mem_nil, or_false] at this
    rcases this with rfl | rfl | rfl
    · exact fits
    · exact inside
    · trivial
  have distinct : ((p :: ps).map Prod.fst).Nodup := named.nodup_iff.mpr (by decide)
  unfold Settings.ofText
  rw [parse_renderEntries keys writable distinct]
  dsimp only
  rw [ofEntries_perm deep ?asJson perm]
  intros
  rfl

/-! ## Reading back -/

/-- A written settings file whose tokens are kept apart is read as its entries
in order when their keys are pairwise distinct, and otherwise fails on the
first entry whose key came before, at the line of that key; settings written
by `renderEntries`, with their entries in any order, load back as the same
settings. -/
theorem written_settings_read_back (lead : String) (sections : List WrittenSection) (settings : Settings)
    (order : List (String × Value)) :
    (Gap lead.toList → (∀ s ∈ sections, s.Valid) →
      (((writtenEntries lead sections).map Entry.key).Nodup →
          parse (writtenText lead sections) = .ok ((writtenEntries lead sections).map fun e => (e.key, e.value))) ∧
        ∀ before e after, writtenEntries lead sections = before ++ e :: after → (before.map Entry.key).Nodup →
          e.key ∈ before.map Entry.key → parse (writtenText lead sections) = .error (.duplicateKey e.key e.line)) ∧
    (1 ≤ settings.maxPredicateDepth → (Nat.toDigits 10 settings.maxPredicateDepth).length ≤ Decimal.digitLimit →
      QuotedBody settings.identifierNamespace.toList → order.Perm settings.entries →
      Settings.ofText (renderEntries order) = .ok settings) :=
  ⟨fun leading valid => ⟨parse_writtenText_of_nodup leading valid,
      fun _ _ _ split distinct repeats => parse_writtenText_of_repeat leading valid split distinct repeats⟩,
    fun deep fits inside perm => ofText_renderEntries_perm deep fits inside perm⟩

theorem commented_sections_read_back :
    parse (writtenText "-- limits\n"
        [⟨" ", "\n  ", [⟨"max_predicate_depth", "", " ", .number 3, "", some "\n"⟩], "\n"⟩,
          ⟨" ", " ", [⟨"namespace", "", " ", .text "x", " ", none⟩,
            ⟨"strict_grammar", "", " ", .flag false, " ", none⟩], ""⟩]) =
        .ok [("max_predicate_depth", .number 3), ("namespace", .text "x"), ("strict_grammar", .flag false)] ∧
      parse (writtenText "" [⟨" ", " ", [⟨"a", "", " ", .number 1, " ", none⟩], "\n"⟩,
          ⟨" ", " ", [⟨"a", "", " ", .number 2, " ", none⟩], ""⟩]) =
        .error (.duplicateKey "a" 2) ∧
      Settings.ofText (renderEntries [("strict_grammar", .flag false), ("max_predicate_depth", .number 3),
          ("namespace", .text "x")]) =
        .ok { maxPredicateDepth := 3, identifierNamespace := "x", strictGrammar := false } := by
  have inside : QuotedBody "x".toList := .plain (by decide) (by decide) .nil
  refine ⟨?_, ?_, ?_⟩
  · rw [((written_settings_read_back _ _ {} []).1 ?leading ?valid).1 ?distinct]
    · decide
    · exact @Gap.comment " limits".toList [] (by decide) .nil
    · simp only [List.mem_cons, List.not_mem_nil, or_false, forall_eq_or_imp, forall_eq]
      refine ⟨.of_blanks ?_ (by simp) (by decide), .of_blanks ?_ (by simp [WrittenEntry.RunsOn]) (by decide)⟩
      · simpa using WrittenEntry.Valid.of_blanks (e := ⟨"max_predicate_depth", "", " ", .number 3, "", some "\n"⟩)
          (by decide) (show (Nat.toDigits 10 (3 : Int).natAbs).length ≤ Decimal.digitLimit by decide) (by decide)
      · simp only [List.mem_cons, List.not_mem_nil, or_false, forall_eq_or_imp, forall_eq]
        exact ⟨.of_blanks (by decide) inside (by decide), .of_blanks (by decide) trivial (by decide)⟩
    · decide
  · have split : writtenEntries "" [⟨" ", " ", [⟨"a", "", " ", .number 1, " ", none⟩], "\n"⟩,
        ⟨" ", " ", [⟨"a", "", " ", .number 2, " ", none⟩], ""⟩] =
        [⟨"a", .number 1, 1⟩] ++ ⟨"a", .number 2, 2⟩ :: [] := by decide
    refine ((written_settings_read_back "" _ {} []).1 .nil ?_).2 _ _ _ split (by decide) (by decide)
    have entry : ∀ n : Int, n ∈ [1, 2] → WrittenEntry.Valid ⟨"a", "", " ", .number n, " ", none⟩ := by
      intro n mem
      simp only [List.mem_cons, List.not_mem_nil, or_false] at mem
      rcases mem with rfl | rfl <;>
        exact .of_blanks (by decide) (show (Nat.toDigits 10 _).length ≤ Decimal.digitLimit by decide) (by decide)
    simp only [List.mem_cons, List.not_mem_nil, or_false, forall_eq_or_imp, forall_eq]
    exact ⟨.of_blanks (by simpa using entry 1 (by simp)) (by simp) (by decide),
      .of_blanks (by simpa using entry 2 (by simp)) (by simp) (by decide)⟩
  · exact (written_settings_read_back "" [] ⟨3, "x", false⟩ _).2 (by decide) (by decide) inside (by decide)

/-- A flag followed by the next key with neither a comma nor a gap between
runs into it: `trueb` is read as one word where a value is due. -/
theorem flag_runs_into_next_key :
    parse (writtenText "" [⟨"", "", [⟨"a", "", "", .flag true, "", none⟩, ⟨"b", "", "", .number 1, "", none⟩], ""⟩]) =
      .error (.unexpectedToken "trueb" 1) := by
  decide +kernel

end PageObjects.Settings
