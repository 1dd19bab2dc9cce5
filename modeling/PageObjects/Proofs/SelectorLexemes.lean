import Mathlib.Data.List.Chain
import Mathlib.Data.List.Forall2
import PageObjects.Proofs.Lexemes

/-!
# UiSelector tokens read back

The lexer reads the characters of a selector text token by token, skipping
blanks between them. A `Lexeme` is a spelling the lexer reads whole as one
token: a quoted text, a placeholder, a number of at most `Decimal.digitLimit`
digits, a word (a keyword when it is one) or a punctuation mark. A word or a
number takes in the word characters or digits right after it
(`TokenKind.absorbs`), so two tokens read back only when the first does not
take in the first character of the second (`Delimits`) or a blank gap stands
between them.

`lexFrom_spread` reads a layout of lexemes with blank gaps (`spread`) back as
their tokens, and `lexFrom_layout` shows that every run of the lexer that
reaches the end of its text read such a layout.
-/

namespace PageObjects.UiSelector

/-- Whether a character joins a token it directly follows: a word takes in
letters, digits and `_`, a number takes in digits, and every other token ends
on its own. -/
def TokenKind.absorbs : TokenKind → Char → Bool
  | .number _ _, c => Text.isDecimalDigit c
  | .word _, c | .newKeyword, c | .uiSelectorKeyword, c | .trueKeyword, c | .falseKeyword, c => isWordPart c
  | _, _ => false

/-- The characters that spell a token, read whole by the lexer: a quoted text
with its inside in the quoted-text language, a placeholder, a number of at
most `Decimal.digitLimit` digits, a word (a keyword when it is one) and the
three punctuation marks. -/
inductive Lexeme : TokenKind → List Char → Prop where
  | text {raw : String} (inside : QuotedBody raw.toList) : Lexeme (.text raw) ('"' :: raw.toList ++ ['"'])
  | placeholder {shown : String} (known : shown = "%s" ∨ shown = "%d") :
      Lexeme (.placeholder shown) shown.toList
  | number {value : Int} {digits : Nat} {cs : List Char} (spelled : SpellsNumber value digits cs)
      (short : digits ≤ Decimal.digitLimit) : Lexeme (.number value digits) cs
  | word {c : Char} {cs : List Char} (start : isWordStart c = true)
      (parts : cs.all isWordPart = true) :
      Lexeme (wordKind (String.ofList (c :: cs))) (c :: cs)
  | openParen : Lexeme .openParen ['(']
  | closeParen : Lexeme .closeParen [')']
  | dot : Lexeme .dot ['.']

/-- Whether a text holds only characters skipped between tokens. -/
def isBlank (gap : String) : Bool :=
  gap.toList.all isSkipped

/-- Texts one after another, each followed by its gap; missing gaps are empty. -/
def spread : List String → List String → String
  | [], _ => ""
  | piece :: pieces, gaps => piece ++ gaps.headD "" ++ spread pieces gaps.tail

/-- A token of the second kind cannot run into one of the first: however it is
spelled, the first does not take in its first character. -/
def Delimits (first second : TokenKind) : Prop :=
  ∀ cs, Lexeme second cs → ∀ c ∈ cs.head?, first.absorbs c = false

theorem absorbs_wordKind (name : String) (c : Char) : (wordKind name).absorbs c = isWordPart c := by
  unfold wordKind
  split <;> rfl

/-- A character that is neither a digit nor a word character joins no token. -/
theorem absorbs_eq_false {c : Char} (notDigit : Text.isDecimalDigit c = false)
    (notPart : isWordPart c = false) (kind : TokenKind) : kind.absorbs c = false := by
  cases kind <;> simp [TokenKind.absorbs, notDigit, notPart]

theorem skipped_cases {c : Char} (skipped : isSkipped c = true) : c = ' ' ∨ c = '\t' ∨ c = '\n' := by
  simpa [isSkipped, or_assoc] using skipped

theorem absorbs_of_isSkipped {c : Char} (skipped : isSkipped c = true) (kind : TokenKind) :
    kind.absorbs c = false := by
  rcases skipped_cases skipped with rfl | rfl | rfl <;>
    exact absorbs_eq_false (by decide +kernel) (by decide) kind

theorem not_isSkipped_of_isDecimalDigit {c : Char} (digit : Text.isDecimalDigit c = true) :
    isSkipped c = false := by
  cases skipped : isSkipped c
  · rfl
  · rcases skipped_cases skipped with rfl | rfl | rfl <;> revert digit <;> decide +kernel

theorem not_isSkipped_of_isWordStart {c : Char} (start : isWordStart c = true) : isSkipped c = false := by
  cases skipped : isSkipped c
  · rfl
  · rcases skipped_cases skipped with rfl | rfl | rfl <;> revert start <;> decide

/-- A spelled number starts with a character that is not skipped. -/
theorem SpellsNumber.exists_cons {value : Int} {digits : Nat} {cs : List Char}
    (spelled : SpellsNumber value digits cs) : ∃ c more, cs = c :: more ∧ isSkipped c = false := by
  obtain ⟨negative, ds, nonempty, decimal⟩ := spelled
  obtain ⟨d, more, rfl⟩ := List.exists_cons_of_ne_nil nonempty
  cases negative with
  | true => exact ⟨_, _, rfl, rfl⟩
  | false => exact ⟨d, more, rfl, not_isSkipped_of_isDecimalDigit (decimal d (by simp))⟩

/-- A name of word characters, not starting with a digit, spells its word kind. -/
theorem Lexeme.of_name {name : String} {c : Char} {cs : List Char} (chars : name.toList = c :: cs)
    (start : isWordStart c = true) (parts : cs.all isWordPart = true) :
    Lexeme (wordKind name) name.toList := by
  have spelled := Lexeme.word start parts
  rwa [← chars, String.ofList_toList] at spelled

/-- Every lexeme starts with a character that is not skipped. -/
theorem Lexeme.exists_cons {kind : TokenKind} {cs : List Char} (spelled : Lexeme kind cs) :
    ∃ c more, cs = c :: more ∧ isSkipped c = false := by
  cases spelled with
  | text => exact ⟨_, _, rfl, rfl⟩
  | placeholder known => rcases known with rfl | rfl <;> exact ⟨_, _, rfl, rfl⟩
  | number spelled => exact spelled.exists_cons
  | word start => exact ⟨_, _, rfl, not_isSkipped_of_isWordStart start⟩
  | openParen | closeParen | dot => exact ⟨_, _, rfl, rfl⟩

/-- A lexeme is never an overlong number. -/
theorem Lexeme.oversized_eq_none {kind : TokenKind} {cs : List Char} (spelled : Lexeme kind cs) :
    kind.oversized? = none := by
  cases spelled with
  | number _ short => simp [TokenKind.oversized?]; omega
  | word =>
    unfold wordKind
    split <;> rfl
  | _ => rfl

/-- A quote, a percent sign and a character that joins nothing give no number
and no word. -/
theorem tokenAt?_of_plain {c : Char} {rest : List Char} (notQuote : c ≠ '"') (notPercent : c ≠ '%') :
    tokenAt? (c :: rest) =
      match numberAt? (c :: rest) with
      | some (value, digits, n) => some (.number value digits, n)
      | none =>
        if isWordStart c = true then
          some (wordKind (String.ofList (c :: rest.takeWhile isWordPart)),
            (c :: rest.takeWhile isWordPart).length)
        else if c == '(' then some (.openParen, 1)
        else if c == ')' then some (.closeParen, 1)
        else if c == '.' then some (.dot, 1) else none :=
  tokenAt?.eq_4 c rest notQuote (fun _ same => absurd same notPercent) (fun _ same => absurd same notPercent)

/-- A spelled number is read whole when no digit follows it, whatever its
length. -/
theorem tokenAt?_of_spells {value : Int} {digits : Nat} {cs : List Char} (spelled : SpellsNumber value digits cs)
    {rest : List Char} (ends : ∀ c ∈ rest.head?, Text.isDecimalDigit c = false) :
    tokenAt? (cs ++ rest) = some (.number value digits, cs.length) := by
  have read := numberAt?_of_spells spelled ends
  obtain ⟨negative, ds, nonempty, decimal⟩ := spelled
  obtain ⟨d, more, rfl⟩ := List.exists_cons_of_ne_nil nonempty
  have first := decimal d (by simp)
  cases negative with
  | true =>
    rw [if_pos rfl] at read ⊢
    rw [List.singleton_append, List.cons_append, tokenAt?_of_plain (by decide) (by decide),
      ← List.cons_append, ← List.singleton_append, read]
  | false =>
    have notQuote : d ≠ '"' := ne_of_apply_ne Text.isDecimalDigit (by rw [first]; decide +kernel)
    have notPercent : d ≠ '%' := ne_of_apply_ne Text.isDecimalDigit (by rw [first]; decide +kernel)
    simp only [Bool.false_eq_true, if_false, List.nil_append] at read ⊢
    rw [List.cons_append, tokenAt?_of_plain notQuote notPercent, ← List.cons_append, read]

/-- The lexer reads a lexeme whole when what follows does not join it. -/
theorem tokenAt?_of_lexeme {kind : TokenKind} {cs : List Char} (spelled : Lexeme kind cs)
    {rest : List Char} (ends : ∀ c ∈ rest.head?, kind.absorbs c = false) :
    tokenAt? (cs ++ rest) = some (kind, cs.length) := by
  cases spelled with
  | @text raw inside =>
    simp only [List.cons_append, List.append_assoc]
    rw [tokenAt?.eq_1, quotedLength_of_body inside]
    simp
  | placeholder known => rcases known with rfl | rfl <;> rfl
  | number spelled _ => exact tokenAt?_of_spells spelled ends
  | @word c cs start parts =>
    have notQuote : c ≠ '"' := ne_of_apply_ne isWordStart (by rw [start]; decide)
    have notPercent : c ≠ '%' := ne_of_apply_ne isWordStart (by rw [start]; decide)
    have notMinus : c ≠ '-' := ne_of_apply_ne isWordStart (by rw [start]; decide)
    have word := takeWhile_append_of_stops (List.all_eq_true.mp parts) (fun d mem => by
      rw [← absorbs_wordKind (String.ofList (c :: cs))]
      exact ends d mem)
    rw [List.cons_append, tokenAt?_of_plain notQuote notPercent,
      numberAt?_eq_none notMinus (not_isDecimalDigit_of_isWordStart start)]
    simp [start, word]
  | openParen =>
    rw [List.singleton_append, tokenAt?_of_plain (by decide) (by decide),
      numberAt?_eq_none (by decide) (by decide +kernel)]
    rfl
  | closeParen =>
    rw [List.singleton_append, tokenAt?_of_plain (by decide) (by decide),
      numberAt?_eq_none (by decide) (by decide +kernel)]
    rfl
  | dot =>
    rw [List.singleton_append, tokenAt?_of_plain (by decide) (by decide),
      numberAt?_eq_none (by decide) (by decide +kernel)]
    rfl

/-- What the lexer reads as a token, unless it is an overlong number, is a
lexeme of that token. -/
theorem lexeme_of_tokenAt? {cs : List Char} {kind : TokenKind} {n : Nat}
    (read : tokenAt? cs = some (kind, n)) (fits : kind.oversized? = none) :
    ∃ spelled rest, cs = spelled ++ rest ∧ Lexeme kind spelled ∧ n = spelled.length := by
  unfold tokenAt? at read
  split at read
  case h_1 rest =>
    split at read
    case h_1 m closes =>
      obtain ⟨body, after, rfl, inside, rfl⟩ := body_of_quotedLength closes
      simp only [Option.some.injEq, Prod.mk.injEq] at read
      obtain ⟨rfl, rfl⟩ := read
      refine ⟨'"' :: body ++ ['"'], after, by simp, ?_, by simp⟩
      simpa using @Lexeme.text (String.ofList body) (by simpa using inside)
    case h_2 => contradiction
  case h_2 tail =>
    simp only [Option.some.injEq, Prod.mk.injEq] at read
    obtain ⟨rfl, rfl⟩ := read
    exact ⟨['%', 's'], tail, rfl, .placeholder (.inl rfl), rfl⟩
  case h_3 tail =>
    simp only [Option.some.injEq, Prod.mk.injEq] at read
    obtain ⟨rfl, rfl⟩ := read
    exact ⟨['%', 'd'], tail, rfl, .placeholder (.inr rfl), rfl⟩
  case h_4 c rest _ _ _ =>
    split at read
    case h_1 value digits m number =>
      simp only [Option.some.injEq, Prod.mk.injEq] at read
      obtain ⟨rfl, rfl⟩ := read
      obtain ⟨spelled, after, split, spells, rfl⟩ := spells_of_numberAt? number
      have short : digits ≤ Decimal.digitLimit := by
        simp only [TokenKind.oversized?] at fits
        split at fits <;> first | contradiction | omega
      exact ⟨spelled, after, split, .number spells short, rfl⟩
    case h_2 =>
      split at read
      case isTrue start =>
        simp only [Option.some.injEq, Prod.mk.injEq] at read
        obtain ⟨rfl, rfl⟩ := read
        exact ⟨c :: rest.takeWhile isWordPart, rest.dropWhile isWordPart, by simp,
          .word start List.all_takeWhile, rfl⟩
      case isFalse =>
        split at read
        case isTrue paren =>
          simp only [Option.some.injEq, Prod.mk.injEq] at read
          obtain ⟨rfl, rfl⟩ := read
          obtain rfl : c = '(' := by simpa using paren
          exact ⟨['('], rest, rfl, .openParen, rfl⟩
        case isFalse =>
          split at read
          case isTrue paren =>
            simp only [Option.some.injEq, Prod.mk.injEq] at read
            obtain ⟨rfl, rfl⟩ := read
            obtain rfl : c = ')' := by simpa using paren
            exact ⟨[')'], rest, rfl, .closeParen, rfl⟩
          case isFalse =>
            split at read
            case isTrue dot =>
              simp only [Option.some.injEq, Prod.mk.injEq] at read
              obtain ⟨rfl, rfl⟩ := read
              obtain rfl : c = '.' := by simpa using dot
              exact ⟨['.'], rest, rfl, .dot, rfl⟩
            case isFalse => contradiction
  case h_5 => contradiction

/-- Skipped characters before a text change nothing but positions. -/
theorem lexFrom_blank {gap : List Char} (blank : gap.all isSkipped = true) (pos : Nat) (rest : List Char) :
    lexFrom pos (gap ++ rest) = lexFrom (pos + gap.length) rest := by
  induction gap generalizing pos with
  | nil => rfl
  | cons c gap ih =>
    simp only [List.all_cons, Bool.and_eq_true] at blank
    rw [List.cons_append, lexFrom.eq_2, if_pos blank.1, ih blank.2]
    simp [Nat.add_assoc, Nat.add_comm 1]

/-- A lexeme the following character does not join is lexed as one token,
and lexing goes on after it. -/
theorem lexFrom_lexeme {kind : TokenKind} {cs : List Char} (spelled : Lexeme kind cs)
    {rest : List Char} (ends : ∀ c ∈ rest.head?, kind.absorbs c = false) (pos : Nat) :
    ∃ next, lexFrom pos (cs ++ rest) =
      ⟨⟨kind, pos⟩ :: (lexFrom next rest).tokens, (lexFrom next rest).stop⟩ := by
  have read := tokenAt?_of_lexeme spelled ends
  obtain ⟨c, more, rfl, notSkipped⟩ := spelled.exists_cons
  refine ⟨pos + Text.pointCount (c :: more), ?_⟩
  rw [List.cons_append] at read ⊢
  rw [lexFrom.eq_2, if_neg (by simp [notSkipped]), read]
  simp [spelled.oversized_eq_none]

/-- Lexing stops at a number of more than `Decimal.digitLimit` digits, with no
token for it. -/
theorem lexFrom_overlong {value : Int} {digits : Nat} {cs : List Char} (spelled : SpellsNumber value digits cs)
    (long : Decimal.digitLimit < digits) (rest : List Char)
    (ends : ∀ c ∈ rest.head?, Text.isDecimalDigit c = false) (pos : Nat) :
    lexFrom pos (cs ++ rest) = ⟨[], some (.oversized digits)⟩ := by
  have read := tokenAt?_of_spells spelled ends
  obtain ⟨c, more, rfl, notSkipped⟩ := spelled.exists_cons
  rw [List.cons_append] at read ⊢
  rw [lexFrom.eq_2, if_neg (by simp [notSkipped]), read]
  simp [TokenKind.oversized?, long]

/-- A lexeme the following character does not join adds its kind to the
tokens, whose run goes on after it. -/
theorem lexFrom_lexeme_kinds {kind : TokenKind} {cs : List Char} (spelled : Lexeme kind cs)
    (rest : List Char) (ends : ∀ c ∈ rest.head?, kind.absorbs c = false) (pos : Nat) :
    ∃ next, (lexFrom pos (cs ++ rest)).tokens.map Token.kind =
        kind :: (lexFrom next rest).tokens.map Token.kind ∧
      (lexFrom pos (cs ++ rest)).stop = (lexFrom next rest).stop := by
  obtain ⟨next, lexed⟩ := lexFrom_lexeme spelled ends pos
  exact ⟨next, by simp [lexed], by simp [lexed]⟩

theorem toList_spread_cons (piece : String) (pieces gaps : List String) :
    (spread (piece :: pieces) gaps).toList =
      piece.toList ++ (gaps.headD "").toList ++ (spread pieces gaps.tail).toList := by
  simp [spread, String.toList_append]

/-- The lexer reads a layout of lexemes, which do not run into each other,
back as their tokens, and does not stop. -/
theorem lexFrom_spread {kinds : List TokenKind} {spellings : List String}
    (spelled : List.Forall₂ (fun kind spelling => Lexeme kind spelling.toList) kinds spellings)
    (apart : kinds.IsChain Delimits) (gaps : List String) (blank : ∀ gap ∈ gaps, isBlank gap = true)
    (pos : Nat) :
    (lexFrom pos (spread spellings gaps).toList).tokens.map Token.kind = kinds ∧
      (lexFrom pos (spread spellings gaps).toList).stop = none := by
  induction spelled generalizing gaps pos with
  | nil => simp [spread, lexFrom]
  | @cons kind spelling kinds spellings lexeme rest ih =>
    have gapBlank : (gaps.headD "").toList.all isSkipped = true := by
      cases gaps with
      | nil => rfl
      | cons gap gaps => exact blank gap (by simp)
    -- the token is followed by its gap, or, when that is empty, by the next token
    have ends : ∀ c ∈ ((gaps.headD "").toList ++ (spread spellings gaps.tail).toList).head?,
        kind.absorbs c = false := by
      intro c first
      cases gapChars : (gaps.headD "").toList with
      | cons d more =>
        rw [gapChars, List.all_cons, Bool.and_eq_true] at gapBlank
        rw [gapChars] at first
        obtain rfl : d = c := by simpa using first
        exact absorbs_of_isSkipped gapBlank.1 kind
      | nil =>
        rw [gapChars, List.nil_append] at first
        cases rest with
        | nil => simp [spread] at first
        | @cons next nextSpelling _ _ nextLexeme _ =>
          obtain ⟨d, more, chars, _⟩ := nextLexeme.exists_cons
          rw [toList_spread_cons, chars] at first
          obtain rfl : d = c := by simpa using first
          exact (List.isChain_cons_cons.mp apart).1 _ nextLexeme d (by simp [chars])
    obtain ⟨next, lexed⟩ := lexFrom_lexeme lexeme ends pos
    obtain ⟨kindsRest, stopRest⟩ := ih apart.tail gaps.tail
      (fun gap mem => blank gap (List.mem_of_mem_tail mem)) (next + (gaps.headD "").toList.length)
    rw [toList_spread_cons, List.append_assoc, lexed, lexFrom_blank gapBlank]
    exact ⟨by rw [List.map_cons, kindsRest], stopRest⟩

/-- Whenever the lexer runs to the end, the text is a layout of lexemes of the
tokens it read: a blank lead, then each token's spelling followed by a blank
gap. -/
theorem lexFrom_layout (pos : Nat) (cs : List Char) (finished : (lexFrom pos cs).stop = none) :
    ∃ lead spellings gaps, isBlank lead = true ∧ (∀ gap ∈ gaps, isBlank gap = true) ∧
      List.Forall₂ (fun kind spelling => Lexeme kind spelling.toList)
        ((lexFrom pos cs).tokens.map Token.kind) spellings ∧
      cs = (lead ++ spread spellings gaps).toList := by
  induction pos, cs using lexFrom.induct with
  | case1 pos => exact ⟨"", [], [], rfl, by simp, by simp [lexFrom], by simp [spread]⟩
  | case2 pos c rest skipped ih =>
    rw [lexFrom.eq_2, if_pos skipped] at finished ⊢
    obtain ⟨lead, spellings, gaps, leadBlank, gapsBlank, spelled, chars⟩ := ih finished
    refine ⟨String.ofList (c :: lead.toList), spellings, gaps, ?_, gapsBlank, spelled, ?_⟩
    · simpa [isBlank, skipped] using leadBlank
    · simp [chars]
  | case3 pos c rest notSkipped kind n read positive digits oversized =>
    rw [lexFrom.eq_2, if_neg notSkipped, read] at finished
    simp [positive, oversized] at finished
  | case4 pos c rest notSkipped kind n read positive fits ih =>
    rw [lexFrom.eq_2, if_neg notSkipped, read] at finished ⊢
    simp only [dif_pos positive, fits] at finished ⊢
    obtain ⟨lead, spellings, gaps, leadBlank, gapsBlank, spelled, chars⟩ := ih finished
    obtain ⟨first, after, split, lexeme, rfl⟩ := lexeme_of_tokenAt? read fits
    rw [split, List.drop_left] at chars
    refine ⟨"", String.ofList first :: spellings, lead :: gaps, rfl, ?_, ?_, ?_⟩
    · simpa [leadBlank] using gapsBlank
    · exact .cons (by simpa using lexeme) spelled
    · rw [split, chars]
      simp [spread]
  | case5 pos c rest notSkipped kind n read notPositive =>
    rw [lexFrom.eq_2, if_neg notSkipped, read] at finished
    simp [notPositive] at finished
  | case6 pos c rest notSkipped read =>
    rw [lexFrom.eq_2, if_neg notSkipped, read] at finished
    simp at finished

end PageObjects.UiSelector
