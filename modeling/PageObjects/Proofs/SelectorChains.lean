import PageObjects.Proofs.Failures
import PageObjects.Proofs.SelectorLexemes
import PageObjects.UiSelector.Printer

/-!
# UiSelector chains read back

A selector text is parsed in three steps: it gets the prefix
`new UiSelector().` unless it starts with it, the lexer splits it into tokens,
and the reader takes the tokens through the prefix and then call after call.
`parse_eq_ok_iff` says which texts parse and to what: exactly the prefix
followed by a layout of the tokens of a chain of supported calls, each token
spelled as the lexer reads it whole (`Lexeme`) and blank gaps between them
(`spread`).

The proof follows the three steps: the prefix is read as its five tokens
whatever follows it (`lexFrom_prefix`), the rest of the text is a layout of
lexemes exactly when the lexer reads it to its end (`lexFrom_spread`,
`lexFrom_layout`), and the reader reads the tokens of a chain as its calls
(`readCalls_chain`) and nothing else (`chain_of_readCalls`).

A chain written with the printer's pieces (`chainPieces`, which without gaps
is `renderChain`) reads back when its arguments are writable and its numbers
have at most `Decimal.digitLimit` digits (`parse_spread_chainPieces`). A longer
number stops the lexer, and the parse fails on the number itself, also where
the text has a syntax error after it (`unclosed_long_number_fails_on_number`).
-/

namespace PageObjects.UiSelector

/-! ## The chain grammar -/

/-- The token kinds of the prefix `new UiSelector().`. -/
def prefixKinds : List TokenKind :=
  [.newKeyword, .uiSelectorKeyword, .openParen, .closeParen, .dot]

/-- The token kinds of a call whose argument, if it has one, is read from the
given token. -/
def Call.kindsWith (call : Call) (argument : Option TokenKind) : List TokenKind :=
  .word call.method :: .openParen :: argument.toList ++ [.closeParen]

/-- The token kinds of a chain of calls, each with its argument token, the
calls joined by dots. -/
def chainKinds (calls : List Call) (arguments : List (Option TokenKind)) : List TokenKind :=
  [TokenKind.dot].intercalate (List.zipWith Call.kindsWith calls arguments)

/-- Argument tokens, one for each call that has an argument, that read back as
the arguments of the calls. -/
def ReadsArguments (calls : List Call) (arguments : List (Option TokenKind)) : Prop :=
  List.Forall₂
    (fun call argument => Option.Rel (fun a kind => argumentOf? kind = some a) call.argument argument)
    calls arguments

theorem step_method {kind : TokenKind} {next : Stage × Option Call} :
    step .method kind = some next ↔ ∃ name, kind = .word name ∧ next = (.open name, none) := by
  cases kind <;> simp [step, eq_comm]

theorem step_open {name : String} {kind : TokenKind} {next : Stage × Option Call} :
    step (.open name) kind = some next ↔ kind = .openParen ∧ next = (.argument name, none) := by
  cases kind <;> simp [step, eq_comm]

theorem step_argument {name : String} {kind : TokenKind} {next : Stage × Option Call} :
    step (.argument name) kind = some next ↔
      (kind = .closeParen ∧ next = (.next, some ⟨name, none⟩)) ∨
        ∃ a, argumentOf? kind = some a ∧ next = (.close name a, none) := by
  cases kind <;> simp [step, argumentOf?, eq_comm]

theorem step_close {name : String} {a : Argument} {kind : TokenKind} {next : Stage × Option Call} :
    step (.close name a) kind = some next ↔
      kind = .closeParen ∧ next = (.next, some ⟨name, some a⟩) := by
  cases kind <;> simp [step, eq_comm]

theorem step_next {kind : TokenKind} {next : Stage × Option Call} :
    step .next kind = some next ↔ kind = .dot ∧ next = (.method, none) := by
  cases kind <;> simp [step, eq_comm]

theorem readCalls_cons_of_step {stop : Option Stop} {stage after : Stage} {call : Option Call}
    {token : Token} (stepped : step stage token.kind = some (after, call)) (done : List Call)
    (rest : List Token) :
    readCalls stop stage done (token :: rest) = readCalls stop after (call.toList ++ done) rest := by
  cases call <;> simp [readCalls, stepped]

theorem readCalls_cons_eq_ok {stop : Option Stop} {stage : Stage} {done : List Call} {token : Token}
    {rest : List Token} {result : List Call} (read : readCalls stop stage done (token :: rest) = .ok result) :
    ∃ after call, step stage token.kind = some (after, call) ∧
      readCalls stop after (call.toList ++ done) rest = .ok result := by
  rw [readCalls] at read
  split at read
  · exact ⟨_, _, ‹_›, read⟩
  · exact ⟨_, _, ‹_›, read⟩
  · contradiction

/-- Tokens running out end a read only after a complete call, when lexing did
not stop early. -/
theorem readCalls_nil_eq_ok {stop : Option Stop} {stage : Stage} {done result : List Call}
    (read : readCalls stop stage done [] = .ok result) :
    stop = none ∧ stage = .next ∧ result = done.reverse := by
  rcases stop with _ | ⟨glyph, position⟩ | ⟨digits⟩
  · simp only [readCalls] at read
    split at read
    · simp_all
    · contradiction
  all_goals simp [readCalls] at read

/-- A read that succeeds from a stage inside a call has a token to read there. -/
theorem readCalls_inside_eq_ok {stop : Option Stop} {stage : Stage} {done : List Call} {tokens : List Token}
    {result : List Call} (inside : stage ≠ .next) (read : readCalls stop stage done tokens = .ok result) :
    ∃ token rest after call, tokens = token :: rest ∧ step stage token.kind = some (after, call) ∧
      readCalls stop after (call.toList ++ done) rest = .ok result := by
  cases tokens with
  | nil => exact absurd (readCalls_nil_eq_ok read).2.1 inside
  | cons token rest =>
    obtain ⟨after, call, stepped, more⟩ := readCalls_cons_eq_ok read
    exact ⟨token, rest, after, call, rfl, stepped, more⟩

/-- A read after lexing stopped early never succeeds. -/
theorem readCalls_stopped (stop : Stop) (stage : Stage) (done : List Call) (tokens : List Token)
    (result : List Call) : readCalls (some stop) stage done tokens ≠ .ok result := by
  induction tokens generalizing stage done with
  | nil => exact fun read => nomatch (readCalls_nil_eq_ok read).1
  | cons token rest ih =>
    intro read
    obtain ⟨after, call, _, more⟩ := readCalls_cons_eq_ok read
    exact ih after _ more

theorem step_argument_of {name : String} {kind : TokenKind} {a : Argument}
    (reads : argumentOf? kind = some a) : step (.argument name) kind = some (.close name a, none) :=
  step_argument.mpr (.inr ⟨a, reads, rfl⟩)

/-- The tokens of a call take the reader from the start of a call to the end
of one, with the call read. -/
theorem readCalls_call {call : Call} {argument : Option TokenKind}
    (reads : Option.Rel (fun a kind => argumentOf? kind = some a) call.argument argument)
    {tokens : List Token} (kinds : tokens.map Token.kind = call.kindsWith argument)
    (stop : Option Stop) (done : List Call) (rest : List Token) :
    readCalls stop .method done (tokens ++ rest) = readCalls stop .next (call :: done) rest := by
  obtain ⟨method, callArgument⟩ := call
  cases reads with
  | none =>
    simp only [Call.kindsWith, Option.toList_none, List.nil_append, List.cons_append,
      List.map_eq_cons_iff, List.map_eq_nil_iff] at kinds
    obtain ⟨t₁, _, rfl, k₁, t₂, _, rfl, k₂, t₃, _, rfl, k₃, rfl⟩ := kinds
    simp only [List.cons_append, List.nil_append]
    rw [readCalls_cons_of_step (by rw [k₁]; rfl), readCalls_cons_of_step (by rw [k₂]; rfl),
      readCalls_cons_of_step (by rw [k₃]; rfl)]
    rfl
  | @some a kind argumentRead =>
    simp only [Call.kindsWith, Option.toList_some, List.cons_append, List.nil_append,
      List.map_eq_cons_iff, List.map_eq_nil_iff] at kinds
    obtain ⟨t₁, _, rfl, k₁, t₂, _, rfl, k₂, t₃, _, rfl, k₃, t₄, _, rfl, k₄, rfl⟩ := kinds
    simp only [List.cons_append, List.nil_append]
    rw [readCalls_cons_of_step (by rw [k₁]; rfl), readCalls_cons_of_step (by rw [k₂]; rfl),
      readCalls_cons_of_step (by rw [k₃]; exact step_argument_of argumentRead),
      readCalls_cons_of_step (by rw [k₄]; rfl)]
    rfl

theorem wordKind_cases (name : String) :
    wordKind name = .newKeyword ∨ wordKind name = .uiSelectorKeyword ∨ wordKind name = .trueKeyword ∨
      wordKind name = .falseKeyword ∨ wordKind name = .word name := by
  unfold wordKind
  split <;> simp

/-- Punctuation is spelled only by its own character. -/
theorem Lexeme.eq_of_punctuation {kind : TokenKind} {cs : List Char} (spelled : Lexeme kind cs) :
    (kind = .openParen → cs = ['(']) ∧ (kind = .closeParen → cs = [')']) ∧
      (kind = .dot → cs = ['.']) := by
  cases spelled with
  | @word c cs _ _ =>
    rcases wordKind_cases (String.ofList (c :: cs)) with same | same | same | same | same <;>
      rw [same] <;> simp
  | _ => simp

/-- Nothing runs into a parenthesis. -/
theorem delimits_paren (first : TokenKind) : Delimits first .openParen ∧ Delimits first .closeParen := by
  constructor
  · intro cs spelled c head
    rw [spelled.eq_of_punctuation.1 rfl] at head
    obtain rfl : c = '(' := by simpa using head.symm
    exact absorbs_eq_false (by decide +kernel) (by decide) first
  · intro cs spelled c head
    rw [spelled.eq_of_punctuation.2.1 rfl] at head
    obtain rfl : c = ')' := by simpa using head.symm
    exact absorbs_eq_false (by decide +kernel) (by decide) first

/-- Punctuation runs into nothing. -/
theorem delimits_of_punctuation {first : TokenKind}
    (punctuation : first = .openParen ∨ first = .closeParen ∨ first = .dot) (second : TokenKind) :
    Delimits first second := by
  intro cs _ c _
  rcases punctuation with rfl | rfl | rfl <;> rfl

theorem chainKinds_singleton (call : Call) (argument : Option TokenKind) :
    chainKinds [call] [argument] = call.kindsWith argument := by
  simp [chainKinds]

theorem chainKinds_cons_cons (call next : Call) (calls : List Call) (argument nextArgument : Option TokenKind)
    (arguments : List (Option TokenKind)) :
    chainKinds (call :: next :: calls) (argument :: nextArgument :: arguments) =
      call.kindsWith argument ++ .dot :: chainKinds (next :: calls) (nextArgument :: arguments) := by
  simp [chainKinds, List.intercalate_cons_cons]

theorem kindsWith_isChain (call : Call) (argument : Option TokenKind) :
    (call.kindsWith argument).IsChain Delimits := by
  cases argument with
  | none =>
    simp only [Call.kindsWith, Option.toList_none, List.cons_append, List.nil_append,
      List.isChain_cons_cons]
    exact ⟨(delimits_paren _).1, (delimits_paren _).2, .singleton _⟩
  | some kind =>
    simp only [Call.kindsWith, Option.toList_some, List.cons_append, List.nil_append, List.isChain_cons_cons]
    exact ⟨(delimits_paren _).1, delimits_of_punctuation (.inl rfl) _, (delimits_paren _).2, .singleton _⟩

/-- In a chain the tokens do not run into each other: a word or a number is
always followed by a parenthesis. -/
theorem chainKinds_isChain {calls : List Call} {arguments : List (Option TokenKind)}
    (reads : ReadsArguments calls arguments) : (chainKinds calls arguments).IsChain Delimits := by
  induction reads with
  | nil => simp [chainKinds]
  | @cons call argument calls arguments _ rest ih =>
    cases rest with
    | nil => rw [chainKinds_singleton]; exact kindsWith_isChain call argument
    | cons =>
      rw [chainKinds_cons_cons, List.isChain_append, List.isChain_cons]
      refine ⟨kindsWith_isChain call argument,
        ⟨fun _ _ => delimits_of_punctuation (.inr (.inr rfl)) _, ih⟩, ?_⟩
      intro last lastMem next _
      simp only [Call.kindsWith, List.cons_append, List.getLast?_cons, List.getLast?_append,
        Option.some_or, Option.getD_some, Option.mem_def, Option.some.injEq] at lastMem
      subst lastMem
      exact delimits_of_punctuation (.inr (.inl rfl)) _

/-- The tokens of a chain of calls read as those calls. -/
theorem readCalls_chain {calls : List Call} {arguments : List (Option TokenKind)}
    (reads : ReadsArguments calls arguments) (nonempty : calls ≠ []) {tokens : List Token}
    (kinds : tokens.map Token.kind = chainKinds calls arguments) (done : List Call) :
    readCalls none .method done tokens = .ok (done.reverse ++ calls) := by
  induction reads generalizing tokens done with
  | nil => contradiction
  | @cons call argument calls arguments first rest ih =>
    cases rest with
    | nil =>
      rw [chainKinds_singleton] at kinds
      rw [← List.append_nil tokens, readCalls_call first kinds]
      simp [readCalls]
    | @cons next nextArgument calls arguments second rest =>
      rw [chainKinds_cons_cons, List.map_eq_append_iff] at kinds
      obtain ⟨callTokens, dotRest, rfl, callKinds, restKinds⟩ := kinds
      rw [List.map_eq_cons_iff] at restKinds
      obtain ⟨dotToken, after, rfl, dotKind, afterKinds⟩ := restKinds
      rw [readCalls_call first callKinds, readCalls_cons_of_step (by rw [dotKind]; rfl),
        ih (by simp) afterKinds]
      simp

/-- A read from the start of a call that succeeds begins with the tokens of
one call. -/
theorem call_of_readCalls {stop : Option Stop} {done : List Call} {tokens : List Token}
    {result : List Call} (read : readCalls stop .method done tokens = .ok result) :
    ∃ call argument first rest,
      Option.Rel (fun a kind => argumentOf? kind = some a) call.argument argument ∧
      first.map Token.kind = call.kindsWith argument ∧ tokens = first ++ rest ∧
      readCalls stop .next (call :: done) rest = .ok result := by
  -- the reader goes through the stages of a call, one token each
  obtain ⟨t₁, r₁, _, _, rfl, step₁, read⟩ := readCalls_inside_eq_ok (by simp) read
  obtain ⟨method, k₁, same⟩ := step_method.mp step₁
  simp only [Prod.mk.injEq] at same
  obtain ⟨rfl, rfl⟩ := same
  obtain ⟨t₂, r₂, _, _, rfl, step₂, read⟩ := readCalls_inside_eq_ok (by simp) read
  obtain ⟨k₂, same⟩ := step_open.mp step₂
  simp only [Prod.mk.injEq] at same
  obtain ⟨rfl, rfl⟩ := same
  obtain ⟨t₃, r₃, _, _, rfl, step₃, read⟩ := readCalls_inside_eq_ok (by simp) read
  rcases step_argument.mp step₃ with ⟨k₃, same⟩ | ⟨a, argumentRead, same⟩
  · -- a call without argument
    simp only [Prod.mk.injEq] at same
    obtain ⟨rfl, rfl⟩ := same
    exact ⟨⟨method, none⟩, none, [t₁, t₂, t₃], r₃, .none,
      by simp [Call.kindsWith, k₁, k₂, k₃], rfl, by simpa using read⟩
  · simp only [Prod.mk.injEq] at same
    obtain ⟨rfl, rfl⟩ := same
    obtain ⟨t₄, r₄, _, _, rfl, step₄, read⟩ := readCalls_inside_eq_ok (by simp) read
    obtain ⟨k₄, same⟩ := step_close.mp step₄
    simp only [Prod.mk.injEq] at same
    obtain ⟨rfl, rfl⟩ := same
    exact ⟨⟨method, some a⟩, some t₃.kind, [t₁, t₂, t₃, t₄], r₄, .some argumentRead,
      by simp [Call.kindsWith, k₁, k₂, k₄], rfl, by simpa using read⟩

/-- A read from the start of a call that succeeds reads the tokens of a chain
of calls. -/
theorem chain_of_readCalls {done : List Call} {tokens : List Token} {result : List Call}
    (read : readCalls none .method done tokens = .ok result) :
    ∃ calls arguments, calls ≠ [] ∧ ReadsArguments calls arguments ∧
      tokens.map Token.kind = chainKinds calls arguments ∧ result = done.reverse ++ calls := by
  obtain ⟨call, argument, first, rest, reads, kinds, rfl, more⟩ := call_of_readCalls read
  cases rest with
  | nil =>
    obtain ⟨-, -, rfl⟩ := readCalls_nil_eq_ok more
    exact ⟨[call], [argument], by simp, .cons reads .nil, by simp [kinds, chainKinds_singleton], by simp⟩
  | cons token rest =>
    obtain ⟨_, _, stepped, more⟩ := readCalls_cons_eq_ok more
    obtain ⟨dotKind, same⟩ := step_next.mp stepped
    simp only [Prod.mk.injEq] at same
    obtain ⟨rfl, rfl⟩ := same
    obtain ⟨calls, arguments, nonempty, readsRest, kindsRest, rfl⟩ := chain_of_readCalls more
    obtain ⟨next, calls, rfl⟩ := List.exists_cons_of_ne_nil nonempty
    cases readsRest with
    | @cons _ nextArgument _ arguments second rest =>
      refine ⟨call :: next :: calls, argument :: nextArgument :: arguments, by simp,
        .cons reads (.cons second rest), ?_, by simp⟩
      rw [chainKinds_cons_cons, List.map_append, kinds, List.map_cons, dotKind, kindsRest]
termination_by tokens.length
decreasing_by subst_vars; simp; omega

/-! ## Parsing a selector text -/

/-- The prefixed form of a text starts with the prefix. -/
theorem withPrefix_eq_append (text : String) : ∃ rest, withPrefix text = prefixText ++ rest := by
  unfold withPrefix
  split
  · rename_i starts
    obtain ⟨rest, chars⟩ := String.startsWith_string_iff.mp starts
    exact ⟨String.ofList rest, String.toList_inj.mp (by simp [chars])⟩
  · exact ⟨text, rfl⟩

theorem withPrefix_prefixText_append (rest : String) :
    withPrefix (prefixText ++ rest) = prefixText ++ rest := by
  rw [withPrefix, if_pos (String.startsWith_string_iff.mpr (by simp [String.toList_append]))]

/-- A text that starts with another character than the prefix gets it. -/
theorem withPrefix_of_head {text : String} {c : Char} (first : text.toList.head? = some c)
    (other : c ≠ 'n') :
    withPrefix text = prefixText ++ text := by
  rw [withPrefix, if_neg]
  intro starts
  obtain ⟨rest, chars⟩ := String.startsWith_string_iff.mp starts
  rw [← chars] at first
  exact other (by simpa [prefixText] using first.symm)

/-- The prefix is lexed as its five tokens, whatever follows it. -/
theorem lexFrom_prefix (rest : List Char) :
    ∃ next, (lexFrom 0 (prefixText.toList ++ rest)).tokens.map Token.kind =
        prefixKinds ++ (lexFrom next rest).tokens.map Token.kind ∧
      (lexFrom 0 (prefixText.toList ++ rest)).stop = (lexFrom next rest).stop := by
  have new : Lexeme .newKeyword "new".toList := by
    rw [← show wordKind "new" = .newKeyword by decide]
    exact Lexeme.of_name rfl (by decide) (by decide)
  have uiSelector : Lexeme .uiSelectorKeyword "UiSelector".toList := by
    rw [← show wordKind "UiSelector" = .uiSelectorKeyword by decide]
    exact Lexeme.of_name rfl (by decide) (by decide)
  have chars : prefixText.toList ++ rest =
      "new".toList ++ [' '] ++ ("UiSelector".toList ++ (['('] ++ ([')'] ++ (['.'] ++ rest)))) := by
    simp [prefixText]
  obtain ⟨p₁, k₁, s₁⟩ := lexFrom_lexeme_kinds new ([' '] ++ _) (by simp; rfl) 0
  obtain ⟨p₂, k₂, s₂⟩ := lexFrom_lexeme_kinds uiSelector (['('] ++ _) (by simp; rfl) (p₁ + [' '].length)
  obtain ⟨p₃, k₃, s₃⟩ := lexFrom_lexeme_kinds .openParen ([')'] ++ _) (by simp; rfl) p₂
  obtain ⟨p₄, k₄, s₄⟩ := lexFrom_lexeme_kinds .closeParen (['.'] ++ _) (by simp; rfl) p₃
  obtain ⟨p₅, k₅, s₅⟩ := lexFrom_lexeme_kinds .dot rest (by simp [TokenKind.absorbs]) p₄
  have blank := @lexFrom_blank [' '] rfl p₁
  refine ⟨p₅, ?_, ?_⟩
  · rw [chars, List.append_assoc, k₁, blank, k₂, k₃, k₄, k₅]
    rfl
  · rw [chars, List.append_assoc, s₁, blank, s₂, s₃, s₄, s₅]

/-- The prefix tokens take the reader to the start of the first call. -/
theorem readCalls_prefix {tokens : List Token} (kinds : tokens.map Token.kind = prefixKinds)
    (stop : Option Stop) (done : List Call) (rest : List Token) :
    readCalls stop .start done (tokens ++ rest) = readCalls stop .method done rest := by
  simp only [prefixKinds, List.map_eq_cons_iff, List.map_eq_nil_iff] at kinds
  obtain ⟨t₁, _, rfl, k₁, t₂, _, rfl, k₂, t₃, _, rfl, k₃, t₄, _, rfl, k₄, t₅, _, rfl, k₅, rfl⟩ :=
    kinds
  simp [readCalls, step, k₁, k₂, k₃, k₄, k₅]

/-- A parse succeeds when the chain is read to its end and calls only
supported methods. -/
theorem parse_eq_ok_iff_readCalls (text : String) (calls : List Call) :
    parse text = .ok calls ↔
      readCalls (lex (withPrefix text)).stop .start [] (lex (withPrefix text)).tokens = .ok calls ∧
        ∀ call ∈ calls, call.method ∈ supportedMethods := by
  unfold parse
  dsimp only
  generalize readCalls (lex (withPrefix text)).stop .start [] (lex (withPrefix text)).tokens = read
  cases read with
  | error e => simp [bind, Except.bind]
  | ok found =>
    simp only [bind, Except.bind]
    split
    · rename_i call unsupported
      have mem := List.mem_of_find?_eq_some unsupported
      have outside : call.method ∉ supportedMethods := by simpa using List.find?_some unsupported
      simp only [reduceCtorEq, false_iff, not_and, Except.ok.injEq]
      rintro rfl supported
      exact outside (supported call mem)
    · rename_i none
      have supported : ∀ call ∈ found, call.method ∈ supportedMethods := by
        simpa using List.find?_eq_none.mp none
      simp only [Except.ok.injEq]
      constructor
      · rintro rfl
        exact ⟨rfl, supported⟩
      · rintro ⟨rfl, -⟩
        rfl

/-- A read that fails makes the parse fail the same way. -/
theorem parse_of_readCalls_error {text : String} {e : ParseError}
    (failed : readCalls (lex (withPrefix text)).stop .start [] (lex (withPrefix text)).tokens = .error e) :
    parse text = .error e := by
  unfold parse
  dsimp only
  rw [failed]
  rfl

/-- The texts a parse accepts, and what it reads from them: a text parses to a
chain of calls exactly when the chain is not empty, calls only supported
methods, and the prefixed text is the prefix followed by a layout of the
chain's tokens, each spelled as the lexer reads it and separated by blank gaps. -/
theorem parse_eq_ok_iff (text : String) (calls : List Call) :
    parse text = .ok calls ↔
      calls ≠ [] ∧ (∀ call ∈ calls, call.method ∈ supportedMethods) ∧
        ∃ arguments spellings lead gaps, ReadsArguments calls arguments ∧
          List.Forall₂ (fun kind spelling => Lexeme kind spelling.toList)
            (chainKinds calls arguments) spellings ∧
          isBlank lead = true ∧ (∀ gap ∈ gaps, isBlank gap = true) ∧
          withPrefix text = prefixText ++ lead ++ spread spellings gaps := by
  rw [parse_eq_ok_iff_readCalls]
  obtain ⟨rest, prefixed⟩ := withPrefix_eq_append text
  obtain ⟨next, kinds, stop⟩ := lexFrom_prefix rest.toList
  obtain ⟨prefixTokens, chainTokens, split, prefixKinds, chainTokenKinds⟩ :=
    List.map_eq_append_iff.mp kinds
  have lexed : lex (withPrefix text) = lexFrom 0 (prefixText.toList ++ rest.toList) := by
    rw [prefixed, lex, String.toList_append]
  rw [lexed, split, stop, readCalls_prefix prefixKinds]
  constructor
  · rintro ⟨read, supported⟩
    cases finished : (lexFrom next rest.toList).stop with
    | some stopped =>
      rw [finished] at read
      exact absurd read (readCalls_stopped stopped _ _ _ _)
    | none =>
      rw [finished] at read
      obtain ⟨found, arguments, nonempty, reads, foundKinds, same⟩ := chain_of_readCalls read
      simp only [List.reverse_nil, List.nil_append] at same
      subst same
      obtain ⟨lead, spellings, gaps, leadBlank, gapsBlank, spelled, chars⟩ :=
        lexFrom_layout next rest.toList finished
      rw [← chainTokenKinds, foundKinds] at spelled
      refine ⟨nonempty, supported, arguments, spellings, lead, gaps, reads, spelled, leadBlank,
        gapsBlank, ?_⟩
      rw [prefixed, String.append_assoc, String.append_right_inj]
      exact String.toList_inj.mp chars
  · rintro ⟨nonempty, supported, arguments, spellings, lead, gaps, reads, spelled, leadBlank, gapsBlank,
      layout⟩
    rw [prefixed, String.append_assoc, String.append_right_inj] at layout
    subst layout
    rw [String.toList_append, lexFrom_blank leadBlank] at chainTokenKinds stop ⊢
    obtain ⟨chainLexed, finished⟩ := lexFrom_spread spelled (chainKinds_isChain reads) gaps gapsBlank
      (next + lead.toList.length)
    rw [finished, readCalls_chain reads nonempty (chainTokenKinds.trans chainLexed)]
    exact ⟨by simp, supported⟩

/-! ## Writing a chain and reading it back -/

/-- The token an argument is written as. -/
def Argument.kind : Argument → TokenKind
  | .text raw => .text raw
  | .number value => .number value (Nat.toDigits 10 value.natAbs).length
  | .placeholder shown => .placeholder shown
  | .flag value => if value then .trueKeyword else .falseKeyword

/-- The arguments a chain writes so that they read back: a text whose raw form
is in the quoted-text language, a placeholder `%s` or `%d`, any number and any
flag. -/
def Argument.Writable : Argument → Prop
  | .text raw => QuotedBody raw.toList
  | .placeholder shown => shown = "%s" ∨ shown = "%d"
  | .number _ | .flag _ => True

/-- The number of decimal digits an argument is written with. -/
def Argument.digits : Argument → Nat
  | .number value => (Nat.toDigits 10 value.natAbs).length
  | _ => 0

/-- The texts of the tokens of a call: its method, its parentheses and its
argument. -/
def Call.pieces (call : Call) : List String :=
  [call.method, "("] ++ (call.argument.map Argument.render).toList ++ [")"]

/-- The texts of the tokens of a chain of calls, the calls joined by dots. -/
def chainPieces (calls : List Call) : List String :=
  ["."].intercalate (calls.map Call.pieces)

theorem chainPieces_cons_cons (call next : Call) (calls : List Call) :
    chainPieces (call :: next :: calls) = call.pieces ++ "." :: chainPieces (next :: calls) := by
  simp [chainPieces, List.intercalate_cons_cons]

theorem spread_append_nil (pieces more : List String) :
    spread (pieces ++ more) [] = spread pieces [] ++ spread more [] := by
  induction pieces with
  | nil => simp [spread]
  | cons piece pieces ih => simp [spread, ih, String.append_assoc]

/-- Without gaps, the layout of a chain is the chain as the printer writes it. -/
theorem spread_chainPieces_nil (calls : List Call) : spread (chainPieces calls) [] = renderChain calls := by
  have one : ∀ call : Call, spread call.pieces [] = call.render := by
    intro ⟨method, argument⟩
    cases argument <;> simp [Call.pieces, Call.render, spread, String.append_assoc]
  induction calls with
  | nil => simp [chainPieces, renderChain, spread]
  | cons call calls ih =>
    cases calls with
    | nil => simp [chainPieces, renderChain, one]
    | cons next calls =>
      rw [chainPieces_cons_cons, spread_append_nil, one, renderChain, List.map_cons, List.map_cons,
        String.intercalate_cons_cons, ← List.map_cons, ← renderChain, ← ih]
      simp [spread, String.append_assoc]

/-- Every supported method is a plain word. -/
theorem Lexeme.of_supported {method : String} (supported : method ∈ supportedMethods) :
    Lexeme (.word method) method.toList := by
  have plain : wordKind method = .word method := by
    simp only [supportedMethods, List.mem_cons, List.not_mem_nil, or_false] at supported
    rcases supported with rfl | rfl | rfl | rfl | rfl | rfl | rfl | rfl | rfl <;> decide
  rw [← plain]
  simp only [supportedMethods, List.mem_cons, List.not_mem_nil, or_false] at supported
  rcases supported with rfl | rfl | rfl | rfl | rfl | rfl | rfl | rfl | rfl <;>
    exact Lexeme.of_name rfl (by decide) (by decide)

theorem argumentOf?_kind (a : Argument) : argumentOf? a.kind = some a := by
  cases a with
  | flag value => cases value <;> rfl
  | _ => rfl

/-- A writable argument of at most `Decimal.digitLimit` digits is written as a
lexeme of its token. -/
theorem Argument.lexeme {a : Argument} (writable : a.Writable) (short : a.digits ≤ Decimal.digitLimit) :
    Lexeme a.kind a.render.toList := by
  cases a with
  | text raw => simpa [Argument.kind, Argument.render, String.toList_append] using Lexeme.text writable
  | number value => exact .number (by simpa [Argument.render] using spells_intText value) short
  | placeholder shown => exact .placeholder writable
  | flag value =>
    cases value
    · rw [Argument.kind, Argument.render, if_neg Bool.false_ne_true, if_neg Bool.false_ne_true,
        ← show wordKind "false" = .falseKeyword by decide]
      exact Lexeme.of_name rfl (by decide) (by decide)
    · rw [Argument.kind, Argument.render, if_pos rfl, if_pos rfl,
        ← show wordKind "true" = .trueKeyword by decide]
      exact Lexeme.of_name rfl (by decide) (by decide)

/-- The arguments' tokens read back as the arguments. -/
theorem readsArguments_kind (calls : List Call) :
    ReadsArguments calls (calls.map fun call => call.argument.map Argument.kind) := by
  induction calls with
  | nil => exact .nil
  | cons call calls ih =>
    refine .cons ?_ ih
    obtain ⟨method, argument⟩ := call
    cases argument with
    | none => exact .none
    | some a => exact .some (argumentOf?_kind a)

/-- The pieces of a supported call with a writable argument spell its tokens. -/
theorem Call.pieces_lexemes {call : Call} (supported : call.method ∈ supportedMethods)
    (writable : ∀ a ∈ call.argument, a.Writable ∧ a.digits ≤ Decimal.digitLimit) :
    List.Forall₂ (fun kind spelling => Lexeme kind spelling.toList)
      (call.kindsWith (call.argument.map Argument.kind)) call.pieces := by
  obtain ⟨method, argument⟩ := call
  have spelledMethod := Lexeme.of_supported supported
  cases argument with
  | none => exact .cons spelledMethod (.cons Lexeme.openParen (.cons Lexeme.closeParen .nil))
  | some a =>
    have ⟨canWrite, short⟩ := writable a rfl
    exact .cons spelledMethod (.cons Lexeme.openParen
      (.cons (Argument.lexeme canWrite short) (.cons Lexeme.closeParen .nil)))

/-- The pieces of a chain of supported calls with writable arguments spell the
chain's tokens. -/
theorem chainPieces_lexemes {calls : List Call}
    (supported : ∀ call ∈ calls, call.method ∈ supportedMethods)
    (writable : ∀ call ∈ calls, ∀ a ∈ call.argument, a.Writable ∧ a.digits ≤ Decimal.digitLimit) :
    List.Forall₂ (fun kind spelling => Lexeme kind spelling.toList)
      (chainKinds calls (calls.map fun call => call.argument.map Argument.kind)) (chainPieces calls) := by
  induction calls with
  | nil => exact .nil
  | cons call calls ih =>
    have first := Call.pieces_lexemes (supported call (by simp)) (writable call (by simp))
    have tail := ih (fun c mem => supported c (List.mem_cons_of_mem _ mem))
      (fun c mem => writable c (List.mem_cons_of_mem _ mem))
    cases calls with
    | nil => simpa [chainKinds_singleton, chainPieces] using first
    | cons next calls =>
      rw [List.map_cons, List.map_cons, chainKinds_cons_cons, chainPieces_cons_cons]
      exact List.rel_append first (.cons Lexeme.dot tail)

/-- No supported method starts like the prefix. -/
theorem supported_head {method : String} (supported : method ∈ supportedMethods) :
    ∃ c more, method.toList = c :: more ∧ c ≠ 'n' := by
  simp only [supportedMethods, List.mem_cons, List.not_mem_nil, or_false] at supported
  rcases supported with rfl | rfl | rfl | rfl | rfl | rfl | rfl | rfl | rfl <;>
    exact ⟨_, _, rfl, by decide⟩

/-- A chain of supported calls with writable arguments of at most
`Decimal.digitLimit` digits, laid out with blank gaps between its tokens,
parses back to its calls, with or without the prefix before it. -/
theorem parse_spread_chainPieces {calls : List Call} (nonempty : calls ≠ [])
    (supported : ∀ call ∈ calls, call.method ∈ supportedMethods)
    (writable : ∀ call ∈ calls, ∀ a ∈ call.argument, a.Writable ∧ a.digits ≤ Decimal.digitLimit)
    {gaps : List String} (blank : ∀ gap ∈ gaps, isBlank gap = true) (prefixed : Bool) :
    parse ((if prefixed then prefixText else "") ++ spread (chainPieces calls) gaps) = .ok calls := by
  have layout : withPrefix ((if prefixed then prefixText else "") ++ spread (chainPieces calls) gaps) =
      prefixText ++ "" ++ spread (chainPieces calls) gaps := by
    cases prefixed with
    | true => simp [withPrefix_prefixText_append]
    | false =>
      -- the chain starts with its first method, and no supported method starts like the prefix
      obtain ⟨call, calls, rfl⟩ := List.exists_cons_of_ne_nil nonempty
      obtain ⟨c, more, chars, notN⟩ := supported_head (supported call (by simp))
      have first : (spread (chainPieces (call :: calls)) gaps).toList.head? = some c := by
        cases calls with
        | nil => simp [chainPieces, Call.pieces, toList_spread_cons, chars]
        | cons => simp [chainPieces_cons_cons, Call.pieces, toList_spread_cons, chars]
      simpa using withPrefix_of_head first notN
  exact (parse_eq_ok_iff _ _).mpr ⟨nonempty, supported, _, _, "", gaps, readsArguments_kind calls,
    chainPieces_lexemes supported writable, rfl, blank, layout⟩

/-- Chains of calls read back. A chain of supported calls whose arguments are
writable and have at most `Decimal.digitLimit` digits, laid out with blank
gaps between its tokens, alone or after the prefix, parses to its calls; a
text parses to calls exactly when its prefixed form is such a layout of them,
after the prefix; and a number stops a parse only when it has more digits than
may be read, all other failures being syntax errors. -/
theorem selector_chains_read_back (calls : List Call) (gaps : List String) (prefixed : Bool)
    (text : String) :
    (calls ≠ [] → (∀ call ∈ calls, call.method ∈ supportedMethods) →
      (∀ call ∈ calls, ∀ a ∈ call.argument, a.Writable ∧ a.digits ≤ Decimal.digitLimit) →
      (∀ gap ∈ gaps, isBlank gap = true) →
      parse ((if prefixed then prefixText else "") ++ spread (chainPieces calls) gaps) = .ok calls) ∧
    (parse text = .ok calls ↔
      calls ≠ [] ∧ (∀ call ∈ calls, call.method ∈ supportedMethods) ∧
        ∃ arguments spellings lead gaps, ReadsArguments calls arguments ∧
          List.Forall₂ (fun kind spelling => Lexeme kind spelling.toList)
            (chainKinds calls arguments) spellings ∧
          isBlank lead = true ∧ (∀ gap ∈ gaps, isBlank gap = true) ∧
          withPrefix text = prefixText ++ lead ++ spread spellings gaps) ∧
    (∀ digits, parse text = .error (.oversizedNumber digits) → Decimal.digitLimit < digits) :=
  ⟨fun nonempty supported writable blank => parse_spread_chainPieces nonempty supported writable blank prefixed,
    parse_eq_ok_iff text calls, fun _ failed => parse_oversized failed⟩

/-- A chain with blanks around a placeholder argument and a line feed before
its second call reads back. -/
theorem spaced_chain_read_back :
    parse "new UiSelector().resourceId ( %s )\n.checkable(true)" =
      .ok [⟨"resourceId", some (.placeholder "%s")⟩, ⟨"checkable", some (.flag true)⟩] := by
  have read := (selector_chains_read_back
    [⟨"resourceId", some (.placeholder "%s")⟩, ⟨"checkable", some (.flag true)⟩] [" ", " ", " ", "\n"] true
    "").1 (by simp) (by decide) (by simp [Argument.Writable, Argument.digits, Decimal.digitLimit]) (by decide)
  rwa [show ((if true then prefixText else "") ++
      spread (chainPieces [⟨"resourceId", some (.placeholder "%s")⟩, ⟨"checkable", some (.flag true)⟩])
        [" ", " ", " ", "\n"]) =
      "new UiSelector().resourceId ( %s )\n.checkable(true)" by decide] at read

/-- A call opened on a number of more than `Decimal.digitLimit` digits fails
on the number: the lexer stops there, before the reader can see how the text
goes on. -/
theorem parse_call_overlong {method : String} (supported : method ∈ supportedMethods) {value : Int}
    {digits : Nat} {ds : List Char} (spelled : SpellsNumber value digits ds) (long : Decimal.digitLimit < digits) :
    parse (method ++ "(" ++ String.ofList ds) = .error (.oversizedNumber digits) := by
  obtain ⟨c, more, methodChars, notN⟩ := supported_head supported
  have prefixed := @withPrefix_of_head (method ++ "(" ++ String.ofList ds) c (by simp [methodChars]) notN
  have chars : (withPrefix (method ++ "(" ++ String.ofList ds)).toList =
      prefixText.toList ++ (method.toList ++ (['('] ++ ds)) := by
    simp [prefixed, String.toList_append]
  obtain ⟨p₁, k₁, s₁⟩ := lexFrom_prefix (method.toList ++ (['('] ++ ds))
  obtain ⟨p₂, k₂, s₂⟩ := lexFrom_lexeme_kinds (Lexeme.of_supported supported) (['('] ++ ds)
    (by simp [TokenKind.absorbs]; rfl) p₁
  obtain ⟨p₃, k₃, s₃⟩ := lexFrom_lexeme_kinds Lexeme.openParen ds (by simp [TokenKind.absorbs]) p₂
  have stopped := lexFrom_overlong spelled long [] (by simp) p₃
  rw [List.append_nil] at stopped
  -- the prefix and the opening of the call are read, then lexing stops at the number
  have kinds : (lex (withPrefix (method ++ "(" ++ String.ofList ds))).tokens.map Token.kind =
      prefixKinds ++ [.word method, .openParen] := by
    rw [lex, chars, k₁, k₂, k₃, stopped]
    rfl
  have stop : (lex (withPrefix (method ++ "(" ++ String.ofList ds))).stop = some (.oversized digits) := by
    rw [lex, chars, s₁, s₂, s₃, stopped]
  obtain ⟨prefixTokens, callTokens, split, prefixRead, callKinds⟩ := List.map_eq_append_iff.mp kinds
  simp only [List.map_eq_cons_iff, List.map_eq_nil_iff] at callKinds
  obtain ⟨t₁, _, rfl, kind₁, t₂, _, rfl, kind₂, rfl⟩ := callKinds
  apply parse_of_readCalls_error
  rw [stop, split, readCalls_prefix prefixRead, readCalls_cons_of_step (by rw [kind₁]; rfl),
    readCalls_cons_of_step (by rw [kind₂]; rfl)]
  rfl

/-- A text cut short after a number of 4301 digits is outside the chain
grammar, yet its parse fails on the number and not with a syntax error. -/
theorem unclosed_long_number_fails_on_number :
    parse ("className(" ++ String.ofList (List.replicate 4301 '1')) = .error (.oversizedNumber 4301) := by
  have ones := SpellsNumber.mk false (List.replicate 4301 '1')
    (by rw [Ne, List.replicate_eq_nil_iff]; decide)
    (fun c mem => by rw [List.eq_of_mem_replicate mem]; decide +kernel)
  rw [List.length_replicate, if_neg Bool.false_ne_true, if_neg Bool.false_ne_true, List.nil_append] at ones
  rw [show ("className(" : String) = "className" ++ "(" by decide]
  exact parse_call_overlong (by decide) ones (by decide)

end PageObjects.UiSelector
