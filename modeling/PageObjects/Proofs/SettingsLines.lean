import PageObjects.Proofs.SettingsFiles

/-!
# Lines of settings errors

The settings lexer counts lines by the runs of line feeds it reads between
tokens. A quoted text may hold line feeds of its own, and those it reads as
part of the token without counting them. So the line of every token, and the
line where lexing stops, is one plus the line feeds before it, less the line
feeds hidden inside the quoted texts read before it (`CountsLines`, which
holds of every run of the lexer by `countsLines`).

A settings error reports the line of a token or of the stop: an illegal
character the line where lexing stopped, a syntax error the line of the token
that cannot continue the file, and a repeated key the line of a key token. Each
such line therefore counts the line feeds before the offending character or
token that do not stand inside a quoted text (`error_lines_skip_quoted_feeds`),
and only those: after a quoted text that spans lines, the lines reported fall
behind (`quoted_line_feed_not_counted`).
-/

namespace PageObjects.Settings

/-! ## Line feeds inside pieces -/

/-- The line feeds inside a token, which the line count does not see: those of
a quoted text. -/
def TokenKind.hiddenFeeds : TokenKind → Nat
  | .text raw => raw.toList.count '\n'
  | _ => 0

/-- The line feeds a piece reads: a run of line feeds is counted, a token may
hide some, a comment holds none. -/
def Piece.feeds : Piece → Nat
  | .token kind => kind.hiddenFeeds
  | .comment => 0
  | .lineFeeds count => count

/-- The line feeds hidden inside tokens. -/
def hiddenFeeds : List Token → Nat
  | [] => 0
  | t :: ts => t.kind.hiddenFeeds + hiddenFeeds ts

@[simp]
theorem hiddenFeeds_nil : hiddenFeeds [] = 0 := rfl

@[simp]
theorem hiddenFeeds_cons (t : Token) (ts : List Token) :
    hiddenFeeds (t :: ts) = t.kind.hiddenFeeds + hiddenFeeds ts := rfl

/-- Whether the lexer reads a token of a kind at the front of characters. -/
def LexedAt (kind : TokenKind) (cs : List Char) : Prop :=
  ∃ n, pieceAt? cs = some (.token kind, n)

theorem count_lineFeed_eq_zero {cs : List Char} (none : ∀ c ∈ cs, c ≠ '\n') : cs.count '\n' = 0 :=
  List.count_eq_zero.mpr fun mem => none _ mem rfl

/-- A run taken while a test that fails at the line feed holds no line feed. -/
theorem count_lineFeed_take_takeWhile {p : Char → Bool} (stops : p '\n' = false) (cs : List Char) :
    (cs.take (cs.takeWhile p).length).count '\n' = 0 := by
  rw [← List.prefix_iff_eq_take.mp (List.takeWhile_prefix p)]
  refine count_lineFeed_eq_zero fun c mem same => ?_
  subst same
  simpa [stops] using List.all_eq_true.mp List.all_takeWhile _ mem

theorem wordKind_hiddenFeeds (name : String) : (wordKind name).hiddenFeeds = 0 := by
  unfold wordKind
  split <;> rfl

/-- The characters a piece reads hold as many line feeds as the piece feeds. -/
theorem pieceAt?_feeds {cs : List Char} {piece : Piece} {n : Nat} (read : pieceAt? cs = some (piece, n)) :
    (cs.take n).count '\n' = piece.feeds := by
  unfold pieceAt? at read
  split at read
  · -- a comment runs up to the line feed that ends it
    rename_i rest
    simp only [Option.some.injEq, Prod.mk.injEq] at read
    obtain ⟨rfl, rfl⟩ := read
    rw [Nat.add_comm, List.take_succ_cons, List.take_succ_cons]
    simp only [List.count_cons, Piece.feeds]
    rw [count_lineFeed_take_takeWhile (by decide)]
    rfl
  · -- a quoted text hides the line feeds of its inside
    rename_i rest
    split at read
    · rename_i m closes
      simp only [Option.some.injEq, Prod.mk.injEq] at read
      obtain ⟨rfl, rfl⟩ := read
      obtain ⟨body, after, rfl, -, rfl⟩ := UiSelector.body_of_quotedLength closes
      simp [List.take_succ_cons, List.take_length_add_append, Piece.feeds, TokenKind.hiddenFeeds]
    · contradiction
  · rename_i c rest _ _
    split at read
    · -- a number holds signs and digits only
      rename_i value digits m number
      simp only [Option.some.injEq, Prod.mk.injEq] at read
      obtain ⟨rfl, rfl⟩ := read
      obtain ⟨spelled, after, split, ⟨negative, ds, -, decimal⟩, rfl⟩ := UiSelector.spells_of_numberAt? number
      rw [split, List.take_left]
      refine count_lineFeed_eq_zero fun d mem same => ?_
      subst same
      cases negative <;> simp at mem
      all_goals exact absurd (decimal _ mem) (by decide +kernel)
    · split at read
      · -- a word holds word characters only
        rename_i start
        simp only [Option.some.injEq, Prod.mk.injEq] at read
        obtain ⟨rfl, rfl⟩ := read
        have notFeed : c ≠ '\n' := by
          rintro rfl
          contradiction
        rw [List.length_cons, List.take_succ_cons, List.count_cons,
          count_lineFeed_take_takeWhile (by decide), Piece.feeds, wordKind_hiddenFeeds]
        simp [notFeed]
      · split at read
        · -- a run of line feeds is counted whole
          simp only [Option.some.injEq, Prod.mk.injEq] at read
          obtain ⟨rfl, rfl⟩ := read
          rw [← (List.prefix_iff_eq_take.mp (List.takeWhile_prefix _))]
          exact List.count_eq_length.mpr fun d mem => by
            have feed : d = '\n' := by simpa using List.all_eq_true.mp List.all_takeWhile d mem
            rw [feed]
        · -- a punctuation mark is one character, other than a line feed
          have notFeed : c ≠ '\n' := by simpa using ‹¬(c == '\n') = true›
          repeat' split at read
          all_goals first
            | contradiction
            | simp only [Option.some.injEq, Prod.mk.injEq] at read
              obtain ⟨rfl, rfl⟩ := read
              simp [Piece.feeds, TokenKind.hiddenFeeds, notFeed]
  · contradiction

/-! ## Lines of tokens -/

/-- Lexing characters from a line counts lines by what it reads: each token,
and the place where lexing stops at a character it cannot read, stands at the
start line plus the line feeds before it, less those hidden in the tokens
before it. -/
structure CountsLines (line : Nat) (cs : List Char) : Prop where
  token : ∀ before t after, (lexFrom line cs).tokens = before ++ t :: after →
    ∃ pre rest, cs = pre ++ rest ∧ LexedAt t.kind rest ∧ t.line + hiddenFeeds before = line + pre.count '\n'
  stop : ∀ glyph stopLine, (lexFrom line cs).stop = some (.illegal glyph stopLine) →
    ∃ pre rest, cs = pre ++ rest ∧ Text.leadGlyph rest = glyph.toList ∧
      stopLine + hiddenFeeds (lexFrom line cs).tokens = line + pre.count '\n'

namespace CountsLines

variable {line : Nat} {cs : List Char}

/-- Characters read into nothing, with no line feed among them, move no line. -/
theorem of_skipped {c : Char} (skip : isSkipped c = true) (counts : CountsLines line cs) :
    CountsLines line (c :: cs) := by
  have notFeed : c ≠ '\n' := by rcases skipped_cases skip with rfl | rfl | rfl <;> decide
  rw [← List.singleton_append]
  constructor
  · intro before t after tokens
    rw [List.singleton_append, lexFrom_skipped skip] at tokens
    obtain ⟨pre, rest, rfl, lexed, counted⟩ := counts.token before t after tokens
    exact ⟨c :: pre, rest, rfl, lexed, by simp [notFeed, counted]⟩
  · intro glyph stopLine stopped
    rw [List.singleton_append, lexFrom_skipped skip] at stopped ⊢
    obtain ⟨pre, rest, rfl, lead, counted⟩ := counts.stop glyph stopLine stopped
    exact ⟨c :: pre, rest, rfl, lead, by simp [notFeed, counted]⟩

/-- A token read at the front stands there, on the start line, and the tokens
after it see the line feeds it holds as hidden. -/
theorem of_token {kind : TokenKind} {n : Nat} (read : pieceAt? cs = some (.token kind, n))
    (lexed : lexFrom line cs =
      ⟨⟨kind, line⟩ :: (lexFrom line (cs.drop n)).tokens, (lexFrom line (cs.drop n)).stop⟩)
    (counts : CountsLines line (cs.drop n)) : CountsLines line cs := by
  have feeds := pieceAt?_feeds read
  constructor
  · intro before t after tokens
    rw [lexed] at tokens
    cases before with
    | nil =>
      simp only [List.nil_append, List.cons.injEq] at tokens
      obtain ⟨rfl, -⟩ := tokens
      exact ⟨[], cs, rfl, ⟨n, read⟩, by simp⟩
    | cons first before =>
      simp only [List.cons_append, List.cons.injEq] at tokens
      obtain ⟨rfl, tokens⟩ := tokens
      obtain ⟨pre, rest, split, lexedAt, counted⟩ := counts.token before t after tokens
      refine ⟨cs.take n ++ pre, rest, by rw [List.append_assoc, ← split, List.take_append_drop], lexedAt, ?_⟩
      simp only [hiddenFeeds_cons, List.count_append, feeds, Piece.feeds]
      omega
  · intro glyph stopLine stopped
    rw [lexed] at stopped ⊢
    obtain ⟨pre, rest, split, lead, counted⟩ := counts.stop glyph stopLine stopped
    refine ⟨cs.take n ++ pre, rest, by rw [List.append_assoc, ← split, List.take_append_drop], lead, ?_⟩
    simp only [hiddenFeeds_cons, List.count_append, feeds, Piece.feeds]
    omega

/-- A piece read into no token moves the line on by the line feeds it holds. -/
theorem of_gap {n feeds : Nat} (holds : (cs.take n).count '\n' = feeds)
    (lexed : lexFrom line cs = lexFrom (line + feeds) (cs.drop n))
    (counts : CountsLines (line + feeds) (cs.drop n)) : CountsLines line cs := by
  constructor
  · intro before t after tokens
    rw [lexed] at tokens
    obtain ⟨pre, rest, split, lexedAt, counted⟩ := counts.token before t after tokens
    refine ⟨cs.take n ++ pre, rest, by rw [List.append_assoc, ← split, List.take_append_drop], lexedAt, ?_⟩
    rw [List.count_append, holds]
    omega
  · intro glyph stopLine stopped
    rw [lexed] at stopped ⊢
    obtain ⟨pre, rest, split, lead, counted⟩ := counts.stop glyph stopLine stopped
    refine ⟨cs.take n ++ pre, rest, by rw [List.append_assoc, ← split, List.take_append_drop], lead, ?_⟩
    rw [List.count_append, holds]
    omega

/-- Lexing that stops at the front, at a character it cannot read, reports
that character on the start line. -/
theorem of_illegal (lexed : lexFrom line cs = ⟨[], some (.illegal (String.ofList (Text.leadGlyph cs)) line)⟩) :
    CountsLines line cs := by
  constructor
  · intro before t after tokens
    simp [lexed] at tokens
  · intro glyph stopLine stopped
    simp only [lexed, Option.some.injEq, Stop.illegal.injEq] at stopped ⊢
    obtain ⟨rfl, rfl⟩ := stopped
    exact ⟨[], cs, rfl, by simp, by simp⟩

/-- Lexing that stops at a number too long to read reads no token and no
character it cannot read. -/
theorem of_oversized {digits : Nat} (lexed : lexFrom line cs = ⟨[], some (.oversized digits)⟩) :
    CountsLines line cs := by
  constructor
  · intro before t after tokens
    simp [lexed] at tokens
  · intro glyph stopLine stopped
    simp [lexed] at stopped

end CountsLines

/-- Lexing counts lines by the line feeds it reads outside quoted texts. -/
theorem countsLines (line : Nat) (cs : List Char) : CountsLines line cs := by
  induction line, cs using lexFrom.induct with
  | case1 line => exact ⟨fun _ _ _ tokens => by simp [lexFrom] at tokens, fun _ _ stopped => by simp [lexFrom] at stopped⟩
  | case2 line c rest skip ih => exact ih.of_skipped skip
  | case3 line c rest notSkip n positive kind digits oversized read =>
    have lexed : lexFrom line (c :: rest) = ⟨[], some (.oversized digits)⟩ := by
      rw [lexFrom.eq_2, if_neg notSkip, read]
      simp [positive, oversized]
    exact .of_oversized lexed
  | case4 line c rest notSkip n positive kind fits read ih =>
    exact ih.of_token read (by rw [lexFrom.eq_2, if_neg notSkip, read]; simp [positive, fits])
  | case5 line c rest notSkip n positive read ih =>
    refine .of_gap (pieceAt?_feeds read) ?_ (by simpa [Piece.feeds] using ih)
    rw [lexFrom.eq_2, if_neg notSkip, read]
    simp [positive, Piece.feeds]
  | case6 line c rest notSkip n positive count read ih =>
    refine .of_gap (pieceAt?_feeds read) ?_ ih
    rw [lexFrom.eq_2, if_neg notSkip, read]
    simp [positive, Piece.feeds]
  | case7 line c rest notSkip piece n read empty =>
    exact .of_illegal (by rw [lexFrom.eq_2, if_neg notSkip, read]; simp [empty])
  | case8 line c rest notSkip read =>
    exact .of_illegal (by rw [lexFrom.eq_2, if_neg notSkip, read])

/-! ## Where errors stand -/

/-- The key, and the line of its token, that an entry under way was begun with. -/
def Stage.pendingKey? : Stage → Option (String × Nat)
  | .afterKey key line | .afterColon key line => some (key, line)
  | _ => none

/-- A step begins an entry only at a key token, carries the key it was begun
with, and completes an entry with that key. -/
theorem step_pendingKey {stage next : Stage} {token : Token} {completed : Option Entry}
    (stepped : step stage token = some (next, completed)) :
    (∀ key line, next.pendingKey? = some (key, line) →
        token = ⟨.word key, line⟩ ∨ stage.pendingKey? = some (key, line)) ∧
      ∀ e, completed = some e → stage.pendingKey? = some (e.key, e.line) := by
  -- inside a section only a key begins an entry
  have entries {token : Token} (stepped : stepEntries token = some (next, completed)) :
      (∀ key line, next.pendingKey? = some (key, line) → token = ⟨.word key, line⟩) ∧ completed = none := by
    unfold stepEntries at stepped
    split at stepped <;> simp only [Option.some.injEq, Prod.mk.injEq, reduceCtorEq] at stepped <;>
      obtain ⟨rfl, rfl⟩ := stepped <;> simp [Stage.pendingKey?]
  unfold step at stepped
  split at stepped
  · simp only [Option.some.injEq, Prod.mk.injEq] at stepped
    obtain ⟨rfl, rfl⟩ := stepped
    simp [Stage.pendingKey?]
  · simp only [Option.some.injEq, Prod.mk.injEq] at stepped
    obtain ⟨rfl, rfl⟩ := stepped
    simp [Stage.pendingKey?]
  · obtain ⟨keys, rfl⟩ := entries stepped
    exact ⟨fun key line pending => .inl (keys key line pending), by simp⟩
  · simp only [Option.some.injEq, Prod.mk.injEq] at stepped
    obtain ⟨rfl, rfl⟩ := stepped
    simp [Stage.pendingKey?]
  · -- a value completes the entry begun with its key
    obtain ⟨value, -, same⟩ := Option.map_eq_some_iff.mp stepped
    simp only [Prod.mk.injEq] at same
    obtain ⟨rfl, rfl⟩ := same
    simp [Stage.pendingKey?]
  · simp only [Option.some.injEq, Prod.mk.injEq] at stepped
    obtain ⟨rfl, rfl⟩ := stepped
    simp [Stage.pendingKey?]
  · obtain ⟨keys, rfl⟩ := entries stepped
    exact ⟨fun key line pending => .inl (keys key line pending), by simp⟩
  · contradiction

/-- A token that cannot continue the file is one of the tokens read, reported
with its value and line. -/
theorem readEntries_unexpected {stop : Option Stop} {stage : Stage} {done : List Entry} {tokens : List Token}
    {shown : String} {line : Nat} (failed : readEntries stop stage done tokens = .error (.unexpectedToken shown line)) :
    ∃ t ∈ tokens, t.kind.shown = shown ∧ t.line = line := by
  induction tokens generalizing stage done with
  | nil =>
    unfold readEntries at failed
    split at failed
    · cases failed
    · cases failed
    · split at failed <;> cases failed
  | cons token rest ih =>
    unfold readEntries at failed
    split at failed
    · obtain ⟨t, mem, facts⟩ := ih failed
      exact ⟨t, List.mem_cons_of_mem token mem, facts⟩
    · obtain ⟨t, mem, facts⟩ := ih failed
      exact ⟨t, List.mem_cons_of_mem token mem, facts⟩
    · cases failed
      exact ⟨token, List.mem_cons_self, rfl, rfl⟩

/-- A character that cannot be read is reported where lexing stopped at it. -/
theorem readEntries_illegal {stop : Option Stop} {stage : Stage} {done : List Entry} {tokens : List Token}
    {glyph : String} {line : Nat} (failed : readEntries stop stage done tokens = .error (.illegalCharacter glyph line)) :
    stop = some (.illegal glyph line) := by
  induction tokens generalizing stage done with
  | nil =>
    unfold readEntries at failed
    split at failed
    · cases failed
      rfl
    · cases failed
    · split at failed <;> cases failed
  | cons token rest ih =>
    unfold readEntries at failed
    split at failed
    · exact ih failed
    · exact ih failed
    · cases failed

/-- Every entry read was begun with a key token among the tokens. -/
theorem readEntries_keys {stop : Option Stop} {stage : Stage} {done entries : List Entry} {tokens : List Token}
    (all : List Token) (read : readEntries stop stage done tokens = .ok entries)
    (doneKeys : ∀ e ∈ done, ⟨.word e.key, e.line⟩ ∈ all)
    (pending : ∀ key line, stage.pendingKey? = some (key, line) → ⟨.word key, line⟩ ∈ all)
    (within : ∀ t ∈ tokens, t ∈ all) :
    ∀ e ∈ entries, ⟨.word e.key, e.line⟩ ∈ all := by
  induction tokens generalizing stage done with
  | nil =>
    unfold readEntries at read
    split at read
    · cases read
    · cases read
    · split at read
      · cases read
        exact fun e mem => doneKeys e (List.mem_reverse.mp mem)
      · cases read
  | cons token rest ih =>
    have here : token ∈ all := within token List.mem_cons_self
    have later : ∀ t ∈ rest, t ∈ all := fun t mem => within t (List.mem_cons_of_mem token mem)
    -- the key carried to the next stage was read here or before
    have carried {next : Stage} {completed : Option Entry} (stepped : step stage token = some (next, completed)) :
        ∀ key line, next.pendingKey? = some (key, line) → ⟨.word key, line⟩ ∈ all := by
      intro key line next_pending
      rcases (step_pendingKey stepped).1 key line next_pending with rfl | before
      · exact here
      · exact pending key line before
    unfold readEntries at read
    split at read
    · rename_i next entry stepped
      refine ih read (fun e mem => ?_) (carried stepped) later
      rcases List.mem_cons.mp mem with rfl | old
      · exact pending _ _ ((step_pendingKey stepped).2 _ rfl)
      · exact doneKeys e old
    · rename_i next stepped
      exact ih read doneKeys (carried stepped) later
    · cases read

theorem firstDuplicate?_go_mem {seen : List String} {entries : List Entry} {e : Entry}
    (found : firstDuplicate?.go seen entries = some e) : e ∈ entries := by
  induction entries generalizing seen with
  | nil => cases found
  | cons d rest ih =>
    unfold firstDuplicate?.go at found
    split at found
    · cases found
      exact List.mem_cons_self
    · exact List.mem_cons_of_mem d (ih found)

/-- The entry reported as a repeated key is one of the entries checked. -/
theorem firstDuplicate?_mem {entries : List Entry} {e : Entry} (found : firstDuplicate? entries = some e) :
    e ∈ entries :=
  firstDuplicate?_go_mem found

/-- Reading tokens never reports a repeated key: that check comes after. -/
theorem readEntries_ne_duplicateKey {stop : Option Stop} {stage : Stage} {done : List Entry}
    {tokens : List Token} (key : String) (line : Nat) :
    readEntries stop stage done tokens ≠ .error (.duplicateKey key line) := by
  induction tokens generalizing stage done with
  | nil =>
    intro failed
    unfold readEntries at failed
    split at failed
    · cases failed
    · cases failed
    · split at failed <;> cases failed
  | cons token rest ih =>
    intro failed
    unfold readEntries at failed
    split at failed
    · exact ih failed
    · exact ih failed
    · cases failed

/-- A parse fails while reading the tokens, or after reading them, at the
first repeated key. -/
theorem parse_error_cases {text : String} {e : ParseError} (failed : parse text = .error e) :
    readEntries (lex text).stop .sections [] (lex text).tokens = .error e ∨
      ∃ entries d, readEntries (lex text).stop .sections [] (lex text).tokens = .ok entries ∧
        firstDuplicate? entries = some d ∧ e = .duplicateKey d.key d.line := by
  unfold parse at failed
  dsimp only at failed
  cases read : readEntries (lex text).stop .sections [] (lex text).tokens with
  | error err =>
    rw [read] at failed
    cases failed
    exact .inl rfl
  | ok entries =>
    rw [read] at failed
    cases found : firstDuplicate? entries with
    | none => simp [found, bind, Except.bind] at failed
    | some d =>
      simp only [bind, Except.bind, found, Except.error.injEq] at failed
      exact .inr ⟨entries, d, rfl, found, failed.symm⟩

/-! ## Lines of errors -/

/-- Settings errors report lines that count the line feeds before the
offending character or token, less those inside the quoted texts read before
it. Every token stands at such a line; a character that cannot be read is
reported at such a line; a syntax error reports the line of a token with the
value shown, and a repeated key the line of a token of that key. -/
theorem error_lines_skip_quoted_feeds (text : String) :
    (∀ before t after, (lex text).tokens = before ++ t :: after →
      ∃ pre rest, text.toList = pre ++ rest ∧ LexedAt t.kind rest ∧
        t.line + hiddenFeeds before = 1 + pre.count '\n') ∧
    (∀ glyph line, parse text = .error (.illegalCharacter glyph line) →
      ∃ pre rest, text.toList = pre ++ rest ∧ Text.leadGlyph rest = glyph.toList ∧
        line + hiddenFeeds (lex text).tokens = 1 + pre.count '\n') ∧
    (∀ shown line, parse text = .error (.unexpectedToken shown line) →
      ∃ kind, ⟨kind, line⟩ ∈ (lex text).tokens ∧ kind.shown = shown) ∧
    (∀ key line, parse text = .error (.duplicateKey key line) → ⟨.word key, line⟩ ∈ (lex text).tokens) := by
  have counts := countsLines 1 text.toList
  refine ⟨counts.token, fun glyph line failed => ?_, fun shown line failed => ?_, fun key line failed => ?_⟩
  · rcases parse_error_cases failed with read | ⟨entries, d, -, -, other⟩
    · exact counts.stop glyph line (readEntries_illegal read)
    · cases other
  · rcases parse_error_cases failed with read | ⟨entries, d, -, -, other⟩
    · obtain ⟨t, mem, shownIs, rfl⟩ := readEntries_unexpected read
      exact ⟨t.kind, mem, shownIs⟩
    · cases other
  · rcases parse_error_cases failed with read | ⟨entries, d, read, found, same⟩
    · exact absurd read (readEntries_ne_duplicateKey key line)
    · cases same
      exact readEntries_keys _ read (by simp) (by simp [Stage.pendingKey?]) (fun _ mem => mem) d
        (firstDuplicate?_mem found)

/-- After a quoted text that spans two lines, the second `a` stands after one
line feed but is reported as a repeated key on line one. -/
theorem quoted_line_feed_not_counted :
    parse "compiler\x7ba:\"x\ny\" a:1\x7d" = .error (.duplicateKey "a" 1) ∧
      "compiler\x7ba:\"x\ny\" a:1\x7d" = "compiler\x7ba:\"x\ny\" " ++ "a:1\x7d" ∧
      "compiler\x7ba:\"x\ny\" ".toList.count '\n' = 1 := by
  refine ⟨by decide +kernel, rfl, by decide⟩

end PageObjects.Settings
