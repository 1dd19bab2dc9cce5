import PageObjects.Settings.Token

/-!
# Settings files

A settings file is any number of sections `compiler { … }`, each holding
entries `key: value`, each entry optionally followed by a comma. A value is a
quoted text, a number, `true` or `false`.

The file is read token by token, and the first token that cannot continue a
file is reported with its value and line; if the tokens run out inside a
section, the character where lexing stopped is reported, or the number too
long to read that stopped it, or else the end of the input. The entries are kept in order, a key keeping its first value; after
a complete file is read, the first entry whose key occurred before is
reported with its line.
-/

namespace PageObjects.Settings

/-- The value of an entry. -/
inductive Value where
  | text (raw : String)
  | number (value : Int)
  | flag (value : Bool)
  deriving DecidableEq, Repr

/-- Why a text is not a settings file. -/
inductive ParseError where
  /-- Lexing stopped at a character no rule reads. -/
  | illegalCharacter (glyph : String) (line : Nat)
  /-- Lexing stopped at a number of more digits than may be read. -/
  | oversizedNumber (digits : Nat)
  /-- A token that cannot continue a file. -/
  | unexpectedToken (shown : String) (line : Nat)
  /-- The text ended inside a section. -/
  | endOfInput
  /-- A key given a second time. -/
  | duplicateKey (key : String) (line : Nat)
  deriving DecidableEq, Repr

/-- The text of a parse error. -/
def ParseError.message : ParseError → String
  | .illegalCharacter glyph line => s!"Config: Illegal character '{glyph}' at line {line}"
  | .oversizedNumber digits => Decimal.digitLimitMessage digits
  | .unexpectedToken shown line => s!"Config: Syntax error at '{shown}' (line {line})"
  | .endOfInput => "Config: Unexpected end of input"
  | .duplicateKey key line => s!"Config: duplicate key '{key}' (line {line})"

/-- Where a reader of the file stands. -/
inductive Stage where
  /-- Between sections. -/
  | sections
  /-- After `compiler`. -/
  | afterCompiler
  /-- Inside a section, where an entry or the closing brace may come. -/
  | entries
  /-- After a key, on its line. -/
  | afterKey (key : String) (line : Nat)
  /-- After a key and its colon. -/
  | afterColon (key : String) (line : Nat)
  /-- After a value, where a comma may come. -/
  | afterValue
  deriving DecidableEq, Repr

/-- An entry as read, with the line of its key. -/
structure Entry where
  key : String
  value : Value
  line : Nat
  deriving DecidableEq, Repr

/-- The value a token is, if it is one. -/
def valueOf? : TokenKind → Option Value
  | .text raw => some (.text raw)
  | .number value _ => some (.number value)
  | .trueKeyword => some (.flag true)
  | .falseKeyword => some (.flag false)
  | _ => none

/-- The stage after a token inside a section: a key starts an entry, the
closing brace ends the section. -/
def stepEntries : Token → Option (Stage × Option Entry)
  | ⟨.word key, line⟩ => some (.afterKey key line, none)
  | ⟨.closeBrace, _⟩ => some (.sections, none)
  | _ => none

/-- The stage after a token, and the entry it completes; none when the token
cannot continue a file at this stage. -/
def step : Stage → Token → Option (Stage × Option Entry)
  | .sections, ⟨.compilerKeyword, _⟩ => some (.afterCompiler, none)
  | .afterCompiler, ⟨.openBrace, _⟩ => some (.entries, none)
  | .entries, token => stepEntries token
  | .afterKey key line, ⟨.colon, _⟩ => some (.afterColon key line, none)
  | .afterColon key line, token => (valueOf? token.kind).map (fun v => (.afterValue, some ⟨key, v, line⟩))
  | .afterValue, ⟨.comma, _⟩ => some (.entries, none)
  | .afterValue, token => stepEntries token
  | _, _ => none

/-- Reads the tokens from a stage; `done` holds the entries read, reversed. -/
def readEntries (stop : Option Stop) : Stage → List Entry → List Token →
    Except ParseError (List Entry)
  | stage, done, [] =>
    match stop with
    | some (.illegal glyph line) => .error (.illegalCharacter glyph line)
    | some (.oversized digits) => .error (.oversizedNumber digits)
    | none => if stage == .sections then .ok done.reverse else .error .endOfInput
  | stage, done, token :: rest =>
    match step stage token with
    | some (stage', some entry) => readEntries stop stage' (entry :: done) rest
    | some (stage', none) => readEntries stop stage' done rest
    | none => .error (.unexpectedToken token.kind.shown token.line)

/-- The entries that keep their key's first value, in order. -/
def firstValues (entries : List Entry) : List (String × Value) :=
  entries.foldl (fun kept e => if kept.any (·.1 == e.key) then kept else kept ++ [(e.key, e.value)]) []

/-- The first entry whose key occurred before, if any. -/
def firstDuplicate? (entries : List Entry) : Option Entry :=
  let rec go (seen : List String) : List Entry → Option Entry
    | [] => none
    | e :: rest => if seen.contains e.key then some e else go (e.key :: seen) rest
  go [] entries

/-- The entries of a settings text, each key with its first value. -/
def parse (text : String) : Except ParseError (List (String × Value)) := do
  let lexed := lex text
  let entries ← readEntries lexed.stop .sections [] lexed.tokens
  match firstDuplicate? entries with
  | some e => .error (.duplicateKey e.key e.line)
  | none => .ok (firstValues entries)

end PageObjects.Settings
