import PageObjects.UiSelector.Token

/-!
# UiSelector chains

A UIAutomator selector is `new UiSelector()` followed by one or more calls
`.method(argument)`, where the argument is absent, a quoted text, a number, a
placeholder, `true` or `false`. A text without the leading `new UiSelector().`
gets it; positions count characters of the text with the prefix.

The chain is read token by token, and the first token that cannot continue a
selector is reported with its value and position; if the tokens run out first,
the character where lexing stopped is reported, or the number too long to read
that stopped it, or else the end of the input.
Only after a complete chain is read are its methods checked, and the first
method outside the supported ones is reported.
-/

namespace PageObjects.UiSelector

/-- The prefix every selector starts with. -/
def prefixText : String := "new UiSelector()."

/-- A selector text with the prefix, added unless present. -/
def withPrefix (text : String) : String :=
  if text.startsWith prefixText then text else prefixText ++ text

/-- The methods a chain may call, in the order messages list them. -/
def supportedMethods : List String :=
  ["checkable", "checked", "className", "description", "descriptionContains",
    "descriptionStartsWith", "enabled", "selected", "resourceId"]

/-- The argument of a call. -/
inductive Argument where
  | text (raw : String)
  | number (value : Int)
  | placeholder (text : String)
  | flag (value : Bool)
  deriving DecidableEq, Repr

/-- One call `.method(argument)` of a chain. -/
structure Call where
  method : String
  argument : Option Argument
  deriving DecidableEq, Repr

/-- Why a text is not a supported selector. -/
inductive ParseError where
  /-- Lexing stopped at a character no rule reads. -/
  | illegalCharacter (glyph : String) (position : Nat)
  /-- Lexing stopped at a number of more digits than may be read. -/
  | oversizedNumber (digits : Nat)
  /-- A token that cannot continue a selector. -/
  | unexpectedToken (shown : String) (position : Nat)
  /-- The text ended inside a selector. -/
  | endOfInput
  /-- A complete chain calls a method outside the supported ones. -/
  | unsupportedMethod (name : String)
  deriving DecidableEq, Repr

/-- The text of a parse error. -/
def ParseError.message : ParseError → String
  | .illegalCharacter glyph position => s!"UiSelector: Illegal character '{glyph}' at position {position}"
  | .oversizedNumber digits => Decimal.digitLimitMessage digits
  | .unexpectedToken shown position => s!"UiSelector: Syntax error at '{shown}' (position {position})"
  | .endOfInput => "UiSelector: Unexpected end of input"
  | .unsupportedMethod name =>
    s!"UiSelector: unsupported method '{name}', supported are " ++ ", ".intercalate supportedMethods

/-- Where a reader of the chain stands. -/
inductive Stage where
  | start
  | afterNew
  | afterUiSelector
  | afterPrefixOpen
  | afterPrefixClose
  | method
  | open (name : String)
  | argument (name : String)
  | close (name : String) (argument : Argument)
  | next
  deriving DecidableEq, Repr

/-- The argument a token is, if it is one. -/
def argumentOf? : TokenKind → Option Argument
  | .text raw => some (.text raw)
  | .number value _ => some (.number value)
  | .placeholder t => some (.placeholder t)
  | .trueKeyword => some (.flag true)
  | .falseKeyword => some (.flag false)
  | _ => none

/-- The stage after a token, and the call it completes; none when the token
cannot continue a selector at this stage. -/
def step : Stage → TokenKind → Option (Stage × Option Call)
  | .start, .newKeyword => some (.afterNew, none)
  | .afterNew, .uiSelectorKeyword => some (.afterUiSelector, none)
  | .afterUiSelector, .openParen => some (.afterPrefixOpen, none)
  | .afterPrefixOpen, .closeParen => some (.afterPrefixClose, none)
  | .afterPrefixClose, .dot => some (.method, none)
  | .method, .word name => some (.open name, none)
  | .open name, .openParen => some (.argument name, none)
  | .argument name, .closeParen => some (.next, some ⟨name, none⟩)
  | .argument name, kind => (argumentOf? kind).map (fun a => (.close name a, none))
  | .close name a, .closeParen => some (.next, some ⟨name, some a⟩)
  | .next, .dot => some (.method, none)
  | _, _ => none

/-- Reads the tokens from a stage; `done` holds the completed calls, reversed. -/
def readCalls (stop : Option Stop) : Stage → List Call → List Token →
    Except ParseError (List Call)
  | stage, done, [] =>
    match stop with
    | some (.illegal glyph position) => .error (.illegalCharacter glyph position)
    | some (.oversized digits) => .error (.oversizedNumber digits)
    | none => if stage == .next then .ok done.reverse else .error .endOfInput
  | stage, done, token :: rest =>
    match step stage token.kind with
    | some (stage', some call) => readCalls stop stage' (call :: done) rest
    | some (stage', none) => readCalls stop stage' done rest
    | none => .error (.unexpectedToken token.kind.shown token.position)

/-- The calls of a selector text, which gets the prefix unless present. -/
def parse (text : String) : Except ParseError (List Call) := do
  let lexed := lex (withPrefix text)
  let calls ← readCalls lexed.stop .start [] lexed.tokens
  match calls.find? (fun call => !supportedMethods.contains call.method) with
  | some call => .error (.unsupportedMethod call.method)
  | none => .ok calls

end PageObjects.UiSelector
