import PageObjects.Text.Digit
import PageObjects.Decimal.Text
import PageObjects.Text.CodePoint

/-!
# UiSelector tokens

The tokens of a UIAutomator selector chain such as
`new UiSelector().checkable(true).resourceId("%s")`. Space, tab and line feed
between tokens are skipped. At each position the first of these rules that
matches gives the token:

1. a quoted text: `"`, then characters other than `"` and `\`, or a `\`
   followed by any character but a line feed, then `"`; its value is the raw
   text between the quotes;
2. a placeholder `%s` or `%d`;
3. a number: an optional `-` and decimal digits of any script; lexing stops
   at a number of more than `Decimal.digitLimit` digits, which is not read;
4. a word of ASCII letters, digits and `_`, not starting with a digit; `new`,
   `UiSelector`, `true` and `false` are keywords;
5. `(`, `)` or `.`.

Lexing also stops at the first character no rule reads. Positions count the
code points of the held text from its start.
-/

namespace PageObjects.UiSelector

/-- What a token is. -/
inductive TokenKind where
  | text (raw : String)
  | placeholder (text : String)
  | number (value : Int) (digits : Nat)
  | word (name : String)
  | newKeyword
  | uiSelectorKeyword
  | trueKeyword
  | falseKeyword
  | openParen
  | closeParen
  | dot
  deriving DecidableEq, Repr

/-- A token and the position of its first character. -/
structure Token where
  kind : TokenKind
  position : Nat
  deriving DecidableEq, Repr

/-- The value of a token as an error shows it. -/
def TokenKind.shown : TokenKind → String
  | .text raw => raw
  | .placeholder shownText => shownText
  | .number value _ => Decimal.intText value
  | .word name => name
  | .newKeyword => "new"
  | .uiSelectorKeyword => "UiSelector"
  | .trueKeyword => "true"
  | .falseKeyword => "false"
  | .openParen => "("
  | .closeParen => ")"
  | .dot => "."

/-- Why lexing stopped before the end of a text. -/
inductive Stop where
  /-- At a character no rule reads, given by its glyph, at a position. -/
  | illegal (glyph : String) (position : Nat)
  /-- At a number of this many digits, more than may be read. -/
  | oversized (digits : Nat)
  deriving DecidableEq, Repr

/-- The tokens read before lexing stopped, and why it stopped, if it stopped
before the end. -/
structure Lexed where
  tokens : List Token
  stop : Option Stop
  deriving Repr

/-- Whether a character is skipped between tokens. -/
def isSkipped (c : Char) : Bool := c == ' ' || c == '\t' || c == '\n'

/-- Whether a character may start a word. -/
def isWordStart (c : Char) : Bool :=
  ('a' ≤ c ∧ c ≤ 'z') || ('A' ≤ c ∧ c ≤ 'Z') || c == '_'

/-- Whether a character may continue a word. -/
def isWordPart (c : Char) : Bool :=
  isWordStart c || ('0' ≤ c ∧ c ≤ '9')

/-- The length of a quoted text after its opening quote, closing quote
included, if it closes. -/
def quotedLength : List Char → Option Nat
  | [] => none
  | '"' :: _ => some 1
  | '\\' :: c :: rest => if c == '\n' then none else (quotedLength rest).map (· + 2)
  | ['\\'] => none
  | _ :: rest => (quotedLength rest).map (· + 1)

/-- A number at the front: its value, its number of digits and its length. -/
def numberAt? (cs : List Char) : Option (Int × Nat × Nat) :=
  let (negative, body) :=
    match cs with
    | '-' :: rest => (true, rest)
    | _ => (false, cs)
  let digits := body.takeWhile Text.isDecimalDigit
  if digits.isEmpty then none
  else
    let value : Int := Text.decimalNumber digits
    some (if negative then -value else value, digits.length,
      digits.length + (if negative then 1 else 0))

/-- The keyword or word a name is. -/
def wordKind (name : String) : TokenKind :=
  match name with
  | "new" => .newKeyword
  | "UiSelector" => .uiSelectorKeyword
  | "true" => .trueKeyword
  | "false" => .falseKeyword
  | _ => .word name

/-- The token at the front of the characters and its length, by the first rule
that matches. -/
def tokenAt? (cs : List Char) : Option (TokenKind × Nat) :=
  match cs with
  | '"' :: rest =>
    match quotedLength rest with
    | some n => some (.text (String.ofList (rest.take (n - 1))), n + 1)
    | none => none
  | '%' :: 's' :: _ => some (.placeholder "%s", 2)
  | '%' :: 'd' :: _ => some (.placeholder "%d", 2)
  | c :: rest =>
    match numberAt? cs with
    | some (value, digits, n) => some (.number value digits, n)
    | none =>
      if isWordStart c then
        let name := c :: rest.takeWhile isWordPart
        some (wordKind (String.ofList name), name.length)
      else if c == '(' then some (.openParen, 1)
      else if c == ')' then some (.closeParen, 1)
      else if c == '.' then some (.dot, 1)
      else none
  | [] => none

/-- The number of digits of a number token written with more than
`Decimal.digitLimit` of them. -/
def TokenKind.oversized? : TokenKind → Option Nat
  | .number _ digits => if Decimal.digitLimit < digits then some digits else none
  | _ => none

/-- Lexes from a position to the end, to the first character no rule reads or
to the first number too long to read. -/
def lexFrom (pos : Nat) (cs : List Char) : Lexed :=
  match cs with
  | [] => ⟨[], none⟩
  | c :: rest =>
    if isSkipped c then lexFrom (pos + 1) rest
    else
      match tokenAt? (c :: rest) with
      | some (kind, n) =>
        if _positive : 0 < n then
          match kind.oversized? with
          | some digits => ⟨[], some (.oversized digits)⟩
          | none =>
            let after := lexFrom (pos + Text.pointCount ((c :: rest).take n)) ((c :: rest).drop n)
            ⟨⟨kind, pos⟩ :: after.tokens, after.stop⟩
        else ⟨[], some (.illegal (String.ofList (Text.leadGlyph (c :: rest))) pos)⟩
      | none => ⟨[], some (.illegal (String.ofList (Text.leadGlyph (c :: rest))) pos)⟩
termination_by cs.length
decreasing_by
  all_goals simp_wf
  all_goals omega

/-- The tokens of a text. -/
def lex (text : String) : Lexed :=
  lexFrom 0 text.toList

end PageObjects.UiSelector
