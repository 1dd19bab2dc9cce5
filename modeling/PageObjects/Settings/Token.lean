import PageObjects.UiSelector.Token

/-!
# Settings-file tokens

The tokens of a settings file such as

```
compiler {
  max_predicate_depth: 4,
  namespace: "my-app"
}
```

Space, tab and carriage return between tokens are skipped. At each position
the first of these rules that matches gives the token:

1. a comment, `--` to the end of the line, which is dropped;
2. a quoted text, as in a UiSelector chain, valued by its raw inner text;
3. a number: an optional `-` and decimal digits of any script; lexing stops
   at a number of more than `Decimal.digitLimit` digits, which is not read;
4. a word of ASCII letters, digits and `_`, not starting with a digit;
   `compiler`, `true` and `false` are keywords;
5. a run of line feeds, which is dropped and advances the line count;
6. `:`, `,`, `{` or `}`.

Lines count from one, and only the line feeds of rule 5 advance them: a line
feed inside a quoted text does not. Lexing also stops at the first character no
rule reads.
-/

namespace PageObjects.Settings

/-- What a token is. -/
inductive TokenKind where
  | text (raw : String)
  | number (value : Int) (digits : Nat)
  | word (name : String)
  | compilerKeyword
  | trueKeyword
  | falseKeyword
  | colon
  | comma
  | openBrace
  | closeBrace
  deriving DecidableEq, Repr

/-- A token and the line it stands on. -/
structure Token where
  kind : TokenKind
  line : Nat
  deriving DecidableEq, Repr

/-- The value of a token as an error shows it. -/
def TokenKind.shown : TokenKind → String
  | .text raw => raw
  | .number value _ => Decimal.intText value
  | .word name => name
  | .compilerKeyword => "compiler"
  | .trueKeyword => "true"
  | .falseKeyword => "false"
  | .colon => ":"
  | .comma => ","
  | .openBrace => "\x7b"
  | .closeBrace => "\x7d"

/-- Why lexing stopped before the end of a text. -/
inductive Stop where
  /-- At a character no rule reads, given by its glyph, on a line. -/
  | illegal (glyph : String) (line : Nat)
  /-- At a number of this many digits, more than may be read. -/
  | oversized (digits : Nat)
  deriving DecidableEq, Repr

/-- The tokens read before lexing stopped, and why it stopped, if it stopped
before the end. -/
structure Lexed where
  tokens : List Token
  stop : Option Stop
  deriving Repr

/-- Whether a character is skipped between tokens. -/
def isSkipped (c : Char) : Bool := c == ' ' || c == '\t' || c == '\r'

/-- The keyword or word a name is. -/
def wordKind (name : String) : TokenKind :=
  match name with
  | "compiler" => .compilerKeyword
  | "true" => .trueKeyword
  | "false" => .falseKeyword
  | _ => .word name

/-- What the front of the characters is, by the first rule that matches: a
token, a dropped comment, or a run of line feeds, with its length. -/
inductive Piece where
  | token (kind : TokenKind)
  | comment
  | lineFeeds (count : Nat)

/-- The piece at the front of the characters and its length. -/
def pieceAt? (cs : List Char) : Option (Piece × Nat) :=
  match cs with
  | '-' :: '-' :: rest => some (.comment, 2 + (rest.takeWhile (· != '\n')).length)
  | '"' :: rest =>
    match UiSelector.quotedLength rest with
    | some n => some (.token (.text (String.ofList (rest.take (n - 1)))), n + 1)
    | none => none
  | c :: rest =>
    match UiSelector.numberAt? cs with
    | some (value, digits, n) => some (.token (.number value digits), n)
    | none =>
      if UiSelector.isWordStart c then
        let name := c :: rest.takeWhile UiSelector.isWordPart
        some (.token (wordKind (String.ofList name)), name.length)
      else if c == '\n' then
        let run := (c :: rest).takeWhile (· == '\n')
        some (.lineFeeds run.length, run.length)
      else if c == ':' then some (.token .colon, 1)
      else if c == ',' then some (.token .comma, 1)
      else if c == '{' then some (.token .openBrace, 1)
      else if c == '}' then some (.token .closeBrace, 1)
      else none
  | [] => none

/-- The number of digits of a number token written with more than
`Decimal.digitLimit` of them. -/
def TokenKind.oversized? : TokenKind → Option Nat
  | .number _ digits => if Decimal.digitLimit < digits then some digits else none
  | _ => none

/-- Lexes from a line to the end, to the first character no rule reads or to
the first number too long to read. -/
def lexFrom (line : Nat) (cs : List Char) : Lexed :=
  match cs with
  | [] => ⟨[], none⟩
  | c :: rest =>
    if isSkipped c then lexFrom line rest
    else
      match pieceAt? (c :: rest) with
      | some (piece, n) =>
        if _positive : 0 < n then
          match piece with
          | .token kind =>
            match kind.oversized? with
            | some digits => ⟨[], some (.oversized digits)⟩
            | none =>
              let after := lexFrom line ((c :: rest).drop n)
              ⟨⟨kind, line⟩ :: after.tokens, after.stop⟩
          | .comment => lexFrom line ((c :: rest).drop n)
          | .lineFeeds count => lexFrom (line + count) ((c :: rest).drop n)
        else ⟨[], some (.illegal (String.ofList (Text.leadGlyph (c :: rest))) line)⟩
      | none => ⟨[], some (.illegal (String.ofList (Text.leadGlyph (c :: rest))) line)⟩
termination_by cs.length
decreasing_by
  all_goals simp_wf
  all_goals omega

/-- The tokens of a settings text. -/
def lex (text : String) : Lexed :=
  lexFrom 1 text.toList

end PageObjects.Settings
