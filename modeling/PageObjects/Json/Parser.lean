import PageObjects.Json.Basic
import PageObjects.Text.CodeRanges
import PageObjects.Text.CodePoint
import PageObjects.Decimal.Text

/-!
# Reading JSON text

Reads a JSON document: blanks are space, tab, line feed and carriage return;
numbers without a fraction or an exponent are integers of any size, the others
the nearest binary64 value; `NaN`, `Infinity` and `-Infinity` are read as
numbers too. A text escape `\uXXXX` names a UTF-16 unit, and a high surrogate
followed by a low one names the character they encode; a surrogate standing
alone is part of the text too. The text is held as `Text.CodePoint` says,
and read from its held form, so offsets count code points.

A failure names what was expected and the offset, in characters, where reading
stopped; an integer of more than `Decimal.digitLimit` digits, and an array or
object inside `nestingLimit` others, stop reading where they stand. A
document may not start with a byte order mark, and a `\uXXXX` escape must be
followed by at least one more character, as the text cannot end inside a
string. Nesting is bounded by fuel that the entry point computes from the
length of the text, enough for every document that length can hold.
-/

namespace PageObjects.Json

/-- Why a text is not read as a JSON document. -/
inductive ReadError where
  /-- The text breaks the syntax: what was expected, and the offset where
  reading stopped. -/
  | malformed (message : String) (offset : Nat)
  /-- An integer has more digits than may be read. -/
  | oversizedNumber (digits : Nat)
  /-- Arrays and objects nest deeper than `nestingLimit`. -/
  | tooDeep
  deriving Repr

/-- The most arrays and objects a value may stand inside, itself included. -/
def nestingLimit : Nat := 991

/-- What a reader returns: a value, the offset after it, and the rest. -/
abbrev Reading (α : Type) := Except ReadError (α × Nat × List Char)

/-- Whether a character is a JSON blank. -/
def isJsonBlank (c : Char) : Bool :=
  c == ' ' || c == '\t' || c == '\n' || c == '\r'

/-- Skips blanks, counting the offset. -/
def skipBlanks : Nat → List Char → Nat × List Char
  | pos, c :: rest => if isJsonBlank c then skipBlanks (pos + 1) rest else (pos, c :: rest)
  | pos, [] => (pos, [])

/-- Whether a character is an ASCII digit. -/
def isDigit (c : Char) : Bool := '0' ≤ c ∧ c ≤ '9'

/-- Whether a character is a hexadecimal digit. -/
def isHexDigit (c : Char) : Bool :=
  isDigit c || ('a' ≤ c ∧ c ≤ 'f') || ('A' ≤ c ∧ c ≤ 'F')

/-- The UTF-16 unit written by four hexadecimal digits. -/
def hexUnit? (a b c d : Char) : Option Nat :=
  if isHexDigit a && isHexDigit b && isHexDigit c && isHexDigit d then
    some (Text.hexValue (String.ofList [a, b, c, d]))
  else none


/-- The character a short escape stands for. -/
def shortEscape? (c : Char) : Option Char :=
  match c with
  | '"' => some '"'
  | '\\' => some '\\'
  | '/' => some '/'
  | 'b' => some (Char.ofNat 0x08)
  | 'f' => some (Char.ofNat 0x0c)
  | 'n' => some '\n'
  | 'r' => some '\r'
  | 't' => some '\t'
  | _ => none

/-- Reads the rest of a text after its opening quote at `start`; `acc` holds
the glyphs read so far, reversed. -/
def readText (start : Nat) : Nat → List (List Char) → List Char → Reading String
  | _, _, [] => .error (.malformed "Unterminated string starting at" start)
  | pos, acc, '"' :: rest => .ok (String.ofList acc.reverse.flatten, pos + 1, rest)
  | pos, acc, '\\' :: 'u' :: a :: b :: c :: d :: '\\' :: 'u' :: e :: f :: g :: h :: x :: afterLow =>
    match hexUnit? a b c d, hexUnit? e f g h with
    | some high, some low =>
      if 0xd800 ≤ high ∧ high < 0xdc00 ∧ 0xdc00 ≤ low ∧ low < 0xe000 then
        let point := 0x10000 + (high - 0xd800) * 0x400 + (low - 0xdc00)
        readText start (pos + 12) (Text.held point :: acc) (x :: afterLow)
      else
        readText start (pos + 6) (Text.held high :: acc)
          ('\\' :: 'u' :: e :: f :: g :: h :: x :: afterLow)
    | some high, none =>
      readText start (pos + 6) (Text.held high :: acc)
        ('\\' :: 'u' :: e :: f :: g :: h :: x :: afterLow)
    | none, _ => .error (.malformed "Invalid \\uXXXX escape" (pos + 1))
  | pos, acc, '\\' :: 'u' :: a :: b :: c :: d :: x :: afterUnit =>
    match hexUnit? a b c d with
    | none => .error (.malformed "Invalid \\uXXXX escape" (pos + 1))
    | some unit => readText start (pos + 6) (Text.held unit :: acc) (x :: afterUnit)
  | pos, _, '\\' :: 'u' :: _ => .error (.malformed "Invalid \\uXXXX escape" (pos + 1))
  | _, _, ['\\'] => .error (.malformed "Unterminated string starting at" start)
  | pos, acc, '\\' :: e :: afterEscape =>
    match shortEscape? e with
    | some ch => readText start (pos + 2) ([ch] :: acc) afterEscape
    | none => .error (.malformed "Invalid \\escape" pos)
  | pos, acc, c :: rest =>
    if c.toNat < 0x20 then .error (.malformed "Invalid control character at" pos)
    else
      -- the glyph of one code point is copied whole
      let more := if c == Text.mark then 1 else 0
      readText start (pos + 1) ((c :: rest.take more) :: acc) (rest.drop more)
termination_by _ _ cs => cs.length

/-- Splits off the leading ASCII digits. -/
def spanDigits (cs : List Char) : List Char × List Char :=
  (cs.takeWhile isDigit, cs.dropWhile isDigit)

/-- The number written by ASCII digits. -/
def digitsValue (ds : List Char) : Nat :=
  ds.foldl (fun acc d => acc * 10 + (d.toNat - '0'.toNat)) 0

/-- Reads a number whose optional minus sign has been taken off; `pos` is the
offset of the first digit, `start` that of the whole number. -/
def readUnsigned (negative : Bool) (start pos : Nat) (cs : List Char) : Reading Json :=
  match cs with
  | [] => .error (.malformed "Expecting value" start)
  | first :: _ =>
    if !isDigit first then .error (.malformed "Expecting value" start)
    else
      let (whole, afterWhole) :=
        if first == '0' then (['0'], cs.drop 1) else spanDigits cs
      let (fraction, afterFraction) :=
        match afterWhole with
        | '.' :: more =>
          let (ds, rest) := spanDigits more
          if ds.isEmpty then ([], afterWhole) else (ds, rest)
        | _ => ([], afterWhole)
      let hasFraction := !fraction.isEmpty
      let (exponent, hasExponent, afterExponent) :=
        match afterFraction with
        | e :: more =>
          if e == 'e' || e == 'E' then
            let (sign, digitsPart) :=
              match more with
              | '+' :: ds => ((1 : Int), ds)
              | '-' :: ds => ((-1 : Int), ds)
              | _ => ((1 : Int), more)
            let (ds, rest) := spanDigits digitsPart
            if ds.isEmpty then ((0 : Int), false, afterFraction)
            else (sign * (digitsValue ds : Int), true, rest)
          else ((0 : Int), false, afterFraction)
        | [] => ((0 : Int), false, afterFraction)
      let used := cs.length - afterExponent.length
      let next := pos + used
      if !hasFraction && !hasExponent then
        if Decimal.digitLimit < whole.length then .error (.oversizedNumber whole.length)
        else
          let n : Int := digitsValue whole
          .ok (.int (if negative then -n else n), next, afterExponent)
      else
        let mantissa := digitsValue (whole ++ fraction)
        let scale : Int := exponent - (fraction.length : Int)
        .ok (.float (Decimal.Binary64.ofDecimal negative mantissa scale), next, afterExponent)

/-- Whether the characters start with a word, and what follows it. -/
def afterWord? (word : List Char) (cs : List Char) : Option (List Char) :=
  if word.isPrefixOf cs then some (cs.drop word.length) else none

mutual

/-- Reads one value at `pos`, blanks already skipped, inside `depth` arrays
and objects. -/
def readValue : Nat → Nat → Nat → List Char → Reading Json
  | 0, _, pos, _ => .error (.malformed "Expecting value" pos)
  | fuel + 1, depth, pos, cs =>
    match cs with
    | '"' :: rest =>
      match readText pos (pos + 1) [] rest with
      | .ok (s, next, more) => .ok (.str s, next, more)
      | .error e => .error e
    | '{' :: rest =>
      if nestingLimit ≤ depth then .error .tooDeep else
      let (p, more) := skipBlanks (pos + 1) rest
      match more with
      | '}' :: after => .ok (.obj [], p + 1, after)
      | _ => readFields fuel (depth + 1) [] p more
    | '[' :: rest =>
      if nestingLimit ≤ depth then .error .tooDeep else
      let (p, more) := skipBlanks (pos + 1) rest
      match more with
      | ']' :: after => .ok (.arr [], p + 1, after)
      | _ => readItems fuel (depth + 1) [] p more
    | _ =>
      match afterWord? "null".toList cs with
      | some rest => .ok (.null, pos + 4, rest)
      | none =>
      match afterWord? "true".toList cs with
      | some rest => .ok (.bool true, pos + 4, rest)
      | none =>
      match afterWord? "false".toList cs with
      | some rest => .ok (.bool false, pos + 5, rest)
      | none =>
      match afterWord? "NaN".toList cs with
      | some rest => .ok (.float .nan, pos + 3, rest)
      | none =>
      match afterWord? "Infinity".toList cs with
      | some rest => .ok (.float (.infinite false), pos + 8, rest)
      | none =>
      match afterWord? "-Infinity".toList cs with
      | some rest => .ok (.float (.infinite true), pos + 9, rest)
      | none =>
      match cs with
      | '-' :: rest => readUnsigned true pos (pos + 1) rest
      | _ => readUnsigned false pos pos cs

/-- Reads the items of an array after its first blank-free position, the
array being the `depth`-th open one; `acc` holds the items read so far,
reversed. -/
def readItems : Nat → Nat → List Json → Nat → List Char → Reading Json
  | 0, _, _, pos, _ => .error (.malformed "Expecting value" pos)
  | fuel + 1, depth, acc, pos, cs =>
    match readValue fuel depth pos cs with
    | .error e => .error e
    | .ok (item, next, rest) =>
      let (p, more) := skipBlanks next rest
      match more with
      | ']' :: after => .ok (.arr (item :: acc).reverse, p + 1, after)
      | ',' :: after =>
        let (q, again) := skipBlanks (p + 1) after
        readItems fuel depth (item :: acc) q again
      | _ => .error (.malformed "Expecting ',' delimiter" p)

/-- Reads the fields of an object from a position where a key must start, the
object being the `depth`-th open one; `acc` holds the pairs read so far,
reversed. -/
def readFields : Nat → Nat → List (String × Json) → Nat → List Char → Reading Json
  | 0, _, _, pos, _ => .error (.malformed "Expecting value" pos)
  | fuel + 1, depth, acc, pos, cs =>
    match cs with
    | '"' :: rest =>
      match readText pos (pos + 1) [] rest with
      | .error e => .error e
      | .ok (key, next, afterKey) =>
        let (p, more) := skipBlanks next afterKey
        match more with
        | ':' :: afterColon =>
          let (q, valueText) := skipBlanks (p + 1) afterColon
          match readValue fuel depth q valueText with
          | .error e => .error e
          | .ok (value, afterValue, rest') =>
            let (r, tail) := skipBlanks afterValue rest'
            match tail with
            | '}' :: after => .ok (.obj (fieldsOfPairs ((key, value) :: acc).reverse), r + 1, after)
            | ',' :: after =>
              let (s, again) := skipBlanks (r + 1) after
              readFields fuel depth ((key, value) :: acc) s again
            | _ => .error (.malformed "Expecting ',' delimiter" r)
        | _ => .error (.malformed "Expecting ':' delimiter" p)
    | _ => .error (.malformed "Expecting property name enclosed in double quotes" pos)

end

/-- The byte order mark, which a document may not start with. -/
def byteOrderMark : Char := '\ufeff'

/-- Reads a whole JSON document, blanks allowed around the value. -/
def parse (text : String) : Except ReadError Json :=
  let cs := text.toList
  if cs.head? == some byteOrderMark then
    .error (.malformed "Unexpected UTF-8 BOM (decode using utf-8-sig)" 0)
  else
  let (pos, start) := skipBlanks 0 cs
  match readValue (2 * cs.length + 2) 0 pos start with
  | .error e => .error e
  | .ok (value, next, rest) =>
    let (p, tail) := skipBlanks next rest
    if tail.isEmpty then .ok value else .error (.malformed "Extra data" p)

/-- The line (from one) and column (from one) of an offset in a text, as a
reader of JSON reports them. -/
def lineColumn (text : String) (offset : Nat) : Nat × Nat :=
  let before := (Text.points text.toList).take offset
  let line := before.count '\n'.toNat + 1
  let column := offset - (match before.reverse.findIdx? (· == '\n'.toNat) with
    | some k => offset - k - 1
    | none => 0)
  (line, if before.contains '\n'.toNat then column else offset + 1)

/-- The text of a reading failure, with its line, column and offset when the
syntax is broken. -/
def ReadError.describe (text : String) : ReadError → String
  | .malformed message offset =>
    let (line, column) := lineColumn text offset
    s!"{message}: line {line} column {column} (char {offset})"
  | .oversizedNumber digits => Decimal.digitLimitMessage digits
  | .tooDeep => "maximum recursion depth exceeded"

end PageObjects.Json
