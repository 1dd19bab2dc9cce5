import PageObjects.Text.Printable
import PageObjects.Text.CodePoint

/-!
# Quoted text

Two quoted forms of a text.

* The JSON form, in double quotes, that keeps to printable ASCII: a quote and a
  backslash are escaped, five control characters have short escapes
  (`\n \r \t \b \f`), and every other character outside space to tilde is
  written `\uXXXX` in lower-case hexadecimal, as a surrogate pair above
  U+FFFF; a surrogate standing alone is written as itself.
* The literal form of a text as a value in a listing: in single quotes, or in
  double quotes when the text holds a single quote and no double quote. The
  chosen quote and the backslash are escaped, tab, line feed and carriage
  return have short escapes, other ASCII controls are written `\xHH`, and a
  non-ASCII character that is not printable is written `\xHH`, `\uHHHH` or
  `\UHHHHHHHH`, by its size, a surrogate standing alone as `\uHHHH`.

Both read the code points of the held text (see `Text.CodePoint`).
-/

namespace PageObjects.Text

/-- The lower-case hexadecimal digit of a value below sixteen. -/
def hexDigit (n : Nat) : Char :=
  if n < 10 then Char.ofNat (n + '0'.toNat) else Char.ofNat (n - 10 + 'a'.toNat)

/-- The lower-case hexadecimal digits of a number, padded with zeros to `width`. -/
def hexPadded (width n : Nat) : List Char :=
  let digits := (Nat.toDigits 16 n).map (fun c => hexDigit (hexDigitOf c))
  List.replicate (width - digits.length) '0' ++ digits
where
  /-- Reads back one digit of `Nat.toDigits`. -/
  hexDigitOf (c : Char) : Nat :=
    if c.toNat ≤ '9'.toNat then c.toNat - '0'.toNat else c.toNat - 'a'.toNat + 10

/-- A `\uXXXX` escape of a UTF-16 code unit. -/
def unitEscape (unit : Nat) : List Char :=
  '\\' :: 'u' :: hexPadded 4 unit

/-- The JSON escape of one code point. -/
def jsonEscape (n : Nat) : List Char :=
  if n == '"'.toNat then ['\\', '"']
  else if n == '\\'.toNat then ['\\', '\\']
  else if n == '\n'.toNat then ['\\', 'n']
  else if n == '\r'.toNat then ['\\', 'r']
  else if n == '\t'.toNat then ['\\', 't']
  else if n == 0x08 then ['\\', 'b']
  else if n == 0x0c then ['\\', 'f']
  else if 0x20 ≤ n ∧ n ≤ 0x7e then [Char.ofNat n]
  else if n < 0x10000 then unitEscape n
  else
    let m := n - 0x10000
    unitEscape (0xd800 + m / 0x400) ++ unitEscape (0xdc00 + m % 0x400)

/-- The JSON form of a text, in double quotes and printable ASCII. -/
def jsonQuote (s : String) : String :=
  String.ofList ('"' :: ((points s.toList).flatMap jsonEscape ++ ['"']))

/-- The quote a literal uses: the double quote when the text holds a single
quote and no double quote, the single quote otherwise. -/
def literalQuote (s : String) : Char :=
  if s.toList.contains '\'' && !s.toList.contains '"' then '"' else '\''

/-- The literal escape of one code point inside the quote `q`. -/
def literalEscape (q : Char) (n : Nat) : List Char :=
  let c := Char.ofNat n
  if n == q.toNat || n == '\\'.toNat then ['\\', c]
  else if n == '\t'.toNat then ['\\', 't']
  else if n == '\n'.toNat then ['\\', 'n']
  else if n == '\r'.toNat then ['\\', 'r']
  else if n < 0x20 || n == 0x7f then '\\' :: 'x' :: hexPadded 2 n
  else if n < 0x7f then [c]
  else if isSurrogate n then '\\' :: 'u' :: hexPadded 4 n
  else if isPrintable c then [c]
  else if n ≤ 0xff then '\\' :: 'x' :: hexPadded 2 n
  else if n ≤ 0xffff then '\\' :: 'u' :: hexPadded 4 n
  else '\\' :: 'U' :: hexPadded 8 n

/-- The literal form of a text, quoted for a listing. -/
def literal (s : String) : String :=
  let q := literalQuote s
  String.ofList (q :: ((points s.toList).flatMap (literalEscape q) ++ [q]))

end PageObjects.Text
