/-!
# Reading UTF-8

Bytes are read as UTF-8 text where an ill-formed stretch becomes one
replacement character per maximal subpart: the longest run that starts a
well-formed sequence but does not complete it, or a single byte that starts
none. A lead byte fixes the sequence's length and the range of its second
byte; every later byte lies in `0x80 … 0xBF`.
-/

namespace PageObjects.Text

/-- The character that stands for an ill-formed stretch of bytes. -/
def replacementChar : Char := Char.ofNat 0xFFFD

/-- Whether a byte continues a sequence. -/
def isContinuation (b : Nat) : Bool := 0x80 ≤ b && b < 0xC0

/-- The length of the sequence a lead byte starts, with the least and the
greatest second byte it admits. -/
def leadShape (b : Nat) : Option (Nat × Nat × Nat) :=
  if 0xC2 ≤ b && b ≤ 0xDF then some (2, 0x80, 0xBF)
  else if b == 0xE0 then some (3, 0xA0, 0xBF)
  else if b == 0xED then some (3, 0x80, 0x9F)
  else if 0xE1 ≤ b && b ≤ 0xEF then some (3, 0x80, 0xBF)
  else if b == 0xF0 then some (4, 0x90, 0xBF)
  else if 0xF1 ≤ b && b ≤ 0xF3 then some (4, 0x80, 0xBF)
  else if b == 0xF4 then some (4, 0x80, 0x8F)
  else none

/-- The character at the start of a byte list and the number of bytes it
takes, at least one. -/
def sequenceAt : List Nat → Char × Nat
  | [] => (replacementChar, 1)
  | b :: rest =>
    if b < 0x80 then (Char.ofNat b, 1)
    else
      match leadShape b, rest with
      | some (length, least, greatest), c :: more =>
        if least ≤ c && c ≤ greatest then
          if length == 2 then (Char.ofNat ((b % 32) * 64 + c % 64), 2)
          else
            match more with
            | d :: more2 =>
              if !isContinuation d then (replacementChar, 2)
              else if length == 3 then
                (Char.ofNat ((b % 16) * 4096 + (c % 64) * 64 + d % 64), 3)
              else
                match more2 with
                | e :: _ =>
                  if isContinuation e then
                    (Char.ofNat ((b % 8) * 262144 + (c % 64) * 4096 + (d % 64) * 64 + e % 64), 4)
                  else (replacementChar, 3)
                | [] => (replacementChar, 3)
            | [] => (replacementChar, 2)
        else (replacementChar, 1)
      | _, _ => (replacementChar, 1)

/-- The text that bytes spell in UTF-8. -/
def decodeUtf8 : List Nat → List Char
  | [] => []
  | b :: rest =>
    let (c, taken) := sequenceAt (b :: rest)
    if _positive : 0 < taken then c :: decodeUtf8 ((b :: rest).drop taken)
    else c :: decodeUtf8 rest
termination_by bytes => bytes.length
decreasing_by
  all_goals simp_wf
  all_goals omega

/-- The UTF-8 bytes of a character. -/
def encodeUtf8 (c : Char) : List Nat :=
  let n := c.toNat
  if n < 0x80 then [n]
  else if n < 0x800 then [0xC0 + n / 64, 0x80 + n % 64]
  else if n < 0x10000 then [0xE0 + n / 4096, 0x80 + (n / 64) % 64, 0x80 + n % 64]
  else [0xF0 + n / 262144, 0x80 + (n / 4096) % 64, 0x80 + (n / 64) % 64, 0x80 + n % 64]

end PageObjects.Text
