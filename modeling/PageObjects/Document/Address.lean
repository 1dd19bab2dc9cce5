import PageObjects.Text.CodeRanges

/-!
# Internet addresses written as text

An IPv4 address is four decimal octets joined by dots. Each octet has one to
three ASCII digits, no leading zero unless it is `0`, and a value of at most
255.

An IPv6 address is eight groups of one to four hexadecimal digits joined by
colons, with these additions:

* One run of zero groups may be left out as `::`. It must stand for at least
  one group, and a colon at either end belongs to it.
* The last two groups may be written as an IPv4 address.
* A zone may follow the first `%`. It must be non-empty and hold no further
  `%`. The address before it has at most 45 characters.

`parseIPv4?` gives the octets and `parseIPv6?` the eight groups of an
address, or `none` when the text is not one.
-/

namespace PageObjects.Document

/-- The value of a decimal octet: one to three ASCII digits, without a leading
zero unless the octet is `0`, and at most 255. -/
def octet? (cs : List Char) : Option Nat :=
  if cs.isEmpty || cs.length > 3 || !cs.all Char.isDigit then none
  else if cs.head? == some '0' && cs.length > 1 then none
  else
    let value := cs.foldl (fun n c => n * 10 + (c.toNat - '0'.toNat)) 0
    if value ≤ 255 then some value else none

/-- The four octets of a dotted IPv4 address. -/
def parseIPv4? (cs : List Char) : Option (List Nat) :=
  let parts := cs.splitOn '.'
  if parts.length == 4 then parts.mapM octet? else none

/-- The value of a group of one to four hexadecimal digits. -/
def group? (cs : List Char) : Option Nat :=
  if cs.isEmpty || cs.length > 4 then none
  else cs.foldlM (fun n c => (Text.hexDigit? c).map (n * 16 + ·)) 0

/-- The colon-separated parts of an IPv6 address, with a dotted IPv4 tail
written as two hexadecimal groups. -/
def ipv6Parts (address : List Char) : Option (List (List Char)) :=
  let parts := address.splitOn ':'
  match parts.getLast? with
  | some last =>
    if last.contains '.' then
      (parseIPv4? last).map fun octets =>
        let value := octets.foldl (fun n o => n * 256 + o) 0
        parts.dropLast ++ [Nat.toDigits 16 (value / 65536), Nat.toDigits 16 (value % 65536)]
    else some parts
  | none => some parts

/-- The positions of the empty parts strictly between the first and the last. -/
def innerGaps (parts : List (List Char)) : List Nat :=
  (((parts.drop 1).dropLast.zipIdx 1).filter (·.1.isEmpty)).map (·.2)

/-- The eight groups of IPv6 parts with one gap at a position: the groups
before and after it, and the zero groups it stands for. -/
def expandGap (parts : List (List Char)) (gap : Nat) : Option (List Nat) := do
  let before ← if parts.head? == some [] then (if gap == 1 then some 0 else none) else some gap
  let after ← if parts.getLast? == some [] then
      (if parts.length - gap - 1 == 1 then some 0 else none)
    else some (parts.length - gap - 1)
  if before + after ≥ 8 then none
  let high ← (parts.take before).mapM group?
  let low ← (parts.drop (parts.length - after)).mapM group?
  pure (high ++ List.replicate (8 - (before + after)) 0 ++ low)

/-- The eight groups of an IPv6 address without its zone. -/
def ipv6Groups? (address : List Char) : Option (List Nat) := do
  if address.isEmpty || address.length > 45 then none
  if (address.splitOn ':').length < 3 then none
  let parts ← ipv6Parts address
  if parts.length > 9 then none
  match innerGaps parts with
  | [] => if parts.length == 8 then parts.mapM group? else none
  | [gap] => expandGap parts gap
  | _ => none

/-- The eight groups of an IPv6 address, after checking its zone if it has one. -/
def parseIPv6? (cs : List Char) : Option (List Nat) :=
  let address := cs.takeWhile (· != '%')
  match cs.dropWhile (· != '%') with
  | [] => ipv6Groups? address
  | _ :: zone =>
    if zone.isEmpty || zone.contains '%' then none else ipv6Groups? address

end PageObjects.Document
