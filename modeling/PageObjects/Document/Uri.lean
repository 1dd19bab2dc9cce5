import PageObjects.Text.Utf8
import PageObjects.Text.CodeRanges
import PageObjects.Text.Quoted
import PageObjects.Document.Address

/-!
# The path of a URI

A URI is split as the generic syntax says: leading control characters and
spaces are dropped and tabs and line breaks removed; a scheme is the text
before the first colon when it starts with a letter and holds only letters,
digits, `+`, `-` and `.`; an authority follows `//` up to the next `/`, `?` or
`#`; a fragment follows the first `#` and a query the first `?`. For schemes
that carry parameters, the path ends at the first `;` of its last segment.

An authority with square brackets names its host inside them: nothing may
stand before the opening bracket but user information ending in `@`, and
only a port after a colon may follow the closing one. The bracketed host is
either a future address (`v`, hexadecimal digits, a dot and at least one more
character) or an IPv6 address; an IPv4 address there is refused. Nor may an
authority hold a character whose compatibility form holds `/ ? # @ :`, as
such a host would change its meaning once normalized.

The path is then percent-decoded: within each run of ASCII characters, `%`
and two hexadecimal digits stand for a byte, and the bytes are read as UTF-8.
-/

namespace PageObjects.Document

/-- Why a URI cannot be split. -/
inductive UriError where
  /-- An authority holds one square bracket without its partner. -/
  | unbalancedBracket
  /-- Text stands before the opening bracket, or after the closing one but
  before the port. -/
  | misplacedBracket
  /-- A bracketed host starting with a lower-case v is not a future address. -/
  | invalidFuture
  /-- A bracketed host is an IPv4 address. -/
  | bracketedIPv4
  /-- A bracketed host is no address at all. -/
  | notAnAddress (host : String)
  /-- An authority holds a character whose compatibility form is a delimiter. -/
  | delimiterLookalike (authority : String)
  deriving DecidableEq, Repr

/-- The text of a URI error. -/
def UriError.message : UriError → String
  | .unbalancedBracket | .misplacedBracket => "Invalid IPv6 URL"
  | .invalidFuture => "IPvFuture address is invalid"
  | .bracketedIPv4 => "An IPv4 address cannot be in brackets"
  | .notAnAddress host => Text.literal host ++ " does not appear to be an IPv4 or IPv6 address"
  | .delimiterLookalike authority =>
    "netloc '" ++ authority ++ "' contains invalid characters under NFKC normalization"

/-- Whether a character may stand in a scheme. -/
def isSchemeChar (c : Char) : Bool :=
  (c.isAlpha || c.isDigit || c == '+' || c == '-' || c == '.') && c.toNat < 128

/-- The schemes whose paths carry parameters after a `;`. -/
def parameterSchemes : List String :=
  ["", "ftp", "hdl", "prospero", "http", "imap", "https", "shttp", "rtsp", "rtspu",
    "sip", "sips", "mms", "sftp", "tel"]

/-- The ASCII lower case of a character. -/
def asciiLower (c : Char) : Char :=
  if 'A' ≤ c && c ≤ 'Z' then Char.ofNat (c.toNat + 32) else c

/-- The scheme of a URI and the rest after its colon, if it has one. -/
def splitScheme (cs : List Char) : Option (List Char × List Char) :=
  match cs.idxOf? ':' with
  | some i =>
    let name := cs.take i
    match name with
    | first :: _ =>
      if first.isAlpha && name.all isSchemeChar then some (name.map asciiLower, cs.drop (i + 1))
      else none
    | [] => none
  | none => none

/-- The characters before the first of some delimiters, and the rest. -/
def splitAtAny (delimiters : List Char) (cs : List Char) : List Char × List Char :=
  (cs.takeWhile (fun c => !delimiters.contains c), cs.dropWhile (fun c => !delimiters.contains c))

/-- The index of the first `;` of the last segment of a path, if any. -/
def parameterStart (path : List Char) : Option Nat :=
  let segmentStart := match path.reverse.idxOf? '/' with
    | some k => path.length - 1 - k
    | none => 0
  ((path.drop segmentStart).idxOf? ';').map (· + segmentStart)

/-- Whether a bracketed host is well formed: a future address after
a lower-case v, else an IPv6 address. -/
def checkBracketedHost (host : List Char) : Except UriError Unit :=
  match host with
  | 'v' :: rest =>
    let isHex := fun c => (Text.hexDigit? c).isSome
    match rest.dropWhile isHex with
    | '.' :: _ :: _ => if rest.head?.any isHex then pure () else throw .invalidFuture
    | _ => throw .invalidFuture
  | _ =>
    if (parseIPv4? host).isSome then throw .bracketedIPv4
    else if (parseIPv6? host).isSome then pure ()
    else throw (.notAnAddress (String.ofList host))

/-- Whether the brackets of an authority enclose its whole host. The host
and port follow the last `@`; when no bracket opens there, the host runs to
the first colon and is checked all the same. -/
def checkBracketedAuthority (authority : List Char) : Except UriError Unit :=
  let hostPort := (authority.reverse.takeWhile (· != '@')).reverse
  match splitAtAny ['['] hostPort with
  | ([], _ :: bracketed) =>
    let (host, closing) := splitAtAny [']'] bracketed
    match closing.drop 1 with
    | [] => checkBracketedHost host
    | c :: _ => if c == ':' then checkBracketedHost host else throw .misplacedBracket
  | (_ :: _, _ :: _) => throw .misplacedBracket
  | (_, []) => checkBracketedHost (hostPort.takeWhile (· != ':'))

/-- Characters whose compatibility decomposition holds one of `/ ? # @ :`
(Unicode 14.0). -/
def delimiterLookalikes : List Char :=
  ['\u2047', '\u2048', '\u2049', '\u2100', '\u2101', '\u2105', '\u2106', '\u2a74',
    '\ufe13', '\ufe16', '\ufe55', '\ufe56', '\ufe5f', '\ufe6b',
    '\uff03', '\uff0f', '\uff1a', '\uff1f', '\uff20']

/-- Whether an authority is well formed: balanced brackets around its whole
host, and no character that normalizes to a delimiter. -/
def checkAuthority (authority : List Char) : Except UriError Unit := do
  if authority.contains '[' != authority.contains ']' then throw .unbalancedBracket
  if authority.contains '[' then checkBracketedAuthority authority
  if authority.any delimiterLookalikes.contains then
    throw (.delimiterLookalike (String.ofList authority))

/-- The path component of a URI. -/
def uriPath (uri : String) : Except UriError (List Char) := do
  let cs := uri.toList.dropWhile (fun c => c.toNat ≤ 32)
  let cs := cs.filter (fun c => c != '\t' && c != '\r' && c != '\n')
  let (scheme, rest) := match splitScheme cs with
    | some (scheme, rest) => (scheme, rest)
    | none => ([], cs)
  let rest ← match rest with
    | '/' :: '/' :: more =>
      let (authority, after) := splitAtAny ['/', '?', '#'] more
      checkAuthority authority
      pure after
    | _ => pure rest
  let path := rest.takeWhile (· != '#')
  let path := path.takeWhile (· != '?')
  if parameterSchemes.contains (String.ofList scheme) then
    match parameterStart path with
    | some i => pure (path.take i)
    | none => pure path
  else pure path

/-- The bytes of an ASCII run with its percent escapes read. -/
def unescapeBytes : List Char → List Nat
  | [] => []
  | '%' :: a :: b :: rest =>
    match Text.hexDigit? a, Text.hexDigit? b with
    | some high, some low => (high * 16 + low) :: unescapeBytes rest
    | _, _ => '%'.toNat :: unescapeBytes (a :: b :: rest)
  | c :: rest => c.toNat :: unescapeBytes rest

/-- Percent-decoded held text: each maximal ASCII run is unescaped, read as
UTF-8 and held; other characters stay. -/
def percentDecode (cs : List Char) : List Char :=
  match cs with
  | [] => []
  | c :: rest =>
    if c.toNat < 128 then
      let run := (c :: rest).takeWhile (·.toNat < 128)
      (Text.decodeUtf8 (unescapeBytes run)).flatMap (fun d => Text.held d.toNat) ++
        percentDecode ((c :: rest).drop run.length)
    else c :: percentDecode rest
termination_by cs.length
decreasing_by
  all_goals simp_wf
  all_goals
    have h : 0 < ((c :: rest).takeWhile (·.toNat < 128)).length := by
      simp [*]
    omega

end PageObjects.Document
