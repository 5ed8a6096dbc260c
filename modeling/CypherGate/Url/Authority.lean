import CypherGate.Text.Blank
import CypherGate.Text.Quoted
import CypherGate.Url.Address
/-!
# Scheme and authority of a URL

Blanks and controls in front of a URL and all tabs and line breaks in it do not count. The authority
stands between two slashes and the next slash, question mark or number sign. Brackets enclose the
whole host, between user information and port; a host in brackets must be an IPv6 address or one of a
later version, and no character of the authority may turn into a delimiter under compatibility
normalization.
-/
namespace CypherGate

structure Url where
  scheme : List Char
  authority : List Char
  deriving DecidableEq, Repr

namespace Url

inductive Defect where
  | misplacedBrackets
  | laterVersion
  | bracketedIPv4
  | notAddress (host : List Char)
  | delimiterInDisguise (authority : List Char)
  deriving DecidableEq, Repr

def Defect.message : Defect → String
  | .misplacedBrackets => "Invalid IPv6 URL"
  | .laterVersion => "IPvFuture address is invalid"
  | .bracketedIPv4 => "An IPv4 address cannot be in brackets"
  | .notAddress host =>
    String.ofList (Text.quoted host) ++ " does not appear to be an IPv4 or IPv6 address"
  | .delimiterInDisguise authority =>
    "netloc '" ++ String.ofList authority ++ "' contains invalid characters under NFKC normalization"

def isAsciiLetter (c : Char) : Bool := ('a' ≤ c && c ≤ 'z') || ('A' ≤ c && c ≤ 'Z')

def isSchemeChar (c : Char) : Bool :=
  isAsciiLetter c || ('0' ≤ c && c ≤ '9') || c == '+' || c == '-' || c == '.'

def clean (s : List Char) : List Char :=
  (s.dropWhile fun c => c.toNat ≤ 0x20).filter fun c => c != '\t' && c != '\r' && c != '\n'

def splitScheme (s : List Char) : List Char × List Char :=
  match Text.cut? ':' s with
  | none => ([], s)
  | some (scheme, rest) =>
    if scheme.head?.any isAsciiLetter && scheme.all isSchemeChar then
      (scheme.map Char.toLower, rest)
    else ([], s)

def takeAuthority : List Char → List Char
  | '/' :: '/' :: rest => rest.takeWhile fun c => c != '/' && c != '?' && c != '#'
  | _ => []

def isLaterVersion (host : List Char) : Bool :=
  match host with
  | 'v' :: rest =>
    match Text.splitBefore (!isHexDigit ·) rest with
    | ([], _) => false
    | (_, '.' :: _ :: _) => true
    | _ => false
  | _ => false

def hostDefect? (host : List Char) : Option Defect :=
  if host.head? = some 'v' then if isLaterVersion host then none else some .laterVersion
  else if isIPv4 host then some .bracketedIPv4
  else if isIPv6 host then none
  else some (.notAddress host)

/-- The authority without user information: what follows the last at sign. -/
def place (authority : List Char) : List Char :=
  (authority.reverse.takeWhile (· != '@')).reverse

def userInformation (authority : List Char) : List Char :=
  ((authority.reverse.dropWhile (· != '@')).drop 1).reverse

/-- A place has brackets around the whole host, and at most a port behind them. A host that has none
although the authority has brackets is no address. -/
def placeDefect? (place : List Char) : Option Defect :=
  match Text.cut? '[' place with
  | none => hostDefect? (place.takeWhile (· != ':'))
  | some (_ :: _, _) => some .misplacedBrackets
  | some ([], bracketed) =>
    let (host, behind) := Text.splitBefore (· == ']') bracketed
    match behind with
    | _ :: c :: _ => if c = ':' then hostDefect? host else some .misplacedBrackets
    | _ => hostDefect? host

def bracketDefect? (authority : List Char) : Option Defect :=
  match authority.contains '[', authority.contains ']' with
  | false, false => none
  | true, true => placeDefect? (place authority)
  | _, _ => some .misplacedBrackets

/-- Characters whose compatibility normalization has a delimiter of authorities in it. -/
def disguised : List Nat :=
  [0x2047, 0x2048, 0x2049, 0x2100, 0x2101, 0x2105, 0x2106, 0x2A74, 0xFE13, 0xFE16, 0xFE55, 0xFE56,
    0xFE5F, 0xFE6B, 0xFF03, 0xFF0F, 0xFF1A, 0xFF1F, 0xFF20]

def disguiseDefect? (authority : List Char) : Option Defect :=
  if authority.any fun c => disguised.contains c.toNat then some (.delimiterInDisguise authority)
  else none

def split (s : String) : Except Defect Url :=
  let (scheme, rest) := splitScheme (clean s.toList)
  let authority := takeAuthority rest
  match bracketDefect? authority <|> disguiseDefect? authority with
  | some defect => .error defect
  | none => .ok ⟨scheme, authority⟩

def host (u : Url) : List Char :=
  match place u.authority with
  | '[' :: rest => rest.takeWhile (· != ']')
  | s => s.takeWhile (· != ':')

def username (u : Url) : List Char := (userInformation u.authority).takeWhile (· != ':')

def password (u : Url) : List Char :=
  ((userInformation u.authority).dropWhile (· != ':')).drop 1

end Url

end CypherGate
