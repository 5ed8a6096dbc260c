import CypherGate.Text.Numeral
import CypherGate.Text.Split
/-!
# Addresses in brackets

Which texts are IPv4 or IPv6 addresses. An IPv6 address has eight groups of hexadecimal digits, the
last two of which may be written as an IPv4 address, one run of zero groups may be left out, and a
zone may follow.
-/
namespace CypherGate.Url

def isOctet (s : List Char) : Bool :=
  match s.mapM Text.asciiDigit? with
  | none | some [] => false
  | some [_] => true
  | some ds => ds.length ≤ 3 && ds.head? != some 0 && Text.digitsValue ds ≤ 255

def isIPv4 (s : List Char) : Bool :=
  let parts := Text.splitOn '.' s
  parts.length == 4 && parts.all isOctet

def isHexDigit (c : Char) : Bool :=
  ('0' ≤ c && c ≤ '9') || ('a' ≤ c && c ≤ 'f') || ('A' ≤ c && c ≤ 'F')

def isGroup (s : List Char) : Bool := !s.isEmpty && s.length ≤ 4 && s.all isHexDigit

/-- Two groups for an IPv4 address at the end, if that is one. -/
def expandTail (groups : List (List Char)) : Option (List (List Char)) :=
  match groups.getLast? with
  | none => some groups
  | some last =>
    if !last.contains '.' then some groups
    else if isIPv4 last then some (groups.dropLast ++ [['0'], ['0']])
    else none

/-- Groups on one side of the gap. An empty group stands only beside the gap at an end. -/
def isSide (groups : List (List Char)) : Bool := groups == [[]] || groups.all isGroup

/-- Where the gap is: the empty groups other than the first and the last one. -/
def gaps (groups : List (List Char)) : List Nat :=
  (List.range groups.length).filter fun i =>
    0 < i && i + 1 < groups.length && (groups[i]?.getD []).isEmpty

def countGroups (side : List (List Char)) : Nat := if side = [[]] then 0 else side.length

/-- Eight groups, or fewer around one gap. -/
def isGroups (groups : List (List Char)) : Bool :=
  if groups.length > 9 then false
  else match gaps groups with
    | [] => groups.length == 8 && groups.all isGroup
    | [i] =>
      let high := groups.take i
      let low := groups.drop (i + 1)
      isSide high && isSide low && countGroups high + countGroups low ≤ 7
    | _ => false

def withoutZone? (s : List Char) : Option (List Char) :=
  match Text.cut? '%' s with
  | none => some s
  | some (address, zone) => if zone.isEmpty || zone.contains '%' then none else some address

def isIPv6 (s : List Char) : Bool :=
  !s.contains '/' && match withoutZone? s with
    | none => false
    | some address =>
      let groups := Text.splitOn ':' address
      groups.length ≥ 3 && ((expandTail groups).map isGroups).getD false

end CypherGate.Url
