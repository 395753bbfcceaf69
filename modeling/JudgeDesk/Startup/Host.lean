import JudgeDesk.Text.Numeral

/-!
# Addresses to listen on

The desk listens on an address that is given as such: names are not looked up.

* `isIpv4` — four numbers with points between them;
* `isIpv6` — eight groups with colons between them, some of which may be left out;
* `isIpAddress` — either.
-/

namespace JudgeDesk.Host

/-- The pieces of a text between separators. -/
def piecesFrom (separator : Char) (piece : List Char) : List Char → List (List Char)
  | [] => [piece.reverse]
  | c :: rest =>
    if c = separator then piece.reverse :: piecesFrom separator [] rest
    else piecesFrom separator (c :: piece) rest

/-- A number below 256 without needless zeros. -/
def isOctet (cs : List Char) : Bool :=
  cs.length ≤ 3 && (cs.length = 1 || cs.head? ≠ some '0') && (Text.digits? cs).any (· < 256)

/-- **Four octets** with points between them. -/
def isIpv4 (cs : List Char) : Bool :=
  let octets := piecesFrom '.' [] cs
  octets.length = 4 && octets.all isOctet

/-- A hexadecimal digit. -/
def isHexDigit (c : Char) : Bool :=
  c.isDigit || ('a' ≤ c && c ≤ 'f') || ('A' ≤ c && c ≤ 'F')

/-- From one to four hexadecimal digits. -/
def isGroup (cs : List Char) : Bool := 1 ≤ cs.length && cs.length ≤ 4 && cs.all isHexDigit

/-- The number of groups that pieces make up, if they do; the last piece may be four octets, which
are two groups. -/
def groupCount? (allowOctets : Bool) : List (List Char) → Option Nat
  | [] => some 0
  | [last] =>
    if isGroup last then some 1 else if allowOctets && isIpv4 last then some 2 else none
  | piece :: rest =>
    if isGroup piece then (groupCount? allowOctets rest).map (· + 1) else none

/-- The number of groups in a text that may be empty. -/
def groupsIn? (allowOctets : Bool) (cs : List Char) : Option Nat :=
  if cs.isEmpty then some 0 else groupCount? allowOctets (piecesFrom ':' [] cs)

/-- What stands before and after the first pair of colons. -/
def splitAtGap (before : List Char) : List Char → Option (List Char × List Char)
  | ':' :: ':' :: rest => some (before.reverse, rest)
  | c :: rest => splitAtGap (c :: before) rest
  | [] => none

/-- **Eight groups**, or fewer with a pair of colons where the others would stand. -/
def isIpv6 (cs : List Char) : Bool :=
  match splitAtGap [] cs with
  | none => groupsIn? true cs = some 8
  | some (head, tail) =>
    match groupsIn? false head, groupsIn? true tail with
    | some h, some t => h + t ≤ 7
    | _, _ => false

/-- **An address** to listen on. -/
def isIpAddress (s : String) : Bool := isIpv4 s.toList || isIpv6 s.toList

end JudgeDesk.Host
