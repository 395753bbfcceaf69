import JudgeDesk.Text.Numeral

/-!
# Session ids

An open editor or viewer is known by a number of one hundred and twenty-eight bits.

* `SessionId` — the number;
* `text` — its written form, thirty-two digits in five groups;
* `ofText?` — the four forms in which a request may give it.
-/

namespace JudgeDesk

/-- **A session id.** -/
structure SessionId where
  /-- the number -/
  bits : BitVec 128
  deriving DecidableEq, Repr

namespace SessionId

/-- The digits of a number, `n` of them, in lower case. -/
def digits : (n value : Nat) → List Char → List Char
  | 0, _, tail => tail
  | n + 1, value, tail => digits n (value / 16) (Nat.digitChar (value % 16) :: tail)

/-- The value of a list of digits read after those worth `value`. -/
def digitsFrom? (value : Nat) : List Char → Option Nat
  | [] => some value
  | c :: rest => (Text.hexDigit? c).bind fun d => digitsFrom? (16 * value + d) rest

/-- The id of thirty-two digits. -/
def ofDigits? (cs : List Char) : Option SessionId :=
  if cs.length = 32 then (digitsFrom? 0 cs).map fun n => ⟨BitVec.ofNat 128 n⟩ else none

/-- Thirty-two digits split into groups of eight, four, four, four and twelve. -/
def grouped (cs : List Char) : List Char :=
  cs.take 8 ++ '-' :: (cs.drop 8).take 4 ++ '-' :: (cs.drop 12).take 4 ++
    '-' :: (cs.drop 16).take 4 ++ '-' :: cs.drop 20

/-- **Written form** of an id: its digits in groups, in lower case. -/
def text (id : SessionId) : String := String.ofList (grouped (digits 32 id.bits.toNat []))

/-- The id of digits in groups. -/
def ofGrouped? (cs : List Char) : Option SessionId :=
  let plain := cs.filter (· ≠ '-')
  if cs = grouped plain then ofDigits? plain else none

/-- **Reading an id.** The digits may be in groups or not, and a grouped id may stand in braces or
after the name of its scheme. -/
def ofText? (s : String) : Option SessionId :=
  let cs := s.toList
  let scheme := "urn:uuid:".toList
  if cs.length = 32 then ofDigits? cs
  else if cs.length = 36 then ofGrouped? cs
  else if cs.length = 38 ∧ cs.head? = some '\x7b' ∧ cs.getLast? = some '\x7d' then
    ofGrouped? ((cs.drop 1).take 36)
  else if cs.length = 45 ∧ scheme.isPrefixOf cs then ofGrouped? (cs.drop scheme.length)
  else none

end SessionId

end JudgeDesk
