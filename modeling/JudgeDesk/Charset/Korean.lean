import JudgeDesk.Charset.Rows
import JudgeDesk.Charset.KsX1001

/-!
# The Korean charset

The standard has rows for the syllables in use. All other syllables were added later, in the order
of Unicode, to the left of the rows and before them.

* `fromEucKr` — the characters of bytes.
-/

namespace JudgeDesk.Charset

/-- A list without some of its items, given in the order in which they stand in it. -/
def without : List Char → List Char → List Char
  | [], _ => []
  | cs, [] => cs
  | c :: cs, d :: ds => if c = d then without cs ds else c :: without cs (d :: ds)

/-- All syllables in the order of Unicode. -/
def syllables : List Char := (List.range 11172).map fun n => Char.ofNat (0xAC00 + n)

/-- **The syllables that were added.** Those in the rows are in the order of Unicode. -/
def addedSyllables : Array Char :=
  let standard := ksX1001.toList.flatMap (·.toList)
  (without syllables (standard.filter fun c => '가' ≤ c && c ≤ '힣')).toArray

/-- The number of a second byte among those that are letters or in the upper half. -/
def syllableColumn? (b : UInt8) : Option Nat :=
  if 0x41 ≤ b ∧ b ≤ 0x5A then some (b.toNat - 0x41)
  else if 0x61 ≤ b ∧ b ≤ 0x7A then some (b.toNat - 0x61 + 26)
  else if 0x81 ≤ b ∧ b ≠ 0xFF then some (b.toNat - 0x81 + 52)
  else none

/-- What a pair stands for. Before the rows there are 178 cells in a row, and to their left 84. -/
def eucKrPair (lead trail : UInt8) : Option (List Char) :=
  let c :=
    if 0xA1 ≤ lead ∧ 0xA1 ≤ trail then cell? ksX1001 (lead.toNat - 0xA1) (trail.toNat - 0xA1)
    else do
      let column ← syllableColumn? trail
      addedSyllables[if lead < 0xA1 then (lead.toNat - 0x81) * 178 + column
        else 32 * 178 + (lead.toNat - 0xA1) * 84 + column]?
  c.map ([·])

/-- **EUC-KR**, with all syllables. -/
def fromEucKr : Bytes → List Char := readPairs singleByte eucKrPair

end JudgeDesk.Charset
