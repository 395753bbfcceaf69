import JudgeDesk.Charset.Korean
import JudgeDesk.Charset.Gb2312

/-!
# The Chinese charset

The rows of the standard, all ideographs that are not in them, areas for private use, and four
bytes for everything else.

* `fromGb18030` — the characters of bytes.
-/

namespace JudgeDesk.Charset

open Text (replacement)

/-- The ideographs of the first version of Unicode, in its order. -/
def ideographs : List Char := (List.range 20902).map fun n => Char.ofNat (0x4E00 + n)

/-- **The ideographs that were added**, in the order of Unicode, with five for compatibility after
them. -/
def addedIdeographs : Array Char :=
  let standard := gb2312.toList.flatMap (·.toList)
  let sorted := (standard.filter fun c => '一' ≤ c && c ≤ '龥').mergeSort
  (without ideographs sorted ++ gbCompatible.toList).toArray

/-- The number of a second byte. -/
def gbColumn? (b : UInt8) : Option Nat :=
  if 0x40 ≤ b ∧ b ≤ 0x7E then some (b.toNat - 0x40)
  else if 0x80 ≤ b ∧ b ≠ 0xFF then some (b.toNat - 0x41)
  else none

/-- The character for private use in a cell. -/
def gbPrivate? (lead trail : UInt8) : Option Char :=
  let number := lead.toNat * 0x100 + trail.toNat
  gbPrivate.findSome? fun (start, first, length) =>
    if start ≤ number ∧ number < start + length then some (Char.ofNat (first + number - start))
    else none

/-- The character of a pair. Whole areas in and beside the rows are for private use, but for one
cell that is a wide space. -/
def gbPair? (lead trail : UInt8) : Option Char := do
  let column ← gbColumn? trail
  let row := lead.toNat - 0xA1
  let added := if lead < 0xA1 then (lead.toNat - 0x81) * 190 + column
    else 32 * 190 + (lead.toNat - 0xAA) * 96 + column
  if lead < 0xA1 then addedIdeographs[added]?
  else if 0xA1 ≤ trail then
    let cell := row * 94 + (trail.toNat - 0xA1)
    if 0xAA ≤ lead ∧ lead ≤ 0xAF then some (Char.ofNat (0xE000 + cell - 9 * 94))
    else if 0xF8 ≤ lead then some (Char.ofNat (0xE234 + cell - 87 * 94))
    else (cell? gb2312 row (trail.toNat - 0xA1)).or (gbPrivate? lead trail)
  else if lead = 0xA3 ∧ trail = 0xA0 then some '\u3000'
  else if lead < 0xA8 then some (Char.ofNat (0xE4C6 + row * 96 + column))
  else if lead < 0xAA then (cell? gbLeft (lead.toNat - 0xA8) column).or (gbPrivate? lead trail)
  else if lead = 0xFE then (cell? gbLeft 2 column).or (gbPrivate? lead trail)
  else addedIdeographs[added]?

/-- The character of a number that four bytes give. -/
def gbFour? (number : Nat) : Option Char :=
  if 189000 ≤ number then
    if number < 189000 + 0x100000 then some (Char.ofNat (0x10000 + number - 189000)) else none
  else if 39420 ≤ number then none
  else
    let step (found : Option Char) (range : Nat × Nat) : Option Char :=
      if range.1 ≤ number then some (Char.ofNat (range.2 + number - range.1)) else found
    gbRanges.foldl step none

/-- Whether a byte is a digit. -/
def isDigitByte (b : UInt8) : Bool := 0x30 ≤ b && b ≤ 0x39

/-- **GB 18030.** Where four bytes break off, all of them but the first are taken again. -/
def fromGb18030 : Bytes → List Char
  | [] => []
  | a :: rest =>
    if a < 0x80 then Char.ofNat a.toNat :: fromGb18030 rest
    else if a = 0x80 then '€' :: fromGb18030 rest
    else if a = 0xFF then replacement :: fromGb18030 rest
    else
      match rest with
      | [] => [replacement]
      | b :: rest =>
        if isDigitByte b then
          match rest with
          | [] => [replacement]
          | [c] =>
            if 0x81 ≤ c ∧ c ≠ 0xFF then [replacement] else replacement :: fromGb18030 (b :: [c])
          | c :: d :: more =>
            if 0x81 ≤ c ∧ c ≠ 0xFF ∧ isDigitByte d then
              let number := (((a.toNat - 0x81) * 10 + (b.toNat - 0x30)) * 126 +
                (c.toNat - 0x81)) * 10 + (d.toNat - 0x30)
              (gbFour? number).getD replacement :: fromGb18030 more
            else replacement :: fromGb18030 (b :: c :: d :: more)
        else
          match gbPair? a b with
          | some c => c :: fromGb18030 rest
          | none => replacement :: if b < 0x80 then fromGb18030 (b :: rest) else fromGb18030 rest

end JudgeDesk.Charset
