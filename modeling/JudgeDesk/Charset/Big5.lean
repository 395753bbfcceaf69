import JudgeDesk.Charset.Rows
import JudgeDesk.Charset.Big5Rows

/-!
# The charset of Taiwan and Hong Kong

* `fromBig5` — the characters of bytes.
-/

namespace JudgeDesk.Charset

/-- What a pair stands for. Four pairs stand for a letter with a mark that combines with it. -/
def big5Pair : UInt8 → UInt8 → Option (List Char)
  | 0x88, 0x62 => some ['Ê', '\u0304']
  | 0x88, 0x64 => some ['Ê', '\u030C']
  | 0x88, 0xA3 => some ['ê', '\u0304']
  | 0x88, 0xA5 => some ['ê', '\u030C']
  | lead, trail =>
    let row := lead.toNat - 0x87
    let c :=
      if lead < 0x87 then none
      else if 0x40 ≤ trail ∧ trail ≤ 0x7E then cell? big5Low row (trail.toNat - 0x40)
      else if 0xA1 ≤ trail then cell? big5High row (trail.toNat - 0xA1)
      else none
    c.map ([·])

/-- **Big5**, with the supplement for Hong Kong. -/
def fromBig5 : Bytes → List Char := readPairs singleByte big5Pair

end JudgeDesk.Charset
