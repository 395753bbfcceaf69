import JudgeDesk.Charset.Rows
import JudgeDesk.Charset.JisX0208
import JudgeDesk.Charset.JisX0212

/-!
# Japanese charsets

Three ways to write the same rows of characters as bytes.

* `fromShiftJis` — the first bytes are shifted out of the way of the half-width katakana;
* `fromEucJp` — both bytes are in the upper half;
* `fromIso2022Jp` — escape sequences switch between sets of characters.
-/

namespace JudgeDesk.Charset

open Text (replacement)

/-- A half-width katakana, by its number. -/
def katakana (n : Nat) : Char := Char.ofNat (0xFF61 + n)

/-! ### Shift_JIS -/

/-- What a byte stands for that does not begin a pair. -/
def shiftJisSingle (b : UInt8) : Option Char :=
  if b ≤ 0x80 then some (Char.ofNat b.toNat)
  else if 0xA1 ≤ b ∧ b ≤ 0xDF then some (katakana (b.toNat - 0xA1))
  else if b = 0xA0 ∨ 0xFD ≤ b then some replacement
  else none

/-- What a pair stands for. Each first byte has two rows. After the rows of the standard come
characters for private use, and then the additions. -/
def shiftJisPair (lead trail : UInt8) : Option (List Char) :=
  if trail < 0x40 ∨ trail = 0x7F ∨ 0xFC < trail then none
  else
    let row := lead.toNat - (if lead < 0xA0 then 0x81 else 0xC1)
    let number := row * 188 + trail.toNat - (if trail < 0x7F then 0x40 else 0x41)
    let c :=
      if number < 8836 then cell? jisX0208 (number / 94) (number % 94)
      else if number < 10716 then some (Char.ofNat (0xE000 + number - 8836))
      else cell? jisAdditions ((number - 10716) / 94) ((number - 10716) % 94)
    c.map ([·])

/-- **Shift_JIS.** -/
def fromShiftJis : Bytes → List Char := readPairs shiftJisSingle shiftJisPair

/-! ### EUC-JP -/

/-- Whether a byte is one of a pair. -/
def isRowByte (b : UInt8) : Bool := 0xA1 ≤ b && b ≠ 0xFF

/-- The character of two bytes in rows. -/
def rowPair (rows : Array String) (lead trail : UInt8) : Option Char :=
  if isRowByte lead && isRowByte trail then cell? rows (lead.toNat - 0xA1) (trail.toNat - 0xA1)
  else none

/-- What two bytes stand for. -/
def eucJpPair (lead trail : UInt8) : Option Char :=
  if lead = 0x8E ∧ 0xA1 ≤ trail ∧ trail ≤ 0xDF then some (katakana (trail.toNat - 0xA1))
  else rowPair jisX0208 lead trail

/-- **EUC-JP.** A third byte in front of a pair means the supplement. -/
def fromEucJp : Bytes → List Char
  | [] => []
  | b :: rest =>
    if b < 0x80 then Char.ofNat b.toNat :: fromEucJp rest
    else if b ≠ 0x8E ∧ b ≠ 0x8F ∧ !isRowByte b then replacement :: fromEucJp rest
    else
      match rest with
      | [] => [replacement]
      | lead :: more =>
        if b = 0x8F ∧ isRowByte lead then
          match more with
          | [] => [replacement]
          | trail :: more =>
            match rowPair jisX0212 lead trail with
            | some c => c :: fromEucJp more
            | none =>
              replacement :: if trail < 0x80 then fromEucJp (trail :: more) else fromEucJp more
        else
          match eucJpPair b lead with
          | some c => c :: fromEucJp more
          | none => replacement :: if lead < 0x80 then fromEucJp (lead :: more) else fromEucJp more

/-! ### ISO-2022-JP -/

/-- The sets of characters that escape sequences choose. -/
inductive JisSet where
  /-- ASCII -/
  | ascii
  /-- ASCII with two signs replaced -/
  | roman
  /-- the half-width katakana -/
  | katakana
  /-- the rows of the standard -/
  | rows
  deriving DecidableEq, Repr

/-- The character of a byte in a set. -/
def JisSet.char : JisSet → UInt8 → Char
  | .katakana, b =>
    if 0x21 ≤ b ∧ b ≤ 0x5F then Charset.katakana (b.toNat - 0x21) else replacement
  | .roman, 0x5C => '¥'
  | .roman, 0x7E => '‾'
  | _, b =>
    if b = 0x0E ∨ b = 0x0F ∨ 0x80 ≤ b then replacement else Char.ofNat b.toNat

/-- Whether a byte is one of a pair in rows. -/
def isSevenBit (b : UInt8) : Bool := 0x21 ≤ b && b ≤ 0x7E

/-- The characters of bytes in a set. An escape sequence right after another one leaves nothing
between them, which is a fault. -/
def iso2022JpFrom (set : JisSet) (switched : Bool) : Bytes → List Char
  | [] => []
  | 0x1B :: rest =>
    let fault := if switched then [replacement] else []
    match rest with
    | 0x28 :: 0x42 :: rest => fault ++ iso2022JpFrom .ascii true rest
    | 0x28 :: 0x4A :: rest => fault ++ iso2022JpFrom .roman true rest
    | 0x28 :: 0x49 :: rest => fault ++ iso2022JpFrom .katakana true rest
    | 0x24 :: 0x40 :: rest => fault ++ iso2022JpFrom .rows true rest
    | 0x24 :: 0x42 :: rest => fault ++ iso2022JpFrom .rows true rest
    | rest => replacement :: iso2022JpFrom set false rest
  | b :: rest =>
    if set ≠ .rows then set.char b :: iso2022JpFrom set false rest
    else if !isSevenBit b then replacement :: iso2022JpFrom set false rest
    else
      match rest with
      | [] => [replacement]
      | 0x1B :: more => replacement :: iso2022JpFrom set false (0x1B :: more)
      | trail :: more =>
        let c := if isSevenBit trail then cell? jisX0208 (b.toNat - 0x21) (trail.toNat - 0x21)
          else none
        c.getD replacement :: iso2022JpFrom set false more

/-- **ISO-2022-JP.** -/
def fromIso2022Jp : Bytes → List Char := iso2022JpFrom .ascii false

end JudgeDesk.Charset
