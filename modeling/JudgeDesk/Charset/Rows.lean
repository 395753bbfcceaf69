import JudgeDesk.Text.Utf8

/-!
# Charsets of two bytes

In the charsets of East Asia most characters are two bytes: the first one chooses a row of a table,
and the second one a cell of the row.

* `cell?` — the character in a cell;
* `readPairs` — the characters of bytes that are taken alone or in pairs.
-/

namespace JudgeDesk.Charset

open Text (replacement)

/-- **The character in a cell**, if the cell is not a gap. -/
def cell? (rows : Array String) (row column : Nat) : Option Char :=
  (rows[row]?.bind fun cells => cells.toList[column]?).filter (· ≠ replacement)

/-- **The characters of bytes.** `single` says what a byte stands for that does not begin a pair,
and `pair` what a pair stands for. Where a pair stands for nothing its second byte is taken again
if it is ASCII. -/
def readPairs (single : UInt8 → Option Char) (pair : UInt8 → UInt8 → Option (List Char)) :
    Bytes → List Char
  | [] => []
  | b :: rest =>
    match single b with
    | some c => c :: readPairs single pair rest
    | none =>
      match rest with
      | [] => [replacement]
      | trail :: more =>
        match pair b trail with
        | some cs => cs ++ readPairs single pair more
        | none =>
          replacement ::
            if trail < 0x80 then readPairs single pair (trail :: more)
            else readPairs single pair more

/-- What a byte stands for where all pairs begin with the same bytes. -/
def singleByte (b : UInt8) : Option Char :=
  if b < 0x80 then some (Char.ofNat b.toNat)
  else if b = 0x80 ∨ b = 0xFF then some replacement
  else none

end JudgeDesk.Charset
