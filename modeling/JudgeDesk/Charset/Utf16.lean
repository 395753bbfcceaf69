import JudgeDesk.Text.Utf8

/-!
# UTF-16

Two bytes are a code unit, and one or two code units are a character.

* `fromUtf16` — the characters of bytes, in either order.
-/

namespace JudgeDesk.Charset

open Text (replacement)

/-- The code units of bytes taken in pairs; a single byte at the end is no unit. -/
def units (littleEndian : Bool) : Bytes → List (Option Nat)
  | [] => []
  | [_] => [none]
  | a :: b :: rest =>
    let unit := if littleEndian then b.toNat * 0x100 + a.toNat else a.toNat * 0x100 + b.toNat
    some unit :: units littleEndian rest

/-- The characters of code units after the first half of a surrogate pair, if there is one. A half
on its own is a replacement character. -/
def charsOfUnits (high : Option Nat) : List (Option Nat) → List Char
  | [] => if high.isSome then [replacement] else []
  | unit :: rest =>
    let lone := if high.isSome then [replacement] else []
    match unit, high with
    | none, _ => replacement :: charsOfUnits none rest
    | some u, high =>
      if 0xDC00 ≤ u ∧ u < 0xE000 then
        match high with
        | some h => Char.ofNat (0x10000 + (h - 0xD800) * 0x400 + (u - 0xDC00)) ::
            charsOfUnits none rest
        | none => replacement :: charsOfUnits none rest
      else if 0xD800 ≤ u ∧ u < 0xDC00 then lone ++ charsOfUnits (some u) rest
      else lone ++ Char.ofNat u :: charsOfUnits none rest

/-- **The characters of bytes**, of which the lower or the higher one of a unit comes first. -/
def fromUtf16 (littleEndian : Bool) (bs : Bytes) : List Char :=
  charsOfUnits none (units littleEndian bs)

end JudgeDesk.Charset
