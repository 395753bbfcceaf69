import JudgeDesk.Text.Blank

/-!
# Numerals

* `digitValue?`, `hexDigit?` — the value of one decimal or hexadecimal digit;
* `unsigned?` — an unsigned numeral, with or without a plus sign, within a bound;
* `decimal` — the numeral of a number.

In a decimal numeral only the ASCII digits count, leading zeros are harmless, and a minus sign is
refused even before a zero.
-/

namespace JudgeDesk.Text

/-- The value of an ASCII decimal digit. -/
def digitValue? (c : Char) : Option Nat :=
  if '0' ≤ c ∧ c ≤ '9' then some (c.toNat - 48) else none

/-- The value of a hexadecimal digit of either case. -/
def hexDigit? (c : Char) : Option Nat :=
  if '0' ≤ c ∧ c ≤ '9' then some (c.toNat - 48)
  else if 'a' ≤ c ∧ c ≤ 'f' then some (c.toNat - 87)
  else if 'A' ≤ c ∧ c ≤ 'F' then some (c.toNat - 55)
  else none

/-- The value of a list of digits read after the digits worth `acc`; any other character refuses
the whole list. -/
def digitsFrom? (acc : Nat) : List Char → Option Nat
  | [] => some acc
  | c :: rest => (digitValue? c).bind fun d => digitsFrom? (10 * acc + d) rest

/-- The value of a non-empty list of digits. -/
def digits? : List Char → Option Nat
  | [] => none
  | cs => digitsFrom? 0 cs

/-- **Unsigned numeral.** At least one digit after an optional plus sign, with a value below
`bound`. Nothing is trimmed. -/
def unsigned? (bound : Nat) (s : String) : Option Nat :=
  let value := match s.toList with
    | '+' :: rest => digits? rest
    | cs => digits? cs
  value.filter (· < bound)

/-- An unsigned numeral of at most eight bits. -/
def byte? (s : String) : Option Nat := unsigned? UInt8.size s

/-- An unsigned numeral of at most sixteen bits. -/
def uint16? (s : String) : Option UInt16 := (unsigned? UInt16.size s).map UInt16.ofNat

/-- An unsigned numeral of at most thirty-two bits. -/
def uint32? (s : String) : Option UInt32 := (unsigned? UInt32.size s).map UInt32.ofNat

/-- An unsigned numeral of at most sixty-four bits. -/
def uint64? (s : String) : Option UInt64 := (unsigned? UInt64.size s).map UInt64.ofNat

/-- **The numeral of a number**, without leading zeros. -/
def decimal (n : Nat) : String := String.ofList (Nat.toDigits 10 n)

/-- A numeral of at least `width` digits, filled with zeros on the left. -/
def padded (width n : Nat) : String :=
  let digits := Nat.toDigits 10 n
  String.ofList (List.replicate (width - digits.length) '0' ++ digits)

end JudgeDesk.Text
