import JudgeDesk.Text.Utf8

/-!
# Query strings

The query of an address is a list of keys with values, written with `&` and `=` between them.

* `percentDecoded` — bytes with the escaped ones put back;
* `Query.ofText` — the pairs of a query string;
* `Query.text` — the query string of pairs.
-/

namespace JudgeDesk.Http

/-- The value of a hexadecimal digit, given as a byte. -/
def hexValue? (b : UInt8) : Option Nat :=
  let n := b.toNat
  if 0x30 ≤ n ∧ n ≤ 0x39 then some (n - 0x30)
  else if 0x41 ≤ n ∧ n ≤ 0x46 then some (n - 0x37)
  else if 0x61 ≤ n ∧ n ≤ 0x66 then some (n - 0x57)
  else none

/-- **Percent decoding.** A percent sign and two hexadecimal digits stand for a byte; any other
percent sign stands for itself. -/
def percentDecoded : Bytes → Bytes
  | 0x25 :: a :: b :: rest =>
    match hexValue? a, hexValue? b with
    | some x, some y => UInt8.ofNat (x * 16 + y) :: percentDecoded rest
    | _, _ => 0x25 :: percentDecoded (a :: b :: rest)
  | b :: rest => b :: percentDecoded rest
  | [] => []

/-- A hexadecimal digit in upper case, as a character. -/
def upperDigit (n : Nat) : Char := if n < 10 then Char.ofNat (0x30 + n) else Char.ofNat (0x37 + n)

/-- The pairs of a query. -/
abbrev Query := List (String × String)

namespace Query

/-- A key or a value as it was before it was written. -/
def component (bs : Bytes) : String :=
  Text.lossy (percentDecoded (bs.map fun b => if b = 0x2B then 0x20 else b))

/-- The pieces of bytes between separators. -/
def pieces (separator : UInt8) (piece : Bytes) : Bytes → List Bytes
  | [] => [piece.reverse]
  | b :: rest =>
    if b = separator then piece.reverse :: pieces separator [] rest
    else pieces separator (b :: piece) rest

/-- The key and the value of a piece; a piece without a sign between them is a key with an empty
value. -/
def pairOf (piece : Bytes) : String × String :=
  (component (piece.takeWhile (· ≠ 0x3D)), component ((piece.dropWhile (· ≠ 0x3D)).drop 1))

/-- **The pairs of a query string**, empty pieces left out. -/
def ofText (s : String) : Query :=
  ((pieces 0x26 [] (Text.bytes s)).filter (!·.isEmpty)).map pairOf

/-- The bytes that are written as they are: letters, digits and four signs. -/
def isPlain (b : UInt8) : Bool :=
  let n := b.toNat
  (0x30 ≤ n && n ≤ 0x39) || (0x41 ≤ n && n ≤ 0x5A) || (0x61 ≤ n && n ≤ 0x7A) ||
    n == 0x2A || n == 0x2D || n == 0x2E || n == 0x5F

/-- The characters for one byte of a key or a value. -/
def written (b : UInt8) : List Char :=
  if isPlain b then [Char.ofNat b.toNat]
  else if b = 0x20 then ['+']
  else ['%', upperDigit (b.toNat / 16), upperDigit (b.toNat % 16)]

/-- A key or a value in a query string. -/
def writtenText (s : String) : String := String.ofList ((Text.bytes s).flatMap written)

/-- **The query string of pairs.** -/
def text (q : Query) : String :=
  "&".intercalate (q.map fun (key, value) => writtenText key ++ "=" ++ writtenText value)

end Query

end JudgeDesk.Http
