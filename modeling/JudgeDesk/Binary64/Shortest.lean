import JudgeDesk.Binary64.Decimal

/-!
# Writing numbers with the fewest digits

* `shortest` — of all decimals that round to a finite number, one with the fewest digits, and of
  those the nearest;
* `layout` — where the point stands, and when an exponent is written instead;
* `render` — the two together, with the sign.
-/

namespace JudgeDesk.Binary64

/-- A decimal `digits * 10 ^ exponent`. -/
structure Decimal where
  /-- the digits, as one whole number -/
  digits : Nat
  /-- the power of ten of the last digit -/
  exponent : Int
  deriving DecidableEq, Repr

/-- Whether a decimal reads back as the given finite pattern. -/
def Decimal.readsAs (d : Decimal) (x : Binary64) : Bool :=
  (ofDecimal false d.digits d.exponent).magnitudeBits == x.magnitudeBits

/-- The whole number at or below a magnitude divided by `10 ^ exponent`, and the rest of the
division with its divisor. -/
def floorAt (x : Binary64) (exponent : Int) : Nat × Nat × Nat :=
  let (num, den) := x.magnitude
  let n := num * Nat.pow 10 (-exponent).toNat
  let d := den * Nat.pow 10 exponent.toNat
  (n / d, n % d, d)

/-- The neighbours of a magnitude on the grid of multiples of `10 ^ exponent`, tried nearest
first; an exact tie tries the even neighbour first. -/
def candidates (x : Binary64) (exponent : Int) : List Decimal :=
  let (q, r, d) := x.floorAt exponent
  let below : Decimal := ⟨q, exponent⟩
  let above : Decimal := ⟨q + 1, exponent⟩
  if 2 * r < d then [below, above]
  else if d < 2 * r then [above, below]
  else if q % 2 = 0 then [below, above] else [above, below]

/-- The first grid, from coarse to fine, on which a neighbour reads back. -/
def search (x : Binary64) (exponent : Int) : Nat → Decimal
  | 0 => (x.candidates exponent).headD ⟨0, 0⟩
  | fuel + 1 =>
    match (x.candidates exponent).find? (fun d => d.digits ≠ 0 && d.readsAs x) with
    | some d => d
    | none => search x (exponent - 1) fuel

/-- A decimal without the zeros at its end. -/
def Decimal.stripped (d : Decimal) : Nat → Decimal
  | 0 => d
  | fuel + 1 =>
    if d.digits ≠ 0 ∧ d.digits % 10 = 0 then Decimal.stripped ⟨d.digits / 10, d.exponent + 1⟩ fuel
    else d

/-- The power of ten of the highest decimal digit of a non-zero magnitude. -/
def leadExponent (x : Binary64) : Int :=
  let (num, den) := x.magnitude
  if den ≤ num then (Nat.toDigits 10 (num / den)).length - 1
  else -((Nat.toDigits 10 (den / num)).length : Int)

/-- **Shortest decimal** of a finite non-zero number, up to its sign. The search starts one place
above the highest digit, and seventeen digits always suffice. -/
def shortest (x : Binary64) : Decimal :=
  (x.search (x.leadExponent + 1) 19).stripped 19

/-- **Layout.** The point is written out while it stands at most sixteen places after the first
digit or four zeros before it; whole numbers end in `.0`; any other number has one digit before the
point and an exponent without a plus sign. -/
def Decimal.layout (d : Decimal) : String :=
  let digits := Nat.toDigits 10 d.digits
  let point : Int := digits.length + d.exponent
  if 0 ≤ d.exponent ∧ point ≤ 16 then
    String.ofList (digits ++ List.replicate d.exponent.toNat '0') ++ ".0"
  else if 0 < point ∧ point ≤ 16 then
    String.ofList (digits.take point.toNat ++ '.' :: digits.drop point.toNat)
  else if -5 < point ∧ point ≤ 0 then
    String.ofList ('0' :: '.' :: (List.replicate (-point).toNat '0' ++ digits))
  else
    let mark := toString (point - 1)
    match digits with
    | [] => ""
    | [c] => String.ofList [c, 'e'] ++ mark
    | c :: rest => String.ofList (c :: '.' :: rest) ++ "e" ++ mark

/-- **Text of a finite number.** -/
def render (x : Binary64) : String :=
  let sign := if x.isNegative then "-" else ""
  if x.magnitudeBits = 0 then sign ++ "0.0" else sign ++ x.shortest.layout

end JudgeDesk.Binary64
