/-!
# Binary floating point of sixty-four bits

Scores are stored and compared as bit patterns, so that two scores are the same exactly when their
bits are. Arithmetic is exact arithmetic on natural numbers followed by one rounding.

* `ofRatio` — the pattern nearest to a quotient, the single place where anything is rounded;
* `ofNat`, `ofInt` — whole numbers;
* `magnitude` — a finite pattern back as a numerator and a denominator;
* `mul`, `div` — product and quotient, rounded once.
-/

namespace JudgeDesk

/-- A floating point number of sixty-four bits, given by its bits. -/
structure Binary64 where
  /-- one sign bit, eleven exponent bits and fifty-two fraction bits, highest first -/
  bits : UInt64
  deriving DecidableEq, Repr, Inhabited

namespace Binary64

/-- The place of the sign bit. -/
def signBit : Nat := 0x8000000000000000

/-- The bit that leads a normal fraction, one place above the fraction bits. -/
def leadingBit : Nat := 0x10000000000000

/-- The bits of positive infinity, and so the least bits that stand for no number. -/
def infiniteBits : Nat := 0x7FF0000000000000

/-- The bits of a magnitude, with the sign bit put in front. -/
def signed (negative : Bool) (magnitude : Nat) : Binary64 :=
  ⟨UInt64.ofNat (if negative then signBit + magnitude else magnitude)⟩

/-- Positive or negative zero. -/
def zero (negative : Bool) : Binary64 := signed negative 0

/-- Positive or negative infinity. -/
def infinite (negative : Bool) : Binary64 := signed negative infiniteBits

/-- A quiet not-a-number. -/
def nan : Binary64 := ⟨0x7FF8000000000000⟩

/-- The sign bit. -/
def isNegative (x : Binary64) : Bool := signBit ≤ x.bits.toNat

/-- The bits below the sign. -/
def magnitudeBits (x : Binary64) : Nat := x.bits.toNat % signBit

/-- Neither infinite nor a not-a-number. -/
def isFinite (x : Binary64) : Bool := x.magnitudeBits < infiniteBits

/-- **Nearest quotient.** The whole number nearest to `num / den`; a tie goes to the even one. -/
def roundDiv (num den : Nat) : Nat :=
  let q := num / den
  let r := num % den
  if 2 * r < den then q
  else if den < 2 * r then q + 1
  else if q % 2 = 0 then q else q + 1

/-- The bits of the magnitude nearest to `num / den`, for a positive quotient, where the unit in
the last place is `2 ^ (scale - 1074)`: as the exponent field counts units from the least one and
the leading bit of a normal fraction adds one to it, field and fraction are simply added. -/
def scaledBits (num den scale : Nat) : Nat :=
  let m := if scale ≤ 1074 then roundDiv (num * Nat.pow 2 (1074 - scale)) den
    else roundDiv num (den * Nat.pow 2 (scale - 1074))
  min (scale * leadingBit + m) infiniteBits

/-- The least `scale` whose unit leaves `num / den` no more than fifty-three bits. The difference
of the bit lengths names it up to one, and one comparison decides which. -/
def scaleOf (num den : Nat) : Nat :=
  let guess := (num.log2 + 1074) - (den.log2 + 52)
  let fits := if guess ≤ 1074 + 1 then num * Nat.pow 2 (1074 + 1 - guess) < den * (2 * leadingBit)
    else num < den * Nat.pow 2 (guess - 1074 - 1 + 53)
  if fits then guess - 1 else guess

/-- **Nearest pattern.** The floating point number nearest to `num / den`; a tie goes to the even
fraction, and what is too large goes to infinity. -/
def ofRatio (negative : Bool) (num den : Nat) : Binary64 :=
  if num = 0 then zero negative
  else signed negative (scaledBits num den (scaleOf num den))

/-- The floating point number nearest to a natural number. -/
def ofNat (n : Nat) : Binary64 := ofRatio false n 1

/-- The floating point number nearest to a whole number; zero is positive. -/
def ofInt (i : Int) : Binary64 := ofRatio (decide (i < 0)) i.natAbs 1

/-- The fraction and the power of two of a finite magnitude: its value is
`fraction * 2 ^ (scale - 1074)`. -/
def fractionScale (x : Binary64) : Nat × Nat :=
  let field := x.magnitudeBits / leadingBit
  let low := x.magnitudeBits % leadingBit
  if field = 0 then (low, 0) else (leadingBit + low, field - 1)

/-- **Magnitude.** A finite pattern, without its sign, as a quotient of natural numbers. -/
def magnitude (x : Binary64) : Nat × Nat :=
  let (fraction, scale) := x.fractionScale
  if 1074 ≤ scale then (fraction * Nat.pow 2 (scale - 1074), 1)
  else (fraction, Nat.pow 2 (1074 - scale))

/-- Product of two finite numbers, rounded once. -/
def mul (x y : Binary64) : Binary64 :=
  let (a, b) := x.magnitude
  let (c, d) := y.magnitude
  ofRatio (x.isNegative != y.isNegative) (a * c) (b * d)

/-- Quotient of two finite numbers, rounded once; the divisor must not be zero. -/
def div (x y : Binary64) : Binary64 :=
  let (a, b) := x.magnitude
  let (c, d) := y.magnitude
  ofRatio (x.isNegative != y.isNegative) (a * d) (b * c)

/-- The same magnitude with the other sign. -/
def neg (x : Binary64) : Binary64 := signed (!x.isNegative) x.magnitudeBits

end Binary64

end JudgeDesk
