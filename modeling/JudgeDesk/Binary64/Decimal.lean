import JudgeDesk.Binary64.Basic
import JudgeDesk.Text.Numeral

/-!
# Reading decimal numbers

Two readers, for two sources of decimals.

* `ofDecimal` — the pattern nearest to `digits * 10 ^ exponent`, whatever the exponent;
* `ofText?` — a number typed into a form, always rounded correctly, with `inf` and `nan`;
* `ofSignificand?` — a number of a document, whose first digits were kept as a word: the word and
  the power of ten are both rounded before they are multiplied, so the last bit may differ from
  the nearest one, and a number that is too large is refused.
-/

namespace JudgeDesk.Binary64

/-- **Nearest to a decimal.** The value is `digits * 10 ^ exponent`. Where the highest digit stands
beyond the range of finite numbers, or so low that all of it rounds away, the answer is given
without computing the power. -/
def ofDecimal (negative : Bool) (digits : Nat) (exponent : Int) : Binary64 :=
  if digits = 0 then zero negative
  else
    let lead := (digits.log2 : Int) / 4 + exponent
    if 320 < lead then infinite negative
    else if (digits.log2 : Int) / 3 + 1 + exponent < -330 then zero negative
    else if 0 ≤ exponent then ofRatio negative (digits * Nat.pow 10 exponent.toNat) 1
    else ofRatio negative digits (Nat.pow 10 (-exponent).toNat)

/-- A sign in front of a number, and what follows it. -/
def splitSign : List Char → Bool × List Char
  | '-' :: rest => (true, rest)
  | '+' :: rest => (false, rest)
  | cs => (false, cs)

/-- The value of an exponent: an optional sign and at least one digit. -/
def exponent? (cs : List Char) : Option Int :=
  let (negative, digits) := splitSign cs
  (Text.digits? digits).map fun n => if negative then -(n : Int) else n

/-- An unsigned decimal: digits with an optional point, at least one digit in all, and an optional
exponent. -/
def decimal? (negative : Bool) (cs : List Char) : Option Binary64 :=
  let whole := cs.takeWhile (·.isDigit)
  let afterWhole := cs.dropWhile (·.isDigit)
  let (fraction, afterPoint) := match afterWhole with
    | '.' :: rest => (rest.takeWhile (·.isDigit), rest.dropWhile (·.isDigit))
    | rest => ([], rest)
  let exponent := match afterPoint with
    | [] => some 0
    | e :: rest => if e = 'e' ∨ e = 'E' then exponent? rest else none
  match Text.digits? (whole ++ fraction), exponent with
  | some digits, some e => some (ofDecimal negative digits (e - fraction.length))
  | _, _ => none

/-- **Typed number.** An optional sign, then a decimal, `inf`, `infinity` or `nan` in any case.
Nothing is trimmed. -/
def ofText? (s : String) : Option Binary64 :=
  let (negative, cs) := splitSign s.toList
  let word := String.ofList (cs.map Char.toLower)
  if word = "inf" ∨ word = "infinity" then some (infinite negative)
  else if word = "nan" then some nan
  else decimal? negative cs

/-! ### Numbers of a document -/

/-- The nearest pattern to a power of ten with an exponent of at most 308. -/
def powerOfTen (exponent : Nat) : Binary64 := ofNat (Nat.pow 10 exponent)

/-- The word times a negative power of ten beyond the table: it is divided by `10 ^ 308` as long as
the exponent stays below the table, which at most three times leaves anything but zero. -/
def scaleDown (fuel : Nat) (x : Binary64) (places : Nat) : Binary64 :=
  match fuel with
  | 0 => zero x.isNegative
  | fuel + 1 =>
    if places ≤ 308 then x.div (powerOfTen places)
    else scaleDown fuel (x.div (powerOfTen 308)) (places - 308)

/-- **Document number.** `significand * 10 ^ exponent` with both factors rounded first; `none` when
the result is not finite. -/
def ofSignificand? (negative : Bool) (significand : Nat) (exponent : Int) : Option Binary64 :=
  let x := ofNat significand
  let magnitude :=
    if significand = 0 then some x
    else if exponent < 0 then some (scaleDown 4 x (-exponent).toNat)
    else if exponent ≤ 308 then some (x.mul (powerOfTen exponent.toNat))
    else none
  (magnitude.filter isFinite).map fun m => if negative then m.neg else m

end JudgeDesk.Binary64
