import JudgeDesk.Json.Basic
import JudgeDesk.Binary64.Decimal

/-!
# Reading texts

A text is read into a tree from left to right. Reading never fails: where the text is no document
the tree has a fault.

* `scanString` — a quoted string as code units, and `joinUnits` — the characters they stand for;
* `scanNumber` — a number, whole or with a fraction;
* `value` — any value, with the number of brackets that are open around it;
* `read` — a whole text, and whether nothing but space follows its value;
* `decodeText` — a text decoded as a value of a type.
-/

namespace JudgeDesk.Json

/-- What follows a value in the text, or nothing when the text broke off inside it. -/
abbrev Rest := Option (List Char)

/-- Where the text breaks off. -/
def cutHere : Json := fault .cut null

/-- Where the text has no key for a member. -/
def keyless : String × Json := ("", fault .noKey null)

/-- The four characters that may stand between tokens. -/
def isSpace (c : Char) : Bool := c == ' ' || c == '\n' || c == '\r' || c == '\t'

/-- A text without the space at its start. -/
def skipSpace (cs : List Char) : List Char := cs.dropWhile isSpace

/-! ### Strings -/

/-- The code unit of four hexadecimal digits. -/
def hexUnit? (a b c d : Char) : Option Nat := do
  let a ← Text.hexDigit? a
  let b ← Text.hexDigit? b
  let c ← Text.hexDigit? c
  let d ← Text.hexDigit? d
  return ((a * 16 + b) * 16 + c) * 16 + d

/-- The character of an escape with one letter. -/
def escape? : Char → Option Char
  | '"' => some '"'
  | '\\' => some '\\'
  | '/' => some '/'
  | 'b' => some '\x08'
  | 'f' => some '\x0c'
  | 'n' => some '\n'
  | 'r' => some '\r'
  | 't' => some '\t'
  | _ => none

/-- **A string** after its opening quote: the code units it stands for and what follows its closing
quote. Control characters and unknown escapes break it off. -/
def scanString (units : List Nat) : List Char → Option (List Nat × List Char)
  | [] => none
  | '"' :: rest => some (units.reverse, rest)
  | '\\' :: 'u' :: a :: b :: c :: d :: rest =>
    match hexUnit? a b c d with
    | some unit => scanString (unit :: units) rest
    | none => none
  | '\\' :: e :: rest =>
    match escape? e with
    | some c => scanString (c.toNat :: units) rest
    | none => none
  | c :: rest => if c.toNat < 0x20 then none else scanString (c.toNat :: units) rest

/-- **The characters of code units.** Two halves of a surrogate pair make one character; a half on
its own makes none, and so no string. -/
def joinUnits (done : List Char) : List Nat → Option String
  | [] => some (String.ofList done.reverse)
  | hi :: rest =>
    if 0xD800 ≤ hi ∧ hi < 0xDC00 then
      match rest with
      | lo :: rest =>
        if 0xDC00 ≤ lo ∧ lo < 0xE000 then
          joinUnits (Char.ofNat (0x10000 + (hi - 0xD800) * 0x400 + (lo - 0xDC00)) :: done) rest
        else none
      | [] => none
    else if 0xDC00 ≤ hi ∧ hi < 0xE000 then none
    else joinUnits (Char.ofNat hi :: done) rest

/-! ### Numbers -/

/-- A word of digits: the value of the digits that fit into sixty-four bits, how many they are, and
the digits that are left once one does not fit. -/
def takeDigits (word used : Nat) : List Char → Nat × Nat × List Char
  | [] => (word, used, [])
  | c :: rest =>
    let next := 10 * word + (c.toNat - 48)
    if next < UInt64.size then takeDigits next (used + 1) rest else (word, used, c :: rest)

/-- A number that is not whole, or that has more digits than a word. -/
def realOf (negative : Bool) (word : Nat) (exponent : Int) : Json :=
  match Binary64.ofSignificand? negative word exponent with
  | some x => real x
  | none => fault .unusable null

/-- A whole number that fits into a word; a negative one that is zero or out of range is taken as a
number with a fraction. -/
def wholeOf (negative : Bool) (word : Nat) : Json :=
  if !negative then int word
  else if 0 < word ∧ word ≤ 0x8000000000000000 then int (-(word : Int))
  else real (Binary64.ofNat word).neg

/-- The digits after a point, at least one of them, if there is a point. -/
def scanFraction : List Char → Option (List Char × List Char)
  | '.' :: rest =>
    match rest.takeWhile (·.isDigit) with
    | [] => none
    | digits => some (digits, rest.dropWhile (·.isDigit))
  | rest => some ([], rest)

/-- The value of an exponent, at least one digit of it, if there is one. -/
def scanExponent : List Char → Option (Option Int × List Char)
  | [] => some (none, [])
  | e :: rest =>
    if e = 'e' ∨ e = 'E' then
      let (negative, digits) := Binary64.splitSign rest
      match Text.digits? (digits.takeWhile (·.isDigit)) with
      | some n => some (some (if negative then -(n : Int) else n), digits.dropWhile (·.isDigit))
      | none => none
    else some (none, e :: rest)

/-- **A number** after its sign. Digits that do not fit into the word any more only move the
point. -/
def scanNumber (negative : Bool) (cs : List Char) : Json × Rest :=
  let whole := cs.takeWhile (·.isDigit)
  match whole with
  | [] => (cutHere, none)
  | first :: more =>
    if first = '0' ∧ more ≠ [] then (cutHere, none)
    else
      let (word, _, unused) := takeDigits 0 0 whole
      match scanFraction (cs.dropWhile (·.isDigit)) with
      | none => (cutHere, none)
      | some (fraction, rest) =>
        match scanExponent rest with
        | none => (cutHere, none)
        | some (exponent, rest) =>
          if fraction = [] ∧ exponent = none ∧ unused = [] then (wholeOf negative word, some rest)
          else
            let (word, used, _) := takeDigits word 0 fraction
            let places : Int := exponent.getD 0 + unused.length - used
            (realOf negative word places, some rest)

/-! ### Values -/

/-- A word that must stand in the text as it is. -/
def scanWord (word : List Char) (value : Json) (cs : List Char) : Json × Rest :=
  if word.isPrefixOf cs then (value, some (cs.drop word.length)) else (cutHere, none)

/-- The value of a string. -/
def scanText (cs : List Char) : Json × Rest :=
  match scanString [] cs with
  | none => (cutHere, none)
  | some (units, rest) =>
    match joinUnits [] units with
    | some s => (string s, some rest)
    | none => (fault .unusable (string ""), some rest)

/-- The greatest number of brackets around a value that is used. -/
def maxDepth : Nat := 127

/-- A value inside `depth` brackets, its own included. -/
def nested (depth : Nat) (v : Json) : Json := if depth ≤ maxDepth then v else fault .unusable v

mutual

/-- **A value**, space in front of it allowed. `fuel` bounds the number of values and brackets that
can still be read; a text has no more of them than characters. -/
def value (fuel depth : Nat) (cs : List Char) : Json × Rest :=
  match fuel with
  | 0 => (cutHere, none)
  | fuel + 1 =>
    match skipSpace cs with
    | 'n' :: rest => scanWord "ull".toList null rest
    | 't' :: rest => scanWord "rue".toList (bool true) rest
    | 'f' :: rest => scanWord "alse".toList (bool false) rest
    | '"' :: rest => scanText rest
    | '-' :: rest => scanNumber true rest
    | '[' :: rest =>
      let (vs, rest) := items fuel (depth + 1) true rest
      (nested (depth + 1) (array vs), rest)
    | '{' :: rest =>
      let (ms, rest) := members fuel (depth + 1) true rest
      (nested (depth + 1) (object ms), rest)
    | c :: rest => if c.isDigit then scanNumber false (c :: rest) else (cutHere, none)
    | [] => (cutHere, none)

/-- The items of an array up to its closing bracket. -/
def items (fuel depth : Nat) (first : Bool) (cs : List Char) : List Json × Rest :=
  match fuel with
  | 0 => ([cutHere], none)
  | fuel + 1 =>
    match skipSpace cs with
    | ']' :: rest => ([], some rest)
    | ',' :: rest =>
      if first then ([cutHere], none)
      else
        match skipSpace rest with
        | ']' :: _ => ([cutHere], none)
        | rest => itemsFrom fuel depth rest
    | rest => if first then itemsFrom fuel depth rest else ([cutHere], none)

/-- An item of an array and those after it. -/
def itemsFrom (fuel depth : Nat) (cs : List Char) : List Json × Rest :=
  match fuel with
  | 0 => ([cutHere], none)
  | fuel + 1 =>
    match value fuel depth cs with
    | (v, none) => ([v], none)
    | (v, some rest) =>
      let (vs, rest) := items fuel depth false rest
      (v :: vs, rest)

/-- The members of an object up to its closing bracket. -/
def members (fuel depth : Nat) (first : Bool) (cs : List Char) : List (String × Json) × Rest :=
  match fuel with
  | 0 => ([keyless], none)
  | fuel + 1 =>
    match skipSpace cs with
    | '}' :: rest => ([], some rest)
    | ',' :: rest =>
      if first then ([keyless], none) else membersFrom fuel depth (skipSpace rest)
    | rest => if first then membersFrom fuel depth rest else ([keyless], none)

/-- A member of an object and those after it. -/
def membersFrom (fuel depth : Nat) (cs : List Char) : List (String × Json) × Rest :=
  match fuel, cs with
  | fuel + 1, '"' :: rest =>
    match scanString [] rest with
    | none => ([keyless], none)
    | some (units, rest) =>
      let key := joinUnits [] units
      let mark (v : Json) := if key.isSome then v else fault .unusableKey v
      match skipSpace rest with
      | ':' :: rest =>
        match value fuel depth rest with
        | (v, none) => ([(key.getD "", mark v)], none)
        | (v, some rest) =>
          let (ms, rest) := members fuel depth false rest
          ((key.getD "", mark v) :: ms, rest)
      | _ => ([(key.getD "", mark cutHere)], none)
  | _, _ => ([keyless], none)

end

/-- **A whole text**: its value, and whether nothing but space follows it. -/
def read (text : String) : Json × Bool :=
  let cs := text.toList
  match value (3 * cs.length + 3) 0 cs with
  | (v, none) => (v, true)
  | (v, some rest) => (v, (skipSpace rest).isEmpty)

/-- **Decoding a text.** The value is decoded first; only then does it count that something follows
it. -/
def decodeText (decode : Decoder α) (text : String) : Except Refusal α :=
  let (v, alone) := read text
  match decode v with
  | .error e => .error e
  | .ok x => if alone then .ok x else .error .malformed

end JudgeDesk.Json
