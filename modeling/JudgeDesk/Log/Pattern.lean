import JudgeDesk.Text.Blank
import JudgeDesk.Text.Letters
import JudgeDesk.Text.Numeral

/-!
# Patterns

The directives of a filter may ask for the value of a field by a pattern, in the usual language of
regular expressions. The program's own events have no values that are asked for, so what matters is
only whether a pattern reads. There are no tables of character properties, so classes and case
beyond ASCII do not read, and a pattern must not match parts of characters.

* `Pattern.Mode` — what the flags of a pattern say;
* `Pattern.escape?`, `Pattern.openClass?`, `Pattern.openGroup?` — the pieces of a pattern;
* `Pattern.reads` — whether a text is a pattern.
-/

namespace JudgeDesk.Pattern

/-- **What the flags say** of a stretch of a pattern. -/
structure Mode where
  /-- `i`: letters stand for both cases -/
  folded : Bool := false
  /-- `u`: it is made of characters, and otherwise of bytes -/
  wide : Bool := true
  /-- `x`: blanks and comments do not count -/
  spaced : Bool := false
  deriving DecidableEq, Repr

/-- A text without the blanks and comments at its start. -/
def unspaced (inComment : Bool) : List Char → List Char
  | [] => []
  | c :: rest =>
    if inComment then unspaced (c ≠ '\n') rest
    else if Text.isBlank c then unspaced false rest
    else if c = '#' then unspaced true rest
    else c :: rest

/-- What is left of a pattern, from the next place that counts. -/
def Mode.skip (m : Mode) (cs : List Char) : List Char := if m.spaced then unspaced false cs else cs

/-! ### Single items -/

/-- What an item stands for. -/
inductive Item where
  /-- a character -/
  | char (c : Nat)
  /-- one of several characters -/
  | several
  /-- a place between characters -/
  | place
  deriving DecidableEq, Repr

/-- Whether an item may stand in a pattern. Characters may be folded only as bytes, and one beyond
ASCII cannot stand for a byte. -/
def Item.fits (m : Mode) (inClass : Bool) : Item → Bool
  | char c => if m.wide then !m.folded else c < 0x80 || (!inClass && !m.folded)
  | several => !(m.wide && m.folded)
  | place => !inClass

/-- The value of `n` hexadecimal digits after those worth `value`, and what follows them. -/
def hexDigits? (m : Mode) : (n value : Nat) → List Char → Option (Nat × List Char)
  | 0, value, cs => some (value, m.skip cs)
  | n + 1, value, cs =>
    match m.skip cs with
    | [] => none
    | c :: rest => (Text.hexDigit? c).bind fun d => hexDigits? m n (16 * value + d) rest

/-- A character given by its number in `n` digits. Two digits may stand for a byte, which is then
one of ASCII. -/
def numbered? (m : Mode) (n : Nat) (cs : List Char) : Option (Item × List Char) := do
  let (value, rest) ← hexDigits? m n 0 cs
  guard (value.isValidChar ∧ (m.wide ∨ n ≠ 2 ∨ value < 0x80))
  return (.char value, rest)

/-- The character that an escape with one letter stands for. -/
def controlOf? : Char → Option Nat
  | 'a' => some 0x07
  | 't' => some 0x09
  | 'n' => some 0x0A
  | 'v' => some 0x0B
  | 'f' => some 0x0C
  | 'r' => some 0x0D
  | _ => none

/-- **An escape** after its backslash, and what follows it. -/
def escape? (m : Mode) : List Char → Option (Item × List Char)
  | [] => none
  | c :: rest =>
    if c = 'x' then numbered? m 2 rest
    else if c = 'u' then numbered? m 4 rest
    else if c = 'U' then numbered? m 8 rest
    else if "dsw".toList.contains c then if m.wide then none else some (.several, rest)
    else if "bB<>".toList.contains c then if m.wide then none else some (.place, rest)
    else if "Az".toList.contains c then some (.place, rest)
    else if c.isAlphanum || 0x80 ≤ c.toNat then
      (controlOf? c).map fun control => (.char control, rest)
    else some (.char c.toNat, rest)

/-! ### Classes -/

/-- The names of the classes of ASCII. -/
def asciiClasses : List String :=
  ["alnum", "alpha", "ascii", "blank", "cntrl", "digit", "graph", "lower", "print", "punct",
    "space", "upper", "word", "xdigit"]

/-- A class of ASCII inside a class, after its bracket: whether it is negated, and what follows
it. -/
def asciiClass? : List Char → Option (Bool × List Char)
  | ':' :: rest =>
    let negated := rest.head? = some '^'
    let cs := if negated then rest.drop 1 else rest
    match cs.dropWhile (· ≠ ':') with
    | ':' :: ']' :: more =>
      if asciiClasses.contains (String.ofList (cs.takeWhile (· ≠ ':'))) then some (negated, more)
      else none
    | _ => none
  | _ => none

/-- The dashes at the start of a class, which stand for themselves: whether there are any, and what
follows them. `fuel` bounds their number; there are no more than characters. -/
def openDashes (m : Mode) (found : Bool) : (fuel : Nat) → List Char → Bool × List Char
  | fuel + 1, '-' :: rest => openDashes m true fuel (m.skip rest)
  | _, cs => (found, cs)

/-- **The start of a class** after its bracket: what follows it. A bracket that comes first stands
for itself. What is not in a class of bytes are parts of characters. -/
def openClass? (m : Mode) (cs : List Char) : Option (List Char) :=
  let cs := m.skip cs
  let negated := cs.head? = some '^'
  let (dashes, cs) := openDashes m false cs.length (if negated then m.skip (cs.drop 1) else cs)
  let bracket := !dashes && cs.head? = some ']'
  if (negated && !m.wide) || ((dashes || bracket) && !(Item.several.fits m true)) then none
  else some (if bracket then cs.drop 1 else cs)

/-- An item of a class, and what follows it. -/
def classItem? (m : Mode) : List Char → Option (Item × List Char)
  | [] => none
  | '\\' :: rest => escape? m rest
  | c :: rest => some (.char c.toNat, rest)

/-- An item of a class, or two of them with a dash between, and what follows. A dash before a
bracket or another dash is not between items. -/
def classRange? (m : Mode) (cs : List Char) : Option (List Char) := do
  let (low, rest) ← classItem? m cs
  guard (low.fits m true)
  match m.skip rest with
  | '-' :: more =>
    match m.skip more with
    | [] => none
    | ']' :: _ => return '-' :: more
    | '-' :: _ => return '-' :: more
    | more =>
      let (high, rest) ← classItem? m more
      guard (high.fits m true)
      match low, high with
      | .char low, .char high => if low ≤ high then some rest else none
      | _, _ => none
  | rest => return rest

/-! ### Groups -/

/-- The mode after some flags; those after a dash are taken back. `flags` are those so far. -/
def Mode.flagged (m : Mode) (on : Bool) (flags : List Char) : List Char → Option Mode
  | [] => if flags.head? = some '-' then none else some m
  | c :: rest =>
    if flags.contains c then none
    else
      match c with
      | '-' => m.flagged false ('-' :: flags) rest
      | 'i' => { m with folded := on }.flagged on ('i' :: flags) rest
      | 'u' => { m with wide := on }.flagged on ('u' :: flags) rest
      | 'x' => { m with spaced := on }.flagged on ('x' :: flags) rest
      | c => if "msUR".toList.contains c then m.flagged on (c :: flags) rest else none

/-- The name of a group up to its closing sign, and what follows it. -/
def groupName? (cs : List Char) : Option (String × List Char) :=
  let fits (first : Bool) (c : Char) : Bool :=
    c == '_' || (if first then Text.isAlphabetic c
      else Text.isAlphanumeric c || c == '.' || c == '[' || c == ']')
  let name := cs.takeWhile (· ≠ '>')
  match name, cs.dropWhile (· ≠ '>') with
  | c :: more, _ :: rest =>
    if fits true c && more.all (fits false) then some (String.ofList name, rest) else none
  | _, _ => none

/-- How a parenthesis opens. -/
inductive Opening where
  /-- a group, maybe with a name -/
  | group (name : Option String) (mode : Mode)
  /-- flags for what follows -/
  | flags (mode : Mode)

/-- **The start of a group** after its parenthesis, and what follows it. -/
def openGroup? (m : Mode) (cs : List Char) : Option (Opening × List Char) :=
  let named (cs : List Char) : Option (Opening × List Char) :=
    (groupName? cs).map fun (name, rest) => (.group (some name) m, rest)
  match m.skip cs with
  | '?' :: '<' :: '!' :: _ => none
  | '?' :: '<' :: '=' :: _ => none
  | '?' :: 'P' :: '<' :: rest => named rest
  | '?' :: '<' :: rest => named rest
  | '?' :: rest =>
    let isEnd (c : Char) : Bool := c == ':' || c == ')'
    let flags := rest.takeWhile (!isEnd ·)
    match rest.dropWhile (!isEnd ·), m.flagged true [] flags with
    | ':' :: more, some mode => some (.group none mode, more)
    | ')' :: more, some mode => if flags = [] then none else some (.flags mode, more)
    | _, _ => none
  | rest => some (.group none m, rest)

/-! ### Whole patterns -/

/-- Where the reading of a pattern stands. -/
structure Place where
  /-- the flags -/
  mode : Mode := {}
  /-- the flags to go back to, one for each open group -/
  outer : List Mode := []
  /-- the names of groups so far -/
  names : List String := []
  /-- how many classes are open -/
  classes : Nat := 0
  /-- whether there is something to repeat -/
  repeatable : Bool := false

/-- **Reading on** from a place. `fuel` bounds the number of steps; each of them takes a
character. -/
def readsFrom : (fuel : Nat) → Place → List Char → Bool
  | 0, _, _ => false
  | fuel + 1, p, cs =>
    if p.classes = 0 then
      match p.mode.skip cs with
      | [] => p.outer.isEmpty
      | '(' :: rest =>
        match openGroup? p.mode rest with
        | none => false
        | some (.flags mode, rest) => readsFrom fuel { p with mode, repeatable := false } rest
        | some (.group name mode, rest) =>
          if name.any p.names.contains then false
          else
            let p := { p with names := name.toList ++ p.names, outer := p.mode :: p.outer }
            readsFrom fuel { p with mode, repeatable := false } rest
      | ')' :: rest =>
        match p.outer with
        | [] => false
        | mode :: outer => readsFrom fuel { p with mode, outer, repeatable := true } rest
      | '|' :: rest => readsFrom fuel { p with repeatable := false } rest
      | '[' :: rest =>
        match openClass? p.mode rest with
        | some rest => readsFrom fuel { p with classes := 1 } rest
        | none => false
      | '\x7b' :: _ => false
      | '.' :: rest => p.mode.wide && readsFrom fuel { p with repeatable := true } rest
      | '\\' :: rest =>
        match escape? p.mode rest with
        | some (item, rest) =>
          item.fits p.mode false && readsFrom fuel { p with repeatable := true } rest
        | none => false
      | c :: rest =>
        if c = '?' ∨ c = '*' ∨ c = '+' then
          p.repeatable && readsFrom fuel p (if rest.head? = some '?' then rest.drop 1 else rest)
        else
          (c == '^' || c == '$' || (Item.char c.toNat).fits p.mode false) &&
            readsFrom fuel { p with repeatable := true } rest
    else
      match p.mode.skip cs with
      | ']' :: rest =>
        readsFrom fuel { p with classes := p.classes - 1, repeatable := true } rest
      | '&' :: '&' :: rest => readsFrom fuel p rest
      | '-' :: '-' :: rest => readsFrom fuel p rest
      | '~' :: '~' :: rest => readsFrom fuel p rest
      | '[' :: rest =>
        match asciiClass? rest, openClass? p.mode rest with
        | some (negated, rest), _ =>
          Item.several.fits p.mode true && !(negated && !p.mode.wide) && readsFrom fuel p rest
        | none, some rest => readsFrom fuel { p with classes := p.classes + 1 } rest
        | none, none => false
      | cs =>
        match classRange? p.mode cs with
        | some rest => !(p.mode.skip rest).isEmpty && readsFrom fuel p rest
        | none => false

/-- **Whether a text is a pattern.** -/
def reads (s : String) : Bool := readsFrom (s.toList.length + 1) {} s.toList

end JudgeDesk.Pattern
