import JudgeDesk.Log.Level
import JudgeDesk.Log.Pattern
import JudgeDesk.Binary64.Decimal
import JudgeDesk.Text.Quoted

/-!
# Which events are logged

A filter is a list of directives with commas between them. A directive says down to which level the
events of a target are logged, or those of all targets, or those that tell a field.

* `LogDirective`, `LogDirective.ofText` — one directive, or why it does not read;
* `LogFilter`, `LogFilter.ofText` — a filter, and `LogFilter.readable` — as much as reads of it;
* `LogFilter.allows` — whether an event is logged.
-/

namespace JudgeDesk

/-- **A directive.** -/
structure LogDirective where
  /-- the beginning of the targets that it is for; none for all targets -/
  target : Option String := none
  /-- the rank of the last level that is logged -/
  rank : Nat := Level.trace.rank
  /-- the field that events must tell -/
  field : Option String := none
  /-- whether it is only for events inside spans; the program's own events are in none -/
  spansOnly : Bool := false
  deriving DecidableEq, Repr

/-- Why a directive does not read. -/
inductive DirectiveFault where
  /-- it does not have the form of a directive -/
  | form
  /-- there is no such level -/
  | level
  /-- the value of a field is asked for with something that is no pattern -/
  | pattern
  /-- a piece of it starts or ends at a byte inside a character; nothing is read after that -/
  | torn (atStart : Bool) (index : Nat) (c : Char) (start : Nat)
  deriving DecidableEq, Repr

namespace DirectiveFault

/-- The report of a fault. -/
def message : DirectiveFault → String
  | form => "invalid filter directive"
  | level => "error parsing level filter: expected one of \"off\", \"error\", \"warn\", " ++
      "\"info\", \"debug\", \"trace\", or a number 0-5"
  | pattern => "invalid field filter: error building NFA"
  | torn atStart index c start =>
    (if atStart then "start" else "end") ++ " byte index " ++ Text.decimal index ++
      " is not a char boundary; it is inside '" ++ String.ofList (Text.shown c) ++ "' (bytes " ++
      Text.decimal start ++ ".." ++ Text.decimal (start + c.utf8Size) ++ " of string)"

/-- Whether nothing is read after a fault. -/
def isTear : DirectiveFault → Bool
  | torn _ _ _ _ => true
  | _ => false

end DirectiveFault

namespace LogDirective

/-- A text in lower case, as far as it is ASCII. -/
def lower (s : String) : String := String.ofList (s.toList.map Char.toLower)

/-- The rank of the level that a text names, in letters of any case or as a number; nothing is
logged down to rank zero. -/
def rank? (s : String) : Option Nat :=
  match Text.unsigned? 6 s with
  | some n => some n
  | none =>
    match lower s with
    | "off" => some 0
    | "error" => some 1
    | "warn" => some 2
    | "info" => some 3
    | "debug" => some 4
    | "trace" => some 5
    | _ => none

/-! ### Pieces of a directive

A directive is looked through without the blanks around it, but its pieces are taken from the whole
text by the bytes that were counted. Blanks in front of it therefore shift all pieces. -/

/-- The character around a place inside it, and where it starts; `start` is that of the first. -/
def around? (index start : Nat) : List Char → Option (Char × Nat)
  | [] => none
  | c :: rest =>
    if index ≤ start then none
    else if index < start + c.utf8Size then some (c, start)
    else around? index (start + c.utf8Size) rest

/-- What follows a number of bytes. -/
def dropBytes (n : Nat) : List Char → List Char
  | [] => []
  | c :: rest => if n = 0 then c :: rest else dropBytes (n - c.utf8Size) rest

/-- What stands in a number of bytes. -/
def takeBytes (n : Nat) : List Char → List Char
  | [] => []
  | c :: rest => if n = 0 then [] else c :: takeBytes (n - c.utf8Size) rest

/-- The piece from one place of a text to another. -/
def piece (cs : List Char) (low high : Nat) : Except DirectiveFault String :=
  match around? low 0 cs, around? high 0 cs with
  | some (c, start), _ => .error (.torn true low c start)
  | none, some (c, start) => .error (.torn false high c start)
  | none, none => .ok (String.ofList (takeBytes (high - low) (dropBytes low cs)))

/-- The size of a text in bytes. -/
def size (cs : List Char) : Nat := cs.foldl (fun n c => n + c.utf8Size) 0

/-! ### Reading a directive -/

/-- What a place of a directive belongs to, and where that starts. -/
inductive Stage where
  /-- nothing yet -/
  | start
  /-- a target, or a level on its own -/
  | word
  /-- the name of a span -/
  | span (start : Nat)
  /-- a field of a span -/
  | field (start : Nat)
  /-- the end of the fields -/
  | fields
  /-- the end of a span -/
  | spanned
  /-- a level -/
  | level (start : Nat)
  deriving DecidableEq, Repr

/-- Whether a directive may start with a character. -/
def mayStart (c : Char) : Bool := Text.isAlphanumeric c || c == '-' || c == ':' || c == '_'

/-- The directive for a field of spans. A field that is asked for with a value says nothing about
events outside spans. -/
def withField (d : LogDirective) (field : String) : Except DirectiveFault LogDirective :=
  let name := field.toList.takeWhile (· ≠ '=')
  match field.toList.dropWhile (· ≠ '=') with
  | [] => if field = "" then .error .form else .ok { d with field := some field }
  | _ :: value =>
    let value := String.ofList (value.takeWhile (· ≠ '='))
    if (Binary64.ofText? value).isSome || Pattern.reads value then
      .ok { d with field := some (String.ofList name), spansOnly := true }
    else .error .pattern

/-- **One character** of a directive, which stands at some byte, with the text that pieces are taken
from. -/
def step (cs : List Char) (index : Nat) (c : Char) (d : LogDirective) (stage : Stage) :
    Except DirectiveFault (LogDirective × Stage) :=
  match stage, c with
  | .start, '[' => .ok (d, .span (index + 1))
  | .start, c => if mayStart c then .ok (d, .word) else .error .form
  | .word, '=' => do return ({ d with target := some (← piece cs 0 index) }, .level (index + 1))
  | .word, '[' => do return ({ d with target := some (← piece cs 0 index) }, .span (index + 1))
  | .span start, ']' => do
    let _ ← piece cs start index
    return ({ d with spansOnly := true }, .spanned)
  | .span start, '\x7b' => do
    let name ← piece cs start index
    return ({ d with spansOnly := name ≠ "" }, .field (index + 1))
  | .field start, '\x7d' => do
    let d ← d.withField (← piece cs start index)
    return (d, .fields)
  | .fields, ']' => .ok (d, .spanned)
  | .fields, _ => .error .form
  | .spanned, '=' => .ok (d, .level (index + 1))
  | .spanned, _ => .error .form
  | stage, _ => .ok (d, stage)

/-- The end of a directive. Without a level everything is logged. -/
def finish (cs : List Char) (d : LogDirective) : Stage → Except DirectiveFault LogDirective
  | .word => do
    let word ← piece cs 0 (size cs)
    match rank? word with
    | some rank => return { d with rank }
    | none => return { d with target := some word }
  | .level start => do
    let level ← piece cs start (size cs)
    match level, rank? level with
    | "", _ => return d
    | _, some rank => return { d with rank }
    | _, none => .error .level
  | .spanned => .ok d
  | _ => .error .form

/-- The directive of what is left of a text from some byte on. -/
def scan (cs : List Char) (index : Nat) (d : LogDirective) (stage : Stage) :
    List Char → Except DirectiveFault LogDirective
  | [] => finish cs d stage
  | c :: rest => do
    let (d, stage) ← step cs index c d stage
    scan cs (index + c.utf8Size) d stage rest

/-- **The directive of a text**: a target and a level with an equals sign between them, or one of
the two; a span may stand after the target or in its place. -/
def ofText (s : String) : Except DirectiveFault LogDirective :=
  scan s.toList 0 {} .start (Text.trim s).toList

/-! ### Which directive counts -/

/-- How narrow a directive is: the length of the beginning that it asks for. -/
def narrowness (d : LogDirective) : Nat := (d.target.map (·.utf8ByteSize + 1)).getD 0

/-- Whether a directive is for the events of a target that tell some fields and are in no span. -/
def covers (d : LogDirective) (target : String) (fields : List String) : Bool :=
  !d.spansOnly && (d.target.all fun start => start.toList.isPrefixOf target.toList) &&
    d.field.all fields.contains

/-- Whether a directive counts less than another one for the same event: it is not as narrow, or it
asks for no field, or for one that comes earlier in the order of texts. -/
def countsLess (d other : LogDirective) : Bool :=
  d.narrowness < other.narrowness || (d.narrowness = other.narrowness &&
    match d.field, other.field with
    | none, some _ => true
    | some name, some otherName => name < otherName
    | _, none => false)

end LogDirective

/-- **A filter**: directives in the order in which they were given. -/
abbrev LogFilter := List LogDirective

namespace LogFilter

/-- The pieces of a text between commas, empty ones left out. -/
def pieces (s : String) : List String := (s.splitOn ",").filter (· ≠ "")

/-- What is logged where nothing is said: errors. -/
def orDefault (f : LogFilter) : LogFilter :=
  if f.isEmpty then [{ rank := Level.error.rank }] else f

/-- The filter of a text, if all its directives read. -/
def ofText (s : String) : Except DirectiveFault LogFilter :=
  ((pieces s).mapM LogDirective.ofText).map orDefault

/-- The directives of pieces that read, the reports of those that do not, and the fault after which
nothing is read. -/
def readableFrom : List String → LogFilter × List String × Option DirectiveFault
  | [] => ([], [], none)
  | piece :: rest =>
    let (directives, reports, tear) := readableFrom rest
    match LogDirective.ofText piece with
    | .ok d => (d :: directives, reports, tear)
    | .error fault =>
      if fault.isTear then ([], [], some fault)
      else (directives, ("ignoring `" ++ piece ++ "`: " ++ fault.message) :: reports, tear)

/-- **As much as reads** of a filter. -/
def readable (s : String) : LogFilter × List String × Option DirectiveFault :=
  let (directives, reports, tear) := readableFrom (pieces s)
  (orDefault directives, reports, tear)

/-- The one that counts of two directives for an event; of two that count the same, the later
one. -/
def narrower (target : String) (fields : List String) (best : Option LogDirective)
    (d : LogDirective) : Option LogDirective :=
  if !d.covers target fields then best
  else
    match best with
    | none => some d
    | some b => if d.countsLess b then some b else some d

/-- **Whether an event is logged**: the narrowest directive for its target and fields decides. -/
def allows (f : LogFilter) (target : String) (fields : List String) (level : Level) : Bool :=
  match f.foldl (narrower target fields) none with
  | some d => level.rank ≤ d.rank
  | none => false

end LogFilter

end JudgeDesk
