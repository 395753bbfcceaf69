import JudgeDesk.Json.Basic
import JudgeDesk.Binary64.Shortest

/-!
# Writing texts

* `escaped` — the characters of a string between its quotes;
* `render` — a document as a text without any space.
-/

namespace JudgeDesk.Json

/-- A hexadecimal digit in lower case. -/
def hexChar (n : Nat) : Char := if n < 10 then Char.ofNat (48 + n) else Char.ofNat (87 + n)

/-- The characters that stand for one character of a string. Only quotes, backslashes and control
characters are escaped. -/
def escaped (c : Char) : List Char :=
  match c with
  | '"' => ['\\', '"']
  | '\\' => ['\\', '\\']
  | '\n' => ['\\', 'n']
  | '\r' => ['\\', 'r']
  | '\t' => ['\\', 't']
  | '\x08' => ['\\', 'b']
  | '\x0c' => ['\\', 'f']
  | c =>
    if c.toNat < 0x20 then ['\\', 'u', '0', '0', hexChar (c.toNat / 16), hexChar (c.toNat % 16)]
    else [c]

/-- A string between quotes. -/
def quoted (s : String) : String := "\"" ++ String.ofList (s.toList.flatMap escaped) ++ "\""

mutual

/-- **Text of a document.** A fault is written as what there is to pass over. -/
def render : Json → String
  | null => "null"
  | bool b => if b then "true" else "false"
  | int n => toString n
  | real x => if x.isFinite then x.render else "null"
  | string s => quoted s
  | array vs => "[" ++ renderItems vs ++ "]"
  | object ms => "\x7b" ++ renderMembers ms ++ "\x7d"
  | fault _ v => render v

/-- The items of an array, with commas between them. -/
def renderItems : List Json → String
  | [] => ""
  | [v] => render v
  | v :: rest => render v ++ "," ++ renderItems rest

/-- The members of an object, with commas between them. -/
def renderMembers : List (String × Json) → String
  | [] => ""
  | [(k, v)] => quoted k ++ ":" ++ render v
  | (k, v) :: rest => quoted k ++ ":" ++ render v ++ "," ++ renderMembers rest

end

end JudgeDesk.Json
