import JudgeDesk.Text.Shown

/-!
# Quoted names

Error messages quote the names that came with a request, so that a blank or an invisible character
in a name can be seen.

* `hexadecimal` — a number in lower-case hexadecimal digits;
* `quoted` — a name between double quotes.
-/

namespace JudgeDesk.Text

/-- A number in lower-case hexadecimal digits, without leading zeros. -/
def hexadecimal (n : Nat) : List Char := Nat.toDigits 16 n

/-- The characters that stand for one character of a quoted name. -/
def shown (c : Char) : List Char :=
  match c with
  | '"' => ['\\', '"']
  | '\\' => ['\\', '\\']
  | '\n' => ['\\', 'n']
  | '\r' => ['\\', 'r']
  | '\t' => ['\\', 't']
  | '\x00' => ['\\', '0']
  | c => if isShown c then [c] else ['\\', 'u', '\x7b'] ++ hexadecimal c.toNat ++ ['\x7d']

/-- **Quoted name.** Quotes, backslashes and what cannot be shown are escaped. -/
def quoted (s : String) : String := "\"" ++ String.ofList (s.toList.flatMap shown) ++ "\""

end JudgeDesk.Text
