/-!
# Blank characters

Form values are typed by hand, so numbers are read after the blanks around them are dropped.

* `isBlank` — the class of blank characters, the Unicode property `White_Space`;
* `trim` — a text without the blanks at its two ends;
* `isBlankText` — a text that holds nothing else.
-/

namespace JudgeDesk.Text

/-- **Blank.** The characters with the Unicode property `White_Space`: the ASCII controls from tab
to carriage return, the space, and the spaces and line separators beyond ASCII. The zero-width
space U+200B and the byte order mark U+FEFF do not count. -/
def isBlank (c : Char) : Bool :=
  let n := c.toNat
  (9 ≤ n && n ≤ 13) || n == 0x20 || n == 0x85 || n == 0xA0 || n == 0x1680 ||
    (0x2000 ≤ n && n ≤ 0x200A) || n == 0x2028 || n == 0x2029 || n == 0x202F || n == 0x205F ||
    n == 0x3000

/-- A list of characters without the blanks at its end. -/
def trimEnd : List Char → List Char
  | [] => []
  | c :: rest =>
    match trimEnd rest with
    | [] => if isBlank c then [] else [c]
    | kept => c :: kept

/-- **Trim.** A text without the blanks at its start and at its end. -/
def trim (s : String) : String :=
  String.ofList (trimEnd (s.toList.dropWhile isBlank))

/-- A text that is empty once trimmed. -/
def isBlankText (s : String) : Bool :=
  s.toList.all isBlank

end JudgeDesk.Text
