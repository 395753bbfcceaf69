import JudgeDesk.Charset.CodePage
import JudgeDesk.Charset.Utf16
import JudgeDesk.Charset.Japanese
import JudgeDesk.Charset.Korean
import JudgeDesk.Charset.Gb18030
import JudgeDesk.Charset.Big5

/-!
# Charsets

What comes in as bytes may be text in one of many charsets. Bytes that stand for nothing become
replacement characters.

* `Charset` — the charsets;
* `Charset.chars` — the characters of bytes in a charset;
* `Charset.text` — the text of bytes that may begin with a byte order mark.
-/

namespace JudgeDesk

/-- **A charset.** -/
inductive Charset where
  /-- UTF-8 -/
  | utf8
  /-- UTF-16, the lower or the higher byte of a unit first -/
  | utf16 (littleEndian : Bool)
  /-- one in which every byte is a character -/
  | page (page : CodePage)
  /-- GB 18030 -/
  | gb18030
  /-- Big5 -/
  | big5
  /-- EUC-JP -/
  | eucJp
  /-- ISO-2022-JP -/
  | iso2022Jp
  /-- Shift_JIS -/
  | shiftJis
  /-- EUC-KR -/
  | eucKr
  /-- one of those that are not read, for they hide characters from those who only look at ASCII -/
  | unread
  /-- ASCII with characters for private use in the upper half -/
  | userDefined
  deriving DecidableEq, Repr

namespace Charset

/-- The character of a byte in ASCII with characters for private use. -/
def userChar (b : UInt8) : Char :=
  if b < 0x80 then Char.ofNat b.toNat else Char.ofNat (0xF780 + b.toNat - 0x80)

/-- **The characters of bytes** in a charset. -/
def chars : Charset → Bytes → List Char
  | utf8, bs => Text.lossyFrom none bs
  | utf16 littleEndian, bs => Charset.fromUtf16 littleEndian bs
  | page p, bs => bs.map p.char
  | gb18030, bs => Charset.fromGb18030 bs
  | big5, bs => Charset.fromBig5 bs
  | eucJp, bs => Charset.fromEucJp bs
  | iso2022Jp, bs => Charset.fromIso2022Jp bs
  | shiftJis, bs => Charset.fromShiftJis bs
  | eucKr, bs => Charset.fromEucKr bs
  | unread, bs => if bs.isEmpty then [] else [Text.replacement]
  | userDefined, bs => bs.map userChar

/-- **The text of bytes.** A byte order mark at the start says how the text is written, whatever
the charset, and is not part of it. -/
def text (c : Charset) : Bytes → String
  | 0xEF :: 0xBB :: 0xBF :: rest => String.ofList (chars utf8 rest)
  | 0xFE :: 0xFF :: rest => String.ofList (chars (utf16 false) rest)
  | 0xFF :: 0xFE :: rest => String.ofList (chars (utf16 true) rest)
  | bs => String.ofList (chars c bs)

end Charset

end JudgeDesk
