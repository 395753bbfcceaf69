/-!
# Bytes of texts

What comes from outside is bytes. A text is read from them as UTF-8; wherever they are no UTF-8 the
text gets a replacement character.

* `bytes` — the bytes of a text;
* `lossy` — the text of any bytes.
-/

namespace JudgeDesk

/-- Bytes, as they come from outside. -/
abbrev Bytes := List UInt8

namespace Text

/-- The bytes of a text. -/
def bytes (s : String) : Bytes := s.toList.flatMap String.utf8EncodeChar

/-- The character that stands for what cannot be read. -/
def replacement : Char := '\uFFFD'

/-- A character of which some bytes were read and some are still missing. -/
structure Unfinished where
  /-- the value of the bytes read so far -/
  value : Nat
  /-- the least that the next byte may be -/
  least : Nat
  /-- the greatest that the next byte may be -/
  greatest : Nat
  /-- how many bytes are missing after the next one -/
  missing : Nat

/-- What the first byte of a character says: the character itself, or what has to follow. The
second byte has a smaller range where the character would be written too long, would be half of a
surrogate pair, or would not exist. -/
def leadByte (b : Nat) : Option (Char ⊕ Unfinished) :=
  if b < 0x80 then some (.inl (Char.ofNat b))
  else if b < 0xC2 then none
  else if b < 0xE0 then some (.inr ⟨b - 0xC0, 0x80, 0xBF, 0⟩)
  else if b = 0xE0 then some (.inr ⟨0, 0xA0, 0xBF, 1⟩)
  else if b = 0xED then some (.inr ⟨0xD, 0x80, 0x9F, 1⟩)
  else if b < 0xF0 then some (.inr ⟨b - 0xE0, 0x80, 0xBF, 1⟩)
  else if b = 0xF0 then some (.inr ⟨0, 0x90, 0xBF, 2⟩)
  else if b < 0xF4 then some (.inr ⟨b - 0xF0, 0x80, 0xBF, 2⟩)
  else if b = 0xF4 then some (.inr ⟨4, 0x80, 0x8F, 2⟩)
  else none

/-- The characters that a first byte completes, and the character that it begins. -/
def begin (b : UInt8) : List Char × Option Unfinished :=
  match leadByte b.toNat with
  | some (.inl c) => ([c], none)
  | some (.inr u) => ([], some u)
  | none => ([replacement], none)

/-- The characters that a byte completes, and the character that is unfinished after it. A byte
that does not fit ends the unfinished character and begins the next one. -/
def feed (u : Option Unfinished) (b : UInt8) : List Char × Option Unfinished :=
  match u with
  | none => begin b
  | some u =>
    if u.least ≤ b.toNat ∧ b.toNat ≤ u.greatest then
      let value := u.value * 0x40 + b.toNat % 0x40
      match u.missing with
      | 0 => ([Char.ofNat value], none)
      | missing + 1 => ([], some ⟨value, 0x80, 0xBF, missing⟩)
    else
      let (done, next) := begin b
      (replacement :: done, next)

/-- The characters of bytes that follow an unfinished character. -/
def lossyFrom (u : Option Unfinished) : Bytes → List Char
  | [] => if u.isSome then [replacement] else []
  | b :: rest =>
    let (done, next) := feed u b
    done ++ lossyFrom next rest

/-- **The text of any bytes.** The longest beginning of a character that breaks off, and every byte
that fits nowhere, is one replacement character. -/
def lossy (bs : Bytes) : String := String.ofList (lossyFrom none bs)

end Text

end JudgeDesk
