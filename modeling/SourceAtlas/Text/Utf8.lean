import SourceAtlas.Text.Printable

/-!
# UTF-8

Bytes are read as characters by the table of well-formed sequences: the first byte says how many
follow and narrows the range of the second. What breaks the table is reported with the bytes at
fault, counted from where reading began.

* `decode` — the characters of some bytes, or the fault;
* `decodeMarked` — the same after an optional byte order mark;
* `unixLines` — one newline for every line ending.
-/

namespace SourceAtlas.Text

/-- Why bytes are not UTF-8. -/
inductive Utf8Reason where
  | invalidStart
  | invalidContinuation
  | unexpectedEnd
  deriving DecidableEq, Repr

/-- The wording of a reason. -/
def Utf8Reason.message : Utf8Reason → String
  | .invalidStart => "invalid start byte"
  | .invalidContinuation => "invalid continuation byte"
  | .unexpectedEnd => "unexpected end of data"

/-- The first bytes that are not UTF-8. -/
structure Utf8Fault where
  /-- The position of the first of them. -/
  position : Nat
  /-- The first of them. -/
  byte : UInt8
  /-- How many there are. -/
  count : Nat
  /-- What is wrong. -/
  reason : Utf8Reason
  deriving DecidableEq, Repr

/-- **The wording of a fault.** -/
def Utf8Fault.message (f : Utf8Fault) : String :=
  let place :=
    if f.count ≤ 1 then
      "byte 0x" ++ String.ofList (hexDigits 2 f.byte.toNat) ++ " in position " ++
        toString f.position
    else
      "bytes in position " ++ toString f.position ++ "-" ++ toString (f.position + f.count - 1)
  "'utf-8' codec can't decode " ++ place ++ ": " ++ f.reason.message

/-- What a first byte opens: how many bytes follow, the range of the second, and the bits it
gives. -/
def leadOf? (b : Nat) : Option (Nat × Nat × Nat × Nat) :=
  if b < 0x80 then some (0, 0, 0, b)
  else if b < 0xc2 then none
  else if b < 0xe0 then some (1, 0x80, 0xbf, b - 0xc0)
  else if b = 0xe0 then some (2, 0xa0, 0xbf, 0)
  else if b = 0xed then some (2, 0x80, 0x9f, 0xd)
  else if b < 0xf0 then some (2, 0x80, 0xbf, b - 0xe0)
  else if b = 0xf0 then some (3, 0x90, 0xbf, 0)
  else if b < 0xf4 then some (3, 0x80, 0xbf, b - 0xf0)
  else if b = 0xf4 then some (3, 0x80, 0x8f, 4)
  else none

/-- Reads `owed` more bytes of a character, the first of them in a range. The error says how many
bytes were good and what is wrong. -/
def tail (owed low high code good : Nat) : List UInt8 → Except (Nat × Utf8Reason) Nat
  | [] => if owed = 0 then .ok code else .error (good, .unexpectedEnd)
  | b :: bs =>
    match owed with
    | 0 => .ok code
    | n + 1 =>
      if low ≤ b.toNat && b.toNat ≤ high then
        tail n 0x80 0xbf (code * 64 + b.toNat % 64) (good + 1) bs
      else .error (good, .invalidContinuation)

/-- Reads characters from a position on. -/
def decodeFrom (position : Nat) : List UInt8 → Except Utf8Fault (List Char)
  | [] => .ok []
  | b :: bs =>
    match leadOf? b.toNat with
    | none => .error ⟨position, b, 1, .invalidStart⟩
    | some (owed, low, high, bits) =>
      match tail owed low high bits 1 bs with
      | .error (good, reason) => .error ⟨position, b, good, reason⟩
      | .ok code => do
        return Char.ofNat code :: (← decodeFrom (position + 1 + owed) (bs.drop owed))
termination_by bs => bs.length
decreasing_by simp only [List.length_drop, List.length_cons]; omega

/-- **The characters of some bytes.** -/
def decode (bytes : List UInt8) : Except Utf8Fault (List Char) :=
  decodeFrom 0 bytes

/-- **The characters after an optional byte order mark.** A mark that is cut short at the end of the
bytes is dropped too. -/
def decodeMarked (bytes : List UInt8) : Except Utf8Fault (List Char) :=
  match bytes with
  | [0xef] | [0xef, 0xbb] => .ok []
  | 0xef :: 0xbb :: 0xbf :: rest => decode rest
  | _ => decode bytes

/-- One newline for every line ending. -/
def unixLines : List Char → List Char
  | [] => []
  | '\r' :: '\n' :: cs => '\n' :: unixLines cs
  | '\r' :: cs => '\n' :: unixLines cs
  | c :: cs => c :: unixLines cs

/-- The bytes of a text. -/
def encode (s : String) : List UInt8 :=
  s.toUTF8.toList

end SourceAtlas.Text
