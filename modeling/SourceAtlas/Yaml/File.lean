import SourceAtlas.Text.Utf8
import SourceAtlas.Yaml.Value

/-!
# Documents in files

A file is decoded while its document is read. Its bytes are taken in chunks, and bytes that are no
text end the reading when their chunk is taken; by then the chunks before it have been read, and one
of them may have ended the reading already.

* `Refusal` — why a file gives no value, sorted by who is to blame;
* `Value.ofBytes` — the value of the document in the bytes of a file.
-/

namespace SourceAtlas.Yaml

/-- **Why a file gives no value.** Readers have faults of their own; the other three kinds are known
to everybody who reads files. -/
inductive Refusal (ε : Type) where
  /-- The system does not give the file. -/
  | inaccessible
  /-- The bytes are no text. -/
  | undecodable
  /-- The text is no document. -/
  | malformed
  /-- A fault of the reader's own. -/
  | other (fault : ε)
  deriving DecidableEq, Repr

/-- The kind of a fault. -/
def Refusal.ofFault : Fault → Refusal Fault
  | .unreadable => .malformed
  | f => .other f

/-- How many bytes are decoded at a time. -/
def chunkSize : Nat := 8192

/-- The bytes that have been decoded when a fault is found. A first byte is at fault by itself, a
later one by what comes behind it, and an unexpected end is found behind all bytes. -/
def decodedBefore (bytes : List UInt8) (f : Text.Utf8Fault) : List UInt8 :=
  match f.reason with
  | .invalidStart => bytes.take (f.position / chunkSize * chunkSize)
  | .invalidContinuation => bytes.take ((f.position + f.count) / chunkSize * chunkSize)
  | .unexpectedEnd => bytes.take f.position

/-- The characters that some bytes begin with. -/
def charactersOf (bytes : List UInt8) : List Char :=
  match Text.decode bytes with
  | .ok text => text
  | .error f => (Text.decode (bytes.take f.position)).toOption.getD []

/-- What ends the reading of a document that breaks off behind a text. -/
def faultBefore (text : List Char) : Fault :=
  match Graph.ofText text false with
  | .error f => f
  | .ok _ => .unreadable

/-- **The value of the document in the bytes of a file.** -/
def Value.ofBytes (bytes : List UInt8) : Except (Refusal Fault) Value :=
  match Text.decode bytes with
  | .ok text => (Value.ofText (Text.unixLines text)).mapError Refusal.ofFault
  | .error f =>
    let text := Text.unixLines (charactersOf (decodedBefore bytes f))
    match faultBefore (text.take (takenBefore text.length)) with
    | .unreadable => .error .undecodable
    | fault => .error (.other fault)

end SourceAtlas.Yaml
