import SourceAtlas.Text.Blank
import SourceAtlas.Text.Split

/-!
# Balanced blocks in raw source text

An extractor that knows no grammar finds where a body ends by looking for the first `{` or `(` after
a signature and walking to its partner. Comments and string literals are stepped over, and only the
kind of delimiter that opened the block is counted, so a brace body may hold unbalanced parentheses.

* `afterCloser` — what follows the partner of an open delimiter, or nothing if it never closes;
* `opening?` — the block that opens before a statement ends;
* `blockEnd?`, `blockContents?`, `braceContents?` — the views that the extractors use.

Texts are lists of code points, and every function works on what is still to be read. Offsets are
differences of lengths.
-/

namespace SourceAtlas.Block

/-- The two kinds of block. -/
inductive Delimiter where
  | brace
  | paren
  deriving DecidableEq, Repr

/-- The character that opens a block. -/
def Delimiter.opener : Delimiter → Char
  | .brace => '{'
  | .paren => '('

/-- The character that closes a block. -/
def Delimiter.closer : Delimiter → Char
  | .brace => '}'
  | .paren => ')'

/-- The kind of block that a character opens. -/
def Delimiter.ofOpener? (c : Char) : Option Delimiter :=
  if c = '{' then some .brace else if c = '(' then some .paren else none

/-- Characters that open a string literal, and close the one they opened. -/
def isQuote (c : Char) : Bool :=
  c == '\'' || c == '"' || c == '\x60'

/-! ### Stepping over comments and strings -/

/-- What follows a line comment. The newline that ends it is not part of it. -/
def afterLineComment : List Char → List Char
  | [] => []
  | c :: cs => if c = '\n' then c :: cs else afterLineComment cs

/-- What follows the first `*/`, or nothing if there is none. -/
def afterBlockComment : List Char → List Char
  | [] => []
  | c :: cs =>
    match c, cs with
    | '*', '/' :: rest => rest
    | _, _ => afterBlockComment cs

/-- What follows the closing quote. A backslash hides the one character after it. -/
def afterQuoted (quote : Char) : List Char → List Char
  | [] => []
  | c :: cs =>
    if c = '\\' then
      match cs with
      | [] => []
      | _ :: rest => afterQuoted quote rest
    else if c = quote then cs
    else afterQuoted quote cs

/-- Skipping a line comment leaves no more than there was. -/
theorem length_afterLineComment_le (cs : List Char) :
    (afterLineComment cs).length ≤ cs.length := by
  fun_induction afterLineComment cs <;> grind

theorem length_afterBlockComment_le (cs : List Char) :
    (afterBlockComment cs).length ≤ cs.length := by
  fun_induction afterBlockComment cs <;> grind

theorem length_afterQuoted_le (quote : Char) (cs : List Char) :
    (afterQuoted quote cs).length ≤ cs.length := by
  fun_induction afterQuoted quote cs <;> grind

/-! ### The partner of an open delimiter -/

/-- **The partner of an open delimiter.** Reads the text after an opener inside which `depth`
further openers are still open, and returns what follows the closer that brings the block to its
end. -/
def afterCloser (d : Delimiter) (depth : Nat) : List Char → Option (List Char)
  | [] => none
  | c :: cs =>
    if c = d.opener then afterCloser d (depth + 1) cs
    else if c = d.closer then
      match depth with
      | 0 => some cs
      | depth + 1 => afterCloser d depth cs
    else if c = '/' ∧ cs.head? = some '/' then afterCloser d depth (afterLineComment cs)
    else if c = '/' ∧ cs.head? = some '*' then afterCloser d depth (afterBlockComment (cs.drop 1))
    else if isQuote c then afterCloser d depth (afterQuoted c cs)
    else afterCloser d depth cs
termination_by cs => cs.length
decreasing_by
  all_goals simp only [List.length_cons]
  · omega
  · omega
  · have := length_afterLineComment_le cs; omega
  · have := length_afterBlockComment_le (cs.drop 1); simp only [List.length_drop] at this; omega
  · have := length_afterQuoted_le c cs; omega
  · omega

/-! ### Blocks -/

/-- A block that was found: what stands before its opener, its kind, the text between its
delimiters, and whether it closes. A block that never closes runs to the end of the text. -/
structure Found where
  /-- Number of characters before the opener. -/
  skipped : Nat
  /-- Kind of block. -/
  delimiter : Delimiter
  /-- The text between the delimiters. -/
  contents : List Char
  /-- Whether the closing delimiter was found. -/
  closed : Bool
  deriving DecidableEq, Repr

/-- Number of characters from where the search started to just past the block. -/
def Found.stop (b : Found) : Nat :=
  b.skipped + 1 + b.contents.length + (if b.closed then 1 else 0)

/-- The block whose opener was just read, `cs` being the text after it. -/
def Found.ofOpener (skipped : Nat) (d : Delimiter) (cs : List Char) : Found :=
  match afterCloser d 0 cs with
  | some rest =>
    { skipped, delimiter := d, contents := cs.take (cs.length - rest.length - 1), closed := true }
  | none => { skipped, delimiter := d, contents := cs, closed := false }

/-- A statement ends at a semicolon or at the end of its line. -/
def endsStatement (c : Char) : Bool :=
  c == ';' || c == '\n'

/-- The block that opens in the statement that `cs` starts with, `skipped` characters having been
passed already. -/
def openingFrom? (skipped : Nat) : List Char → Option Found
  | [] => none
  | c :: cs =>
    match Delimiter.ofOpener? c with
    | some d => some (Found.ofOpener skipped d cs)
    | none => if endsStatement c then none else openingFrom? (skipped + 1) cs

/-- **The block that opens before the statement ends**, if there is one. -/
def opening? (cs : List Char) : Option Found :=
  openingFrom? 0 cs

/-- The offset of the opening delimiter of the block that follows `start`. -/
def blockStart? (text : List Char) (start : Nat) : Option Nat :=
  (opening? (text.drop start)).map fun b => start + b.skipped

/-- **The offset one past the block that follows `start`.** -/
def blockEnd? (text : List Char) (start : Nat) : Option Nat :=
  (opening? (text.drop start)).map fun b => start + b.stop

/-- **The text between the delimiters of the block that follows `start`.** -/
def blockContents? (text : List Char) (start : Nat) : Option (List Char) :=
  (opening? (text.drop start)).map Found.contents

/-- **The text inside the first brace block at or after `start`.** Unlike `blockContents?`, the
brace may stand on a later line, as in a class whose brace is written below its name. -/
def braceContents? (text : List Char) (start : Nat) : Option (List Char) :=
  match (text.drop start).dropWhile (· ≠ '{') with
  | [] => none
  | _ :: cs => some (Found.ofOpener 0 .brace cs).contents

/-! ### Lists of parts -/

/-- Splits a raw parameter list at its commas, trims the parts and drops the empty ones. Commas
inside brackets split too. -/
def splitParameters (text : List Char) : List (List Char) :=
  ((Text.splitOn ',' text).map Text.trim).filter (· ≠ [])

end SourceAtlas.Block
