import SourceAtlas.Text.Letter
import SourceAtlas.Text.Numeral

/-!
# Word characters

A word character is a letter, a numeral or the underscore. Word boundaries are the places where a
word character and something else meet.
-/

namespace SourceAtlas.Text

/-- **Word characters** among the first 128 code points. -/
def isAsciiWord (c : Char) : Bool :=
  c.isAlphanum || c == '_'

/-- **Word characters** of any script. -/
def isWord (c : Char) : Bool :=
  if c.toNat < 0x80 then isAsciiWord c else isLetter c || isNumeral c

@[simp] theorem isWord_of_ascii {c : Char} (h : c.toNat < 0x80) : isWord c = isAsciiWord c := by
  simp [isWord, h]

end SourceAtlas.Text
