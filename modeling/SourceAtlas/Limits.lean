/-!
# Limits

How much is read of what is written. A decimal numeral may have so many digits, and what is read by
readers that call each other may be nested so deep; beyond that reading fails, whatever is written
there.

* `digitLimit` — digits of a numeral;
* `levelLimit` — levels of readers inside each other.
-/

namespace SourceAtlas

/-- Decimal numerals with more digits than this are not read; leading zeros count. -/
def digitLimit : Nat := 4300

/-- What is said of a numeral with too many digits. -/
def tooManyDigits (count : Nat) : String :=
  "Exceeds the limit (" ++ toString digitLimit ++
    " digits) for integer string conversion: value has " ++ toString count ++
    " digits; use sys.set_int_max_str_digits() to increase the limit"

/-- How many levels of readers may be inside each other, if their callers take as few levels as they
can. The group of a pattern and the collection of a document take two levels, the condition of a
pattern takes one. -/
def levelLimit : Nat := 990

/-- What is said of nesting that is too deep. -/
def tooDeep : String :=
  "maximum recursion depth exceeded while calling a Python object"

end SourceAtlas
