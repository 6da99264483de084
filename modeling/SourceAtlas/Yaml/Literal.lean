import SourceAtlas.Text.Case
import SourceAtlas.Text.Numeral
import SourceAtlas.Text.Split
import SourceAtlas.Yaml.Node

/-!
# Numbers, truth values and dates

What the text of a scalar says under its tag. A plain scalar got its tag by its form, so most of
what can go wrong here comes from a tag that was written; but a date may have a month that no year
has.

* `integer` — integers in four bases, and to the base sixty;
* `checkFloat`, `checkTimestamp`, `checkBinary` — whether a text is a number, a point in time or
  encoded bytes; which one it is does not matter to anybody;
* `truth` — truth values.
-/

namespace SourceAtlas.Yaml

/-- The text without underscores. -/
def withoutUnderscores (cs : List Char) : List Char :=
  cs.filter (· != '_')

/-- Cuts a sign off a numeral, which must not be empty. -/
def cutSign (cs : List Char) : Except Fault (Bool × List Char) :=
  match cs with
  | [] => .error .emptyNumeral
  | c :: rest => .ok (c == '-', if c == '-' || c == '+' then rest else cs)

/-- The value of a digit in any base up to sixteen. -/
def digitIn? (c : Char) : Option Nat :=
  if isHex c then some (hexValue [c]) else Text.digitValue? c

/-- The value of some digits to a base, if all are digits. -/
def digitsValue? (base : Nat) (cs : List Char) : Option Nat :=
  cs.foldl (fun acc c => do
    let n ← acc
    let d ← digitIn? c
    if d < base then some (n * base + d) else none) (some 0)

/-- The letter that may stand behind a zero before a numeral in this base. -/
def baseLetter? (base : Nat) : Option Char :=
  match base with
  | 2 => some 'b'
  | 8 => some 'o'
  | 16 => some 'x'
  | _ => none

/-- A numeral without its base mark. -/
def withoutMark (base : Nat) (cs : List Char) : List Char :=
  match cs with
  | '0' :: c :: rest => if baseLetter? base == some c.toLower && !rest.isEmpty then rest else cs
  | _ => cs

/-- A numeral in a base, with blanks around it and a sign of its own. -/
def numeral (base : Nat) (cs : List Char) : Except Fault Int :=
  let trimmed := Text.trim cs
  let negative := trimmed.head? == some '-'
  let unsigned := if negative || trimmed.head? == some '+' then trimmed.drop 1 else trimmed
  let digits := withoutMark base unsigned
  match digits, digitsValue? base digits with
  | _ :: _, some n =>
    if base = 10 && digitLimit < digits.length then .error (.tooManyDigits digits.length)
    else .ok (if negative then -n else n)
  | _, _ => .error (.notInteger base cs)

/-- The value of numerals to the base sixty, the last one first. -/
def sixtieths : List Int → Int
  | [] => 0
  | n :: rest => n + 60 * sixtieths rest

/-- The size of an integer, by what is behind its sign. -/
def magnitude (digits : List Char) : Except Fault Int :=
  match digits with
  | [] => .error .emptyNumeral
  | ['0'] => .ok 0
  | '0' :: 'b' :: rest => numeral 2 rest
  | '0' :: 'x' :: rest => numeral 16 rest
  | '0' :: _ => numeral 8 digits
  | _ =>
    if digits.contains ':' then
      (fun places => sixtieths places.reverse) <$> (Text.splitOn ':' digits).mapM (numeral 10)
    else numeral 10 digits

/-- **The integer that a text says.** -/
def integer (cs : List Char) : Except Fault Int := do
  let (negative, digits) ← cutSign (withoutUnderscores cs)
  let size ← magnitude digits
  return if negative then -size else size

/-- Numbers with a point or an exponent, in lower case. -/
def numberForm : Regex :=
  open Regex in
  cat [Tag.sign, oneOf [
    cat [oneOf [cat [plus Tag.digit, opt (cat [lit '.', star Tag.digit])],
        cat [lit '.', plus Tag.digit]],
      opt (cat [lit 'e', Tag.sign, plus Tag.digit])],
    text "infinity", text "inf", text "nan"]]

/-- Whether a text is a number. -/
def checkNumber (cs : List Char) : Except Fault Unit :=
  let plain := (Text.trim cs).map fun c =>
    match Text.digitValue? c with
    | some n => Char.ofNat (48 + n)
    | none => c
  if numberForm.matchesWhole plain then .ok () else .error (.notNumber cs)

/-- How many places a floating point number to the base sixty may have: with one more, the weight of
the first is beyond the greatest such number. -/
def placeLimit : Nat := 174

/-- **Whether a text is a floating point number.** -/
def checkFloat (cs : List Char) : Except Fault Unit := do
  let (_, number) ← cutSign (Text.lowerText (withoutUnderscores cs))
  if number == ".inf".toList || number == ".nan".toList then return ()
  else if number.contains ':' then
    let places := Text.splitOn ':' number
    places.forM checkNumber
    if placeLimit < places.length then throw .tooManyPlaces
  else checkNumber number

/-- **The truth value that a text says.** -/
def truth (cs : List Char) : Except Fault Bool :=
  let low := Text.lowerText cs
  match String.ofList low with
  | "yes" | "true" | "on" => .ok true
  | "no" | "false" | "off" => .ok false
  | _ => .error (.notTruthValue low)

/-! ### Encoded bytes -/

/-- Whether a character carries six bits. -/
def isSixBits (c : Char) : Bool :=
  c.isAlphanum || c == '+' || c == '/'

/-- Whether groups of four end well, from a place in a group and the padding just read. -/
def endsGroup (place pads : Nat) : List Char → Bool
  | [] => place == 0
  | c :: cs =>
    if c == '=' then
      if 2 ≤ place then 4 ≤ place + pads + 1 || endsGroup place (pads + 1) cs
      else endsGroup place pads cs
    else if isSixBits c then endsGroup ((place + 1) % 4) 0 cs
    else endsGroup place pads cs

/-- **Whether a text is bytes,** four characters for three of them. -/
def checkBinary (cs : List Char) : Except Fault Unit :=
  if cs.all (·.toNat < 128) && endsGroup 0 0 cs then .ok () else .error .unreadable

/-! ### Dates and times -/

/-- A day, and a time with an offset behind it, in groups: year, month, day, hour, minute, second,
offset sign, offset hours, offset minutes. -/
def timestampGroups : Regex :=
  open Regex Tag in
  let upToTwo := cat [digit, opt digit]
  let two := cat [digit, digit]
  cat [.group 1 (cat [two, two]), lit '-', .group 2 upToTwo, lit '-', .group 3 upToTwo,
    opt (cat [oneOf [among "Tt", plus (among " \t")],
      .group 4 upToTwo, lit ':', .group 5 two, lit ':', .group 6 two,
      opt (cat [lit '.', star digit]),
      opt (cat [star (among " \t"), oneOf [lit 'Z',
        cat [.group 7 (among "-+"), .group 8 upToTwo, opt (cat [lit ':', .group 9 two])]]])]),
    .anchor .lastLineEnd]

/-- Whether a year has a leap day. -/
def isLeap (year : Nat) : Bool :=
  (year % 4 == 0 && year % 100 != 0) || year % 400 == 0

/-- How many days a month has. -/
def daysIn (year month : Nat) : Nat :=
  if month == 2 then if isLeap year then 29 else 28
  else if [4, 6, 9, 11].contains month then 30
  else 31

/-- Whether there is such a day. -/
def checkDay (year month day : Nat) : Except Fault Unit := do
  if year = 0 then throw (.year year)
  if month < 1 || 12 < month then throw .month
  if day < 1 || daysIn year month < day then throw .day

/-- Whether there is such a time. -/
def checkTime (hour minute second : Nat) : Except Fault Unit := do
  if 23 < hour then throw .hour
  if 59 < minute then throw .minute
  if 59 < second then throw .second

/-- Whether an offset is less than a day. -/
def checkOffset (seconds : Int) : Except Fault Unit :=
  if seconds ≤ -86400 || 86400 ≤ seconds then throw (.offset seconds) else pure ()

/-- **Whether a text is a point in time.** -/
def checkTimestamp (cs : List Char) : Except Fault Unit :=
  match timestampGroups.matchAt (fun _ => true) (.start cs) with
  | none => .error .notDate
  | some m => do
    let field (i : Nat) : Nat := (((m.group? i).bind (digitsValue? 10))).getD 0
    if (m.group? 4).isSome then
      match m.group? 7 with
      | some sign =>
        let size : Int := (field 8 * 3600 + field 9 * 60 : Nat)
        checkOffset (if sign == ['-'] then -size else size)
      | none => pure ()
      checkDay (field 1) (field 2) (field 3)
      checkTime (field 4) (field 5) (field 6)
    else checkDay (field 1) (field 2) (field 3)

/-! ### Wording -/

/-- The text of a span of time, as days and the seconds beyond them. -/
def spanText (seconds : Int) : String :=
  let days := seconds / 86400
  let left := seconds % 86400
  let parts := (if days = 0 then [] else ["days=" ++ toString days]) ++
    (if left = 0 then [] else ["seconds=" ++ toString left])
  "datetime.timedelta(" ++ (if parts.isEmpty then "0" else Text.joinWith ", " parts) ++ ")"

/-- **The wording of a fault.** A document that is unreadable needs none. -/
def Fault.message : Fault → String
  | .unreadable => ""
  | .noSuchCharacter => "chr() arg not in range(0x110000)"
  | .numberTooLarge => "Python int too large to convert to C int"
  | .notInteger base text =>
    "invalid literal for int() with base " ++ toString base ++ ": " ++
      String.ofList ((Text.quoted text).take 200)
  | .tooManyDigits count => SourceAtlas.tooManyDigits count
  | .notNumber text => "could not convert string to float: " ++ String.ofList (Text.quoted text)
  | .tooManyPlaces => "int too large to convert to float"
  | .emptyNumeral => "string index out of range"
  | .notTruthValue text => String.ofList (Text.quoted text)
  | .notDate => "'NoneType' object has no attribute 'groupdict'"
  | .notText => "expected string or bytes-like object, got 'list'"
  | .year number => "year " ++ toString number ++ " is out of range"
  | .month => "month must be in 1..12"
  | .day => "day is out of range for month"
  | .hour => "hour must be in 0..23"
  | .minute => "minute must be in 0..59"
  | .second => "second must be in 0..59"
  | .offset seconds =>
    "offset must be a timedelta strictly between -timedelta(hours=24) and " ++
      "timedelta(hours=24), not " ++ spanText seconds ++ "."
  | .tooDeep => SourceAtlas.tooDeep

end SourceAtlas.Yaml
