import SourceAtlas.Regex.Escape
import SourceAtlas.Text.Identifier

/-!
# Repetition signs, flags and group openers in a pattern text

What follows a part to repeat it, and what follows an opening parenthesis to say which kind of group
it opens.
-/

namespace SourceAtlas.Regex.Reader

/-! ### Repetition -/

/-- The number that a repetition bound spells, which must be neither too long nor too large. -/
def countOf (digits : List Char) : Reads Nat :=
  if digitLimit < digits.length then throw (.countTooLong digits.length)
  else
    let count := numberOf 10 digits
    if countLimit ≤ count then throw .countTooLarge else return count

/-- The bounds of a repetition whose first sign was just taken, or nothing if a brace turns out to
stand for itself. -/
def repetitionBounds (sign : Char) : Reads (Option (Nat × Option Nat)) := do
  match sign with
  | '?' => return some (0, some 1)
  | '*' => return some (0, none)
  | '+' => return some (1, none)
  | _ =>
    let start ← get
    -- empty braces are no count
    if start.next = some (.plain '}') then return none
    else
      let digits := start.rest.length + 1
      let low ← takeWhile Char.isDigit digits
      let high ← if ← accept ',' then takeWhile Char.isDigit digits else pure low
      if ← accept '}' then
        let least ← countOf low
        if high.isEmpty then return some (least, none)
        else
          let most ← countOf high
          if most < least then refuse .boundsReversed ((← get).pos - start.pos)
          else return some (least, some most)
      else
        -- the brace stands for itself, and reading goes on behind it
        set start
        return none

/-- The name of a repetition mode where repetitions are forbidden. -/
def Greed.operator : Greed → String
  | .greedy => "MAX_REPEAT"
  | .reluctant => "MIN_REPEAT"
  | .possessive => "POSSESSIVE_REPEAT"

/-- The repetition of a piece. -/
def repeatPiece (forbidden : Bool) (mode : Greed) (least : Nat) (most : Option Nat) (p : Piece) :
    Piece :=
  let high :=
    match most with
    | none => if p.width.high = 0 then 0 else Width.limit
    | some m => p.width.high * m
  { node := .rep mode least most p.node
    width := ⟨p.width.low * least, high⟩
    late := (if forbidden then [.repetitionForbidden (Greed.operator mode)] else []) ++ p.late
    role := .repetition }

/-- The mode of a repetition, by the sign behind it. -/
def greed : Reads Greed := do
  if ← accept '?' then return .reluctant
  else if ← accept '+' then return .possessive
  else return .greedy

/-- **Applies a repetition** to the last piece; `here` is the offset behind its first sign. -/
def repetition (here : Nat) (least : Nat) (most : Option Nat) (pieces : List Piece) :
    Reads (List Piece) := do
  let back := (← get).pos - here + 1
  match pieces with
  | [] => refuse .nothingToRepeat back
  | p :: ps =>
    match p.role with
    | .anchor => refuse .nothingToRepeat back
    | .repetition => refuse .multipleRepeat back
    | .item =>
      let mode ← greed
      let forbidden := (← get).flags.contains .template
      return repeatPiece forbidden mode least most p :: ps

/-! ### Flags -/

/-- Changes of flags at the start of a group. -/
inductive FlagChange where
  /-- For the whole pattern. -/
  | whole
  /-- For the group. -/
  | scoped (on off : List Flag)

/-- The flag of a token, which is a letter. -/
def Flag.ofToken? : Token → Option Flag
  | .plain c => Flag.ofChar? c
  | .escaped _ => none

/-- Whether a token is a single letter of any script. -/
def Token.isLetter : Token → Bool
  | .plain c => Text.isLetter c
  | .escaped _ => false

/-- Flags to turn on, from one that was just taken, and the sign that ends them. -/
def flagsOn (f : Flag) (on : List Flag) : Nat → Reads (List Flag × Char)
  | 0 => refuse .unexpectedEnd 0
  | n + 1 => do
    if f = .locale then refuse .localeFlag 0
    else
      let on := on ++ [f]
      -- one group of letters may not name two alphabets; two groups may, until all is read
      if f.isAlphabet && on.any fun g => g.isAlphabet && g != f then refuse .exclusiveFlags 0
      else
        match ← take with
        | none => refuse (.missing "-, : or )") 0
        | some t =>
          match t, Flag.ofToken? t with
          | .plain ')', _ => return (on, ')')
          | .plain '-', _ => return (on, '-')
          | .plain ':', _ => return (on, ':')
          | _, some g => flagsOn g on n
          | _, none =>
            if t.isLetter then refuse .unknownFlag t.text.length
            else refuse (.missing "-, : or )") t.text.length

/-- Flags to turn off, from one that was just taken, up to the colon. -/
def flagsOff (f : Flag) (off : List Flag) : Nat → Reads (List Flag)
  | 0 => refuse .unexpectedEnd 0
  | n + 1 => do
    if f.isAlphabet then refuse .flagNotSwitchable 0
    else
      let off := off ++ [f]
      match ← take with
      | none => refuse (.missing ":") 0
      | some t =>
        match t, Flag.ofToken? t with
        | .plain ':', _ => return off
        | _, some g => flagsOff g off n
        | _, none =>
          if t.isLetter then refuse .unknownFlag t.text.length
          else refuse (.missing ":") t.text.length

/-- **The flags of a group** whose first sign, a letter or a minus, was just taken. -/
def flagChange (first : Option Flag) : Reads FlagChange := do
  let fuel := (← get).rest.length + 3
  let (on, sign) ←
    match first with
    | some f => flagsOn f [] fuel
    | none => pure ([], '-')
  if sign = ')' then
    -- flags without a group of their own are for the whole pattern
    modify fun r => { r with flags := r.flags ++ on }
    return .whole
  else if on.contains .template then refuse .globalFlagOn 1
  else
    let off ←
      if sign = '-' then
        match ← take with
        | none => refuse (.missing "flag") 0
        | some t =>
          match Flag.ofToken? t with
          | some f => flagsOff f [] fuel
          | none =>
            if t.isLetter then refuse .unknownFlag t.text.length
            else refuse (.missing "flag") t.text.length
      else pure []
    if off.contains .template then refuse .globalFlagOff 1
    else if on.any off.contains then refuse .flagOnAndOff 1
    else return .scoped on off

/-! ### Groups -/

/-- What the signs behind an opening parenthesis announce. -/
inductive GroupKind where
  /-- A comment, a reference or flags for the whole pattern; all is read already. -/
  | done (piece : Option Piece)
  /-- A group that remembers, possibly under a name. -/
  | capture (name : Option (List Char))
  /-- A group that does not remember, with changes of flags. -/
  | plain (on off : List Flag)
  /-- An atomic group. -/
  | atomic
  /-- Look-ahead. -/
  | ahead (positive : Bool)
  /-- Look-behind. -/
  | behind (positive : Bool)
  /-- A condition on a group. -/
  | condition (index : Nat)

/-- Skips a comment up to its closing parenthesis; `start` is the offset of the opening one. -/
def skipComment (start : Nat) : Nat → Reads Unit
  | 0 => refuse .unexpectedEnd 0
  | n + 1 => do
    match (← get).next with
    | none => refuse .unterminatedComment ((← get).pos - start)
    | some t =>
      advance
      if t = .plain ')' then return () else skipComment start n

/-- Skips a comment of a verbose pattern up to the end of its line. -/
def skipLine : Nat → Reads Unit
  | 0 => return ()
  | n + 1 => do
    match ← take with
    | none => return ()
    | some t => if t = .plain '\n' then return () else skipLine n

/-- Digits of any script with single underscores between them, if they are not too many. -/
def digitsValue? (cs : List Char) : Option Nat :=
  let rec go (n : Nat) (lastDigit : Bool) : List Char → Option Nat
    | [] => if lastDigit then some n else none
    | c :: cs =>
      if c = '_' then if lastDigit then go n false cs else none
      else (Text.digitValue? c).bind fun d => go (10 * n + d) true cs
  if digitLimit < cs.countP (· != '_') then none else go 0 false cs

/-- A group number in a condition: digits, with blanks around and a plus sign before allowed. A
minus sign is allowed before zero. -/
def conditionNumber? (cs : List Char) : Option Nat :=
  match Text.trim cs with
  | '+' :: ds => digitsValue? ds
  | '-' :: ds => (digitsValue? ds).filter (· = 0)
  | ds => digitsValue? ds

/-- The group that a condition asks for. -/
def conditionGroup : Reads Nat := do
  let n ← name ')' "group name"
  let index ←
    if Text.isIdentifier n then
      match (← get).names.lookup n with
      | some index => pure index
      | none => refuse (.unknownGroupName n) (n.length + 1)
    else
      match conditionNumber? n with
      | none => refuse (.badNameCharacter n) (n.length + 1)
      | some 0 => refuse .badGroupNumber (n.length + 1)
      | some index =>
        if 1073741823 ≤ index then refuse (.invalidGroupReference index) (n.length + 1)
        else
          -- the group may come later, so it is looked for when all is read
          modify fun r =>
            if r.conditions.any fun c => c.1 == index then r
            else { r with conditions := r.conditions ++ [(index, r.pos - n.length - 1)] }
          pure index
  requireBefore index
  return index

/-- The rest of a group opener with a letter `P`: a named group or a reference by name. -/
def namedGroup (scope : Scope) : Reads GroupKind := do
  if ← accept '<' then
    let n ← name '>' "group name"
    requireIdentifier Text.isIdentifier n
    return .capture (some n)
  else if ← accept '=' then
    let n ← name ')' "group name"
    requireIdentifier Text.isIdentifier n
    match (← get).names.lookup n with
    | none => refuse (.unknownGroupName n) (n.length + 1)
    | some index => return .done (some (← groupReference scope index (n.length + 1)))
  else
    match ← take with
    | none => refuse .unexpectedEnd 0
    | some t => refuse (.unknownExtension ('P' :: t.text)) (t.text.length + 2)

/-- **The opener of a group** whose parenthesis was just taken. `atStart` says that nothing of the
pattern stands before it. -/
def groupKind (scope : Scope) (atStart : Bool) : Reads GroupKind := do
  let start := (← get).pos - 1
  if ← accept '?' then
    match ← take with
    | none => refuse .unexpectedEnd 0
    | some t =>
      match t with
      | .plain 'P' => namedGroup scope
      | .plain ':' => return .plain [] []
      | .plain '#' =>
        skipComment start ((← get).rest.length + 3)
        return .done none
      | .plain '=' => return .ahead true
      | .plain '!' => return .ahead false
      | .plain '<' =>
        match ← take with
        | none => refuse .unexpectedEnd 0
        | some (.plain '=') => return .behind true
        | some (.plain '!') => return .behind false
        | some u => refuse (.unknownExtension ('<' :: u.text)) (u.text.length + 2)
      | .plain '(' => return .condition (← conditionGroup)
      | .plain '>' => return .atomic
      | t =>
        if t = .plain '-' || (Flag.ofToken? t).isSome then
          match ← flagChange (Flag.ofToken? t) with
          | .whole =>
            -- flags for the whole pattern stand in front of everything else
            if atStart then return .done none
            else refuse .flagsNotAtStart ((← get).pos - start)
          | .scoped on off => return .plain on off
        else refuse (.unknownExtension t.text) (t.text.length + 1)
  else return .capture none

/-- Requires that reading may go on at this level. -/
def requireLevel (level : Nat) : Reads Unit :=
  if levelLimit < level then throw .tooDeep else return ()

/-- Requires the closing parenthesis of a group that opened at offset `start`. -/
def requireClose (start : Nat) : Reads Unit := do
  if ← accept ')' then return ()
  else refuse .unterminatedGroup ((← get).pos - start)

/-- A look-around. -/
def lookPiece (node : Regex) (late : List Fault) : Piece :=
  { node, width := ⟨0, 0⟩, late, role := .item }

/-- Faults of a look-behind with a body of some width. -/
def lookbehindFaults (w : Width) : List Fault :=
  if countLimit < w.low then [.lookbehindTooFar]
  else if w.low ≠ w.high then [.lookbehindWidth]
  else []

end SourceAtlas.Regex.Reader
