import SourceAtlas.Regex.Cursor

/-!
# Backtracking search

`run r s k` matches the pattern `r` at the state `s` and hands every way of doing so, in order of
preference, to the continuation `k` until one succeeds. The state holds the place in the text and
what the groups have matched; since it is a value, giving up a choice also gives up its groups.

A repetition goes on only from a place behind the one where its last round started. A round that
consumed nothing ends the repetition, so a repetition of something that can be empty ends too.

* `matchAt` — the preferred match at a place;
* `search` — the first place with a match;
* `findAll` — all matches from left to right. They do not overlap; an empty match may touch the one
  before it, and a place that gave an empty match may still give a longer one.
-/

namespace SourceAtlas.Regex

/-- What a group has matched: the places where it starts and ends. -/
structure Capture where
  /-- Where the group starts. -/
  start : Cursor
  /-- Where it ends. -/
  stop : Cursor
  deriving DecidableEq, Repr

/-- The text of a group. -/
def Capture.text (c : Capture) : List Char :=
  c.start.textTo c.stop

/-- A stage of a match: the place reached and the groups matched on the way, latest first. -/
structure State where
  /-- The place reached. -/
  cursor : Cursor
  /-- Groups by number, latest first. -/
  captures : List (Nat × Capture)
  deriving DecidableEq, Repr

namespace State

/-- What a group has matched last. -/
def capture? (s : State) (index : Nat) : Option Capture :=
  s.captures.lookup index

/-- Moves to another place. -/
def moveTo (s : State) (c : Cursor) : State :=
  { s with cursor := c }

/-- Notes what a group has matched. -/
def remember (s : State) (index : Nat) (c : Capture) : State :=
  { s with captures := (index, c) :: s.captures }

end State

/-- What follows a match. -/
abbrev Continuation := State → Option State

/-- A matcher: tries its ways in order until the continuation accepts one. -/
abbrev Matcher := State → Continuation → Option State

/-- One less, where there is a bound. -/
def oneLess (most : Option Nat) : Option Nat :=
  most.map (· - 1)

/-- The rounds of a repetition after the required ones, as many as possible. -/
def rounds (body : Matcher) (most : Option Nat) (s : State) (k : Continuation) : Option State :=
  if most = some 0 then k s
  else
    (body s fun s' =>
      if s'.cursor.left < s.cursor.left then rounds body (oneLess most) s' k else k s')
    <|> k s
termination_by s.cursor.left

/-- The rounds of a repetition after the required ones, as few as possible. -/
def roundsFew (body : Matcher) (most : Option Nat) (s : State) (k : Continuation) : Option State :=
  k s <|>
    if most = some 0 then none
    else
      body s fun s' =>
        if s'.cursor.left < s.cursor.left then roundsFew body (oneLess most) s' k else k s'
termination_by s.cursor.left

/-- The rounds of a repetition after the required ones, as many as possible and for good: each round
is matched in its first way only. -/
def roundsAll (body : Matcher) (most : Option Nat) (s : State) : State :=
  if most = some 0 then s
  else
    match body s some with
    | none => s
    | some s' => if s'.cursor.left < s.cursor.left then roundsAll body (oneLess most) s' else s'
termination_by s.cursor.left

/-- The required rounds of a repetition. -/
def required (body : Matcher) : Nat → State → Continuation → Option State
  | 0, s, k => k s
  | n + 1, s, k => body s fun s' => required body n s' k

/-- The required rounds of a repetition, each matched in its first way only. -/
def requiredAll (body : Matcher) : Nat → State → Option State
  | 0, s => some s
  | n + 1, s => (body s some).bind (requiredAll body n)

/-- The upper bound of a repetition once the required rounds are done. -/
def beyond (least : Nat) (most : Option Nat) : Option Nat :=
  most.map (· - least)

/-- A repetition. -/
def repeated (body : Matcher) (mode : Greed) (least : Nat) (most : Option Nat) : Matcher :=
  fun s k =>
    match mode with
    | .greedy => required body least s fun s' => rounds body (beyond least most) s' k
    | .reluctant => required body least s fun s' => roundsFew body (beyond least most) s' k
    | .possessive =>
      (requiredAll body least s).bind fun s' => k (roundsAll body (beyond least most) s')

/-- **Backtracking match.** -/
def run : Regex → Matcher
  | .empty => fun s k => k s
  | .char test => fun s k =>
    match s.cursor.next? with
    | some (ch, c) => if test ch then k (s.moveTo c) else none
    | none => none
  | .seq first second => fun s k => run first s fun s' => run second s' k
  | .alt first second => fun s k => run first s k <|> run second s k
  | .rep mode least most body => repeated (run body) mode least most
  | .group index body => fun s k =>
    run body s fun s' => k (s'.remember index ⟨s.cursor, s'.cursor⟩)
  -- the first way of the body is taken for good
  | .atomic body => fun s k => (run body s some).bind k
  -- what a look-around captured is kept, the place is not
  | .ahead positive body => fun s k =>
    match run body s some with
    | some s' => if positive then k (s'.moveTo s.cursor) else none
    | none => if positive then none else k s
  | .behind positive width body => fun s k =>
    match (s.cursor.back? width).bind fun c => run body (s.moveTo c) some with
    | some s' => if positive then k (s'.moveTo s.cursor) else none
    | none => if positive then none else k s
  | .backref index same => fun s k =>
    match s.capture? index with
    | some c =>
      match s.cursor.read? same c.text with
      | some c' => k (s.moveTo c')
      | none => none
    | none => none
  | .ifGroup index yes no => fun s k =>
    match s.capture? index with
    | some _ => run yes s k
    | none => run no s k
  | .anchor test => fun s k => if s.cursor.satisfies test then k s else none

/-! ### Matches -/

/-- A match: where it starts, and the state it ends in. -/
structure Match where
  /-- Where the match starts. -/
  start : Cursor
  /-- The state at its end. -/
  final : State
  deriving DecidableEq, Repr

namespace Match

/-- Offset of the first character. -/
def startPos (m : Match) : Nat :=
  m.start.pos

/-- Offset one past the last character. -/
def endPos (m : Match) : Nat :=
  m.final.cursor.pos

/-- The text matched. -/
def text (m : Match) : List Char :=
  m.start.textTo m.final.cursor

/-- What a group matched; group zero is the whole match. -/
def group? (m : Match) : Nat → Option (List Char)
  | 0 => some m.text
  | index => (m.final.capture? index).map Capture.text

end Match

/-- **The preferred match at a place** whose end is acceptable. -/
def matchAt (r : Regex) (accept : Cursor → Bool) (c : Cursor) : Option Match :=
  (run r ⟨c, []⟩ fun s => if accept s.cursor then some s else none).map fun s => ⟨c, s⟩

/-- The first match at or behind a place, `before` and `pos` describing what was passed. -/
def searchFrom (r : Regex) (before : List Char) (pos left : Nat) : List Char → Option Match
  | [] => matchAt r (fun _ => true) ⟨before, [], pos, left⟩
  | ch :: rest =>
    matchAt r (fun _ => true) ⟨before, ch :: rest, pos, left⟩
    <|> searchFrom r (ch :: before) (pos + 1) (left - 1) rest

/-- **The first match in a text.** -/
def search (r : Regex) (text : List Char) : Option Match :=
  searchFrom r [] 0 text.length text

/-- The matches that start at one place: one, or an empty one and a longer one. -/
def matchesAt (r : Regex) (c : Cursor) : List Match :=
  match matchAt r (fun _ => true) c with
  | none => []
  | some m =>
    if m.endPos ≠ c.pos then [m]
    else
      match matchAt r (fun e => e.pos ≠ c.pos) c with
      | none => [m]
      | some longer => [m, longer]

/-- Where the search goes on after the matches at one place. -/
def resumeAfter (pos : Nat) (ms : List Match) : Nat :=
  match ms.getLast? with
  | none => pos + 1
  | some m => if m.endPos ≠ pos then m.endPos else pos + 1

/-- All matches at or behind a place, none of them starting before offset `resume`. -/
def findAllFrom (r : Regex) (before : List Char) (pos left resume : Nat) :
    List Char → List Match
  | [] => if pos < resume then [] else matchesAt r ⟨before, [], pos, left⟩
  | ch :: rest =>
    if pos < resume then findAllFrom r (ch :: before) (pos + 1) (left - 1) resume rest
    else
      let found := matchesAt r ⟨before, ch :: rest, pos, left⟩
      found ++
        findAllFrom r (ch :: before) (pos + 1) (left - 1) (resumeAfter pos found) rest

/-- **All matches in a text,** from left to right. -/
def findAll (r : Regex) (text : List Char) : List Match :=
  findAllFrom r [] 0 text.length 0 text

/-- Whether the whole text matches. -/
def matchesWhole (r : Regex) (text : List Char) : Bool :=
  (matchAt r (fun e => e.after.isEmpty) (Cursor.start text)).isSome

/-- Whether a match starts at the start of the text. -/
def matchesStart (r : Regex) (text : List Char) : Bool :=
  (matchAt r (fun _ => true) (Cursor.start text)).isSome

end SourceAtlas.Regex
