import SourceAtlas.Regex.Fault
import SourceAtlas.Regex.CharSet

/-!
# Reading a pattern text

A pattern text is read token by token, where a backslash and the character behind it are one token.
One token is always looked at in advance. A backslash at the very end of the text is therefore found
as soon as the token before it is taken.

`Reading` is the state of a reader: the text still to be read, the flags that hold for the whole
pattern, and what is known about the groups opened so far. `Reads` is the monad of readers, whose
steps may stop with a fault.
-/

namespace SourceAtlas.Regex.Reader

/-- Tokens of a pattern text. -/
inductive Token where
  | plain (c : Char)
  | escaped (c : Char)
  deriving DecidableEq, Repr

/-- The characters of a token. -/
def Token.text : Token → List Char
  | .plain c => [c]
  | .escaped c => ['\\', c]

/-- Flags of a pattern. -/
inductive Flag where
  | ignoreCase
  | locale
  | multiline
  | dotAll
  | verbose
  | ascii
  | template
  | unicode
  deriving DecidableEq, Repr

/-- The flag that a letter stands for. -/
def Flag.ofChar? : Char → Option Flag
  | 'i' => some .ignoreCase
  | 'L' => some .locale
  | 'm' => some .multiline
  | 's' => some .dotAll
  | 'x' => some .verbose
  | 'a' => some .ascii
  | 't' => some .template
  | 'u' => some .unicode
  | _ => none

/-- Flags that choose an alphabet; at most one may be given. -/
def Flag.isAlphabet : Flag → Bool
  | .locale | .ascii | .unicode => true
  | _ => false

/-- The least and the greatest number of characters that a pattern matches. -/
structure Width where
  /-- The least number. -/
  low : Nat
  /-- The greatest number. -/
  high : Nat
  deriving DecidableEq, Repr

/-- Widths are counted up to this bound. -/
def Width.limit : Nat := Nat.pow 2 64

/-- Repetition bounds have to stay below this number. -/
def countLimit : Nat := 4294967295

/-- The state of a reader. -/
structure Reading where
  /-- The token that comes next. -/
  next : Option Token
  /-- The text behind it. -/
  rest : List Char
  /-- The offset of the next token. -/
  pos : Nat
  /-- Flags for the whole pattern. -/
  flags : List Flag
  /-- Numbers of the named groups. -/
  names : List (List Char × Nat)
  /-- Widths of the groups from number one on; an open group has none yet. -/
  widths : List (Option Width)
  /-- Inside a look-behind, the number of groups opened before it, and one more. -/
  behindFrom : Option Nat
  /-- Group numbers that conditions mention, with the place of their first mention. -/
  conditions : List (Nat × Nat)

/-- Readers of pattern texts. -/
abbrev Reads := StateT Reading (Except Fault)

/-- Stops with a reason, at a place some characters before the next token. -/
def refuse {α : Type} (reason : Reason) (back : Nat) : Reads α := do
  throw (.at reason ((← get).pos - back))

/-- Takes one token from a text that starts at an offset. -/
def tokenOf (cs : List Char) (pos : Nat) : Except Fault (Option Token × List Char) :=
  match cs with
  | [] => .ok (none, [])
  | '\\' :: [] => .error (.at .badEscapeAtEnd pos)
  | '\\' :: c :: rest => .ok (some (.escaped c), rest)
  | c :: rest => .ok (some (.plain c), rest)

/-- The state at the start of a pattern. -/
def Reading.start (flags : List Flag) (pattern : List Char) : Except Fault Reading := do
  let (next, rest) ← tokenOf pattern 0
  return { next, rest, pos := 0, flags, names := [], widths := [], behindFrom := none,
           conditions := [] }

/-- Goes on to the token behind the next one. -/
def advance : Reads Unit := do
  let r ← get
  let pos := r.pos + (r.next.map fun t => t.text.length).getD 0
  let (next, rest) ← (tokenOf r.rest pos : Except Fault _)
  set { r with next, rest, pos }

/-- Takes the next token. -/
def take : Reads (Option Token) := do
  let next := (← get).next
  advance
  return next

/-- Takes the next token if it is a given character. -/
def accept (c : Char) : Reads Bool := do
  if (← get).next = some (.plain c) then
    advance
    return true
  else return false

/-- Takes at most `n` characters of a class. -/
def takeWhile (p : Char → Bool) : Nat → Reads (List Char)
  | 0 => return []
  | n + 1 => do
    match (← get).next with
    | some (.plain c) =>
      if p c then
        advance
        return c :: (← takeWhile p n)
      else return []
    | _ => return []

/-- The rest of a name, `read` being what was read of it in reverse order. -/
def nameFrom (terminator : Char) (what : String) (read : List Char) : Nat → Reads (List Char)
  | 0 => refuse .unexpectedEnd 0
  | n + 1 => do
    match ← take with
    | none =>
      if read.isEmpty then refuse (.missing what) 0
      else refuse (.unterminatedName terminator) read.length
    | some (.plain c) =>
      if c = terminator then
        if read.isEmpty then refuse (.missing what) 1 else return read.reverse
      else nameFrom terminator what (c :: read) n
    | some (.escaped c) => nameFrom terminator what (c :: '\\' :: read) n

/-- **Takes a name** up to its terminator, which is taken too. -/
def name (terminator : Char) (what : String) : Reads (List Char) := do
  nameFrom terminator what [] ((← get).rest.length + 2)

/-- Requires a name to be an identifier. -/
def requireIdentifier (isIdentifier : List Char → Bool) (name : List Char) : Reads Unit := do
  if isIdentifier name then return ()
  else refuse (.badNameCharacter name) (name.length + 1)

/-! ### Groups -/

/-- The number of the next group. -/
def Reading.groupCount (r : Reading) : Nat :=
  r.widths.length + 1

/-- Whether a group has been closed. -/
def Reading.isClosed (r : Reading) (index : Nat) : Bool :=
  match index with
  | 0 => false
  | i + 1 => (r.widths[i]?.bind id).isSome

/-- The width of a closed group. -/
def Reading.widthOf (r : Reading) (index : Nat) : Width :=
  match index with
  | 0 => ⟨0, 0⟩
  | i + 1 => (r.widths[i]?.bind id).getD ⟨0, 0⟩

/-- Opens a group and returns its number. -/
def openGroup (groupName : Option (List Char)) : Reads Nat := do
  let r ← get
  let index := r.groupCount
  match groupName with
  | none => set { r with widths := r.widths ++ [none] }
  | some n =>
    match r.names.lookup n with
    | some earlier => refuse (.groupRedefined n index earlier) (n.length + 1)
    | none => set { r with widths := r.widths ++ [none], names := (n, index) :: r.names }
  return index

/-- Closes a group. -/
def closeGroup (index : Nat) (w : Width) : Reads Unit :=
  modify fun r => { r with widths := r.widths.set (index - 1) (some w) }

/-- Inside a look-behind, a group that is referred to must have been closed before it. -/
def requireBefore (index : Nat) : Reads Unit := do
  let r ← get
  match r.behindFrom with
  | none => return ()
  | some bound =>
    if !r.isClosed index then refuse .openGroup 0
    else if bound ≤ index then refuse .groupInSameLookbehind 0
    else return ()

end SourceAtlas.Regex.Reader
