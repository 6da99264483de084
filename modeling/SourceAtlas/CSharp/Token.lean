import SourceAtlas.Text.Blank
import SourceAtlas.Text.Identifier

/-!
# Tokens of C#

A source is cut into tokens, each with the blanks, comments and idle directives in front of it, so
the text of any stretch of tokens can be given back as it was written.

* `Token` — a word, a literal, a sign or a directive of conditional compilation;
* `Literal` — the forms of text literals, with holes that hold code again;
* `tokens` — the tokens of a source.

Every lexeme is measured by how many characters follow its first one, so that reading on is dropping
that many characters.
-/

namespace SourceAtlas.CSharp

/-- Kinds of token. -/
inductive TokenKind where
  /-- An identifier or a keyword. -/
  | word
  /-- A number, a character or a string. -/
  | literal
  /-- One punctuation character, `=>` or `::`. -/
  | sign
  /-- `#if`. -/
  | condition
  /-- `#elif` or `#else`. -/
  | alternative
  /-- `#endif`. -/
  | conditionEnd
  deriving DecidableEq, Repr

/-- **A token** with what stands between it and the token before. -/
structure Token where
  /-- Blanks, comments and idle directives in front of the token. -/
  before : List Char
  /-- The kind. -/
  kind : TokenKind
  /-- The token as written. -/
  text : List Char
  deriving Repr

/-- Whether a token is the sign with this text. -/
def Token.isSign (t : Token) (text : String) : Bool :=
  t.kind == .sign && t.text == text.toList

/-- Whether a token is the word with this text. -/
def Token.isWord (t : Token) (text : String) : Bool :=
  t.kind == .word && t.text == text.toList

/-! ### Text literals -/

/-- **Where a reader of text literals stands.** Holes of interpolated texts hold code, and code
holds literals, so positions are stacked. -/
inductive Literal where
  /-- Between single or double quotes, where a backslash hides a character. -/
  | quoted (quote : Char)
  /-- Between double quotes, where a doubled quote stands for itself. -/
  | verbatim
  /-- Between double quotes, with holes; doubled braces stand for themselves. -/
  | interpolated (isVerbatim : Bool)
  /-- Between runs of at least three quotes; a hole opens with as many braces as there were dollar
  signs. The last two counts are the quotes and braces just read. -/
  | raw (quotes dollars seenQuotes seenBraces : Nat)
  /-- In a hole that closes with so many braces, inside so many brackets opened in it. -/
  | hole (braces nested : Nat)
  /-- In the format clause of a hole. -/
  | format (braces : Nat)
  deriving Repr

namespace Literal

/-- The literal that opens here, and the length of its opening. -/
def opening? (cs : List Char) : Option (Literal × Nat) :=
  let marks := cs.takeWhile fun c => c == '$' || c == '@'
  let rest := cs.drop marks.length
  let quotes := (rest.takeWhile (· == '"')).length
  let dollars := marks.count '$'
  if quotes = 0 then
    if marks.isEmpty && rest.head? == some '\'' then some (.quoted '\'', 1) else none
  else if marks.contains '@' then
    some (if dollars = 0 then .verbatim else .interpolated true, marks.length + 1)
  else if 3 ≤ quotes then some (.raw quotes dollars 0 0, marks.length + quotes)
  else some (if dollars = 0 then .quoted '"' else .interpolated false, marks.length + 1)

/-- **One step** in a literal at the character `c` before `cs`: the positions that take the place of
this one, and how many characters are taken besides `c`. -/
def step (c : Char) (cs : List Char) : Literal → List Literal × Nat
  | .quoted quote =>
    if c == '\\' then ([.quoted quote], 1) else if c == quote then ([], 0) else ([.quoted quote], 0)
  | .verbatim =>
    if c != '"' then ([.verbatim], 0)
    else if cs.head? == some '"' then ([.verbatim], 1)
    else ([], 0)
  | .interpolated isVerbatim =>
    let here := Literal.interpolated isVerbatim
    let doubled := cs.head? == some c
    -- a doubled quote or brace stands for itself
    if c == '"' then if isVerbatim && doubled then ([here], 1) else ([], 0)
    else if c == '\\' && !isVerbatim then ([here], 1)
    else if c == '{' then if doubled then ([here], 1) else ([.hole 1 0, here], 0)
    else ([here], 0)
  | .raw quotes dollars seenQuotes seenBraces =>
    if c == '"' then
      -- a raw text ends with as many quotes as it started with, and holes open likewise
      if seenQuotes + 1 = quotes then ([], 0) else ([.raw quotes dollars (seenQuotes + 1) 0], 0)
    else if c == '{' && 0 < dollars then
      if seenBraces + 1 = dollars then ([.hole dollars 0, .raw quotes dollars 0 0], 0)
      else ([.raw quotes dollars 0 (seenBraces + 1)], 0)
    else ([.raw quotes dollars 0 0], 0)
  | .hole braces nested =>
    match opening? (c :: cs) with
    | some (inner, width) => ([inner, .hole braces nested], width - 1)
    | none =>
      if c == '(' || c == '[' || c == '{' then ([.hole braces (nested + 1)], 0)
      else if 0 < nested then
        ([.hole braces (if c == ')' || c == ']' || c == '}' then nested - 1 else nested)], 0)
      else if c == '}' then (if braces ≤ 1 then [] else [.hole (braces - 1) 0], 0)
      else if c == ':' then
        if cs.head? == some ':' then ([.hole braces 0], 1) else ([.format braces], 0)
      else ([.hole braces 0], 0)
  | .format braces =>
    if c == '}' then (if braces ≤ 1 then [] else [.format (braces - 1)], 0)
    else ([.format braces], 0)

/-- **How many characters are left of the literals** that are open. -/
def width : List Literal → List Char → Nat
  | [], _ => 0
  | _, [] => 0
  | l :: ls, c :: cs =>
    let (here, extra) := l.step c cs
    1 + min extra cs.length + width (here ++ ls) (cs.drop extra)
termination_by _ cs => cs.length
decreasing_by simp only [List.length_drop, List.length_cons]; omega

end Literal

/-! ### Lexemes -/

/-- Blanks between tokens. The byte order mark is one of them. -/
def isSpace (c : Char) : Bool :=
  (Text.isBlank c && !(0x1c ≤ c.toNat && c.toNat ≤ 0x1f)) || c.toNat == 0xfeff

/-- Characters that go on with a word. A backslash opens a character number. -/
def isWordPart (c : Char) : Bool :=
  Text.isIdentContinuer c || c == '\\'

/-- The length of the rest of a line. -/
def lineWidth (cs : List Char) : Nat :=
  (cs.takeWhile fun c => c != '\n' && c != '\r').length

/-- The length of a comment up to and with its `*/`. -/
def commentWidth : List Char → Nat
  | [] => 0
  | '*' :: '/' :: _ => 2
  | _ :: cs => 1 + commentWidth cs

/-- What a directive is, and its length after `#`. Alternatives and ends take no more than their
word. All but conditional compilation is idle. -/
def directive (cs : List Char) : Option TokenKind × Nat :=
  let gap := cs.takeWhile fun c => c == ' ' || c == '\t'
  let word := (cs.drop gap.length).takeWhile Char.isAlpha
  let short := gap.length + word.length
  match String.ofList word with
  | "if" => (some .condition, lineWidth cs)
  | "elif" => (some .alternative, lineWidth cs)
  | "else" => (some .alternative, short)
  | "endif" => (some .conditionEnd, short)
  | _ => (none, lineWidth cs)

/-- **The lexeme at a character:** its kind, or nothing for what stands between tokens, and how many
characters follow the first one. -/
def lexeme (c : Char) (cs : List Char) : Option TokenKind × Nat :=
  if isSpace c then (none, (cs.takeWhile isSpace).length)
  else if c == '/' && cs.head? == some '/' then (none, lineWidth cs)
  else if c == '/' && cs.head? == some '*' then (none, 1 + commentWidth (cs.drop 1))
  else if c == '#' then directive cs
  else
    match Literal.opening? (c :: cs) with
    | some (l, opened) =>
      (some .literal, opened - 1 + Literal.width [l] (cs.drop (opened - 1)))
    | none =>
      if Text.isDigit c then (some .literal, (cs.takeWhile isWordPart).length)
      else if c == '@' || c == '\\' || Text.isIdentOpener c then
        (some .word, (cs.takeWhile isWordPart).length)
      else if (c == '=' && cs.head? == some '>') || (c == ':' && cs.head? == some ':') then
        (some .sign, 1)
      else (some .sign, 0)

/-- The tokens of a source after what was read since the last token, latest character first. -/
def tokensAfter (before : List Char) : List Char → List Token
  | [] => []
  | c :: cs =>
    match lexeme c cs with
    | (none, n) => tokensAfter ((cs.take n).reverse ++ c :: before) (cs.drop n)
    | (some kind, n) => ⟨before.reverse, kind, c :: cs.take n⟩ :: tokensAfter [] (cs.drop n)
termination_by cs => cs.length
decreasing_by all_goals (simp only [List.length_drop, List.length_cons]; omega)

/-- **The tokens of a source.** What follows the last one is dropped. -/
def tokens (source : List Char) : List Token :=
  tokensAfter [] source

end SourceAtlas.CSharp
