import SourceAtlas.Text.Printable

/-!
# JSON

Values and their text over several lines, each level two spaces deeper. Everything outside the
printable part of the first 128 code points is written as a number, beyond the first 65536 as a pair
of them.
-/

namespace SourceAtlas

/-- **JSON values.** The fields of an object have an order. -/
inductive JsonValue where
  | null
  | bool (b : Bool)
  | int (n : Int)
  | str (s : String)
  | arr (items : List JsonValue)
  | obj (fields : List (String × JsonValue))

namespace JsonValue

/-- A list of texts. -/
def strs (ss : List String) : JsonValue :=
  .arr (ss.map .str)

/-- One character number. -/
def escapeUnit (n : Nat) : List Char :=
  '\\' :: 'u' :: Text.hexDigits 4 n

/-- **One character between quotes.** -/
def escapeChar (c : Char) : List Char :=
  let n := c.toNat
  if c == '"' then ['\\', '"']
  else if c == '\\' then ['\\', '\\']
  else if c == '\n' then ['\\', 'n']
  else if c == '\r' then ['\\', 'r']
  else if c == '\t' then ['\\', 't']
  else if n == 0x0c then ['\\', 'f']
  else if n == 0x08 then ['\\', 'b']
  else if 0x20 ≤ n && n < 0x7f then [c]
  else if n < 0x10000 then escapeUnit n
  else escapeUnit (0xd800 + (n - 0x10000) / 0x400) ++ escapeUnit (0xdc00 + (n - 0x10000) % 0x400)

/-- A text between quotes. -/
def quote (s : String) : String :=
  String.ofList ('"' :: s.toList.flatMap escapeChar ++ ['"'])

/-- A new line at a depth. -/
def newline (depth : Nat) : String :=
  String.ofList ('\n' :: List.replicate (2 * depth) ' ')

mutual

/-- The text of a value that stands at a depth. -/
def renderAt (depth : Nat) : JsonValue → String
  | .null => "null"
  | .bool b => if b then "true" else "false"
  | .int n => toString n
  | .str s => quote s
  | .arr [] => "[]"
  | .arr (v :: vs) =>
    "[" ++ newline (depth + 1) ++ renderAt (depth + 1) v ++ renderItems (depth + 1) vs ++
      newline depth ++ "]"
  | .obj [] => "\x7b\x7d"
  | .obj ((k, v) :: fields) =>
    "\x7b" ++ newline (depth + 1) ++ quote k ++ ": " ++ renderAt (depth + 1) v ++
      renderFields (depth + 1) fields ++ newline depth ++ "\x7d"

/-- The text of the items after the first. -/
def renderItems (depth : Nat) : List JsonValue → String
  | [] => ""
  | v :: vs => "," ++ newline depth ++ renderAt depth v ++ renderItems depth vs

/-- The text of the fields after the first. -/
def renderFields (depth : Nat) : List (String × JsonValue) → String
  | [] => ""
  | (k, v) :: fields =>
    "," ++ newline depth ++ quote k ++ ": " ++ renderAt depth v ++ renderFields depth fields

end

/-- **The text of a value.** -/
def render (v : JsonValue) : String :=
  renderAt 0 v

end JsonValue

end SourceAtlas
