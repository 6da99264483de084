import SourceAtlas.Display.Cells
import SourceAtlas.Text.Split

/-!
# Tables

A table has a title, columns with headings, and rows of texts. A column is as wide as its widest
line, with a space on both sides; a text of several lines makes its row as high. The title is
centred over the table.
-/

namespace SourceAtlas.Display

/-- A column. -/
structure Column where
  /-- The heading. -/
  heading : String
  /-- Whether texts stand at the right. -/
  isRight : Bool := false

/-- **A table.** -/
structure Table where
  /-- The title. -/
  title : String
  /-- The columns. -/
  columns : List Column
  /-- The rows, each with a text for every column. -/
  rows : List (List String)

/-- Some columns with texts at the left. -/
def leftColumns (headings : List String) : List Column :=
  headings.map fun heading => { heading }

/-- A run of one character. -/
def run (c : Char) (n : Nat) : List Char :=
  List.replicate n c

/-- Whether a text looks like a tag from its opening bracket on: a letter or sign that opens tags,
and the closing bracket before another opening one. -/
def looksLikeTag : List Char → Bool
  | '[' :: c :: cs =>
    (('a' ≤ c && c ≤ 'z') || c == '#' || c == '/' || c == '@') &&
      (cs.dropWhile fun d => d != ']' && d != '[').head? == some ']'
  | _ => false

/-- A text without the backslashes before brackets that open no tag. -/
def withoutEscapes : List Char → List Char
  | [] => []
  | c :: cs =>
    if c == '\\' && cs.head? == some '[' && !looksLikeTag cs then withoutEscapes cs
    else c :: withoutEscapes cs

/-- **How a text is shown.** It is literal, except that a backslash before a bracket that opens no
tag is left out, and that a single backslash at the end is doubled. -/
def shown (cs : List Char) : List Char :=
  match cs.reverse with
  | '\\' :: '\\' :: _ => withoutEscapes cs
  | '\\' :: _ => withoutEscapes cs ++ ['\\']
  | _ => withoutEscapes cs

/-- The lines of a text. -/
def linesOf (s : String) : List (List Char) :=
  Text.splitOn '\n' (shown s.toList)

/-- A line with spaces up to a width. -/
def pad (isRight : Bool) (width : Nat) (line : List Char) : List Char :=
  let gap := run ' ' (width - cells line)
  if isRight then gap ++ line else line ++ gap

/-- The characters that a border line is made of: left, fill, between columns, right. -/
structure Border where
  /-- At the left. -/
  left : Char
  /-- Along the columns. -/
  fill : Char
  /-- Between columns. -/
  between : Char
  /-- At the right. -/
  right : Char

/-- Puts something between parts. -/
def joined (between : List Char) : List (List Char) → List Char
  | [] => []
  | [p] => p
  | p :: ps => p ++ between ++ joined between ps

namespace Table

/-- The line over the headings. -/
def top : Border := ⟨'┏', '━', '┳', '┓'⟩

/-- The line under the headings. -/
def middle : Border := ⟨'┡', '━', '╇', '┩'⟩

/-- The line under the rows. -/
def bottom : Border := ⟨'└', '─', '┴', '┘'⟩

/-- The widths of the columns. -/
def widths (t : Table) : List Nat :=
  (t.columns.zipIdx).map fun (column, i) =>
    let texts := column.heading :: t.rows.map fun row => row.getD i ""
    ((texts.flatMap linesOf).map cells).foldl max 0

/-- A border line over columns of these widths. -/
def borderLine (b : Border) (ws : List Nat) : List Char :=
  b.left :: joined [b.between] (ws.map fun w => run b.fill (w + 2)) ++ [b.right]

/-- The lines of a row between bars. -/
def rowLines (bar : Char) (columns : List Column) (ws : List Nat) (row : List String) :
    List (List Char) :=
  let texts := row.map linesOf
  let height := (texts.map List.length).foldl max 1
  (List.range height).map fun i =>
    let parts := (columns.zip (ws.zip texts)).map fun (column, w, lines) =>
      ' ' :: pad column.isRight w (lines.getD i []) ++ [' ']
    bar :: joined [bar] parts ++ [bar]

/-- The title over a table of a width. -/
def titleLine (title : List Char) (width : Nat) : List Char :=
  let gap := width - cells title
  run ' ' (gap / 2) ++ title ++ run ' ' (gap - gap / 2)

/-- **The lines of a table.** -/
def lines (t : Table) : List (List Char) :=
  let ws := t.widths
  let above := borderLine top ws
  [titleLine t.title.toList above.length, above] ++
    rowLines '┃' t.columns ws (t.columns.map Column.heading) ++
    [borderLine middle ws] ++
    t.rows.flatMap (rowLines '│' t.columns ws) ++
    [borderLine bottom ws]

/-- **The text of a table.** -/
def render (t : Table) : String :=
  String.ofList (t.lines.flatMap fun line => line ++ ['\n'])

end Table

end SourceAtlas.Display
