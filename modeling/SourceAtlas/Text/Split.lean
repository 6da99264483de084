/-!
# Cutting and joining texts

Cutting at a separator, joining with one, occurrence of a text in another, and replacing it there.
-/

namespace SourceAtlas.Text

/-- Cuts a text at every occurrence of a separator; `n` separators give `n + 1` parts. -/
def splitOn (sep : Char) : List Char → List (List Char)
  | [] => [[]]
  | c :: cs =>
    if c == sep then [] :: splitOn sep cs
    else
      match splitOn sep cs with
      | [] => [[c]]
      | part :: parts => (c :: part) :: parts

/-- Whether a text occurs in another. -/
def occursIn (needle : List Char) : List Char → Bool
  | [] => needle.isEmpty
  | c :: cs => needle.isPrefixOf (c :: cs) || occursIn needle cs

/-- A text with another one replaced wherever it is met from left to right. What is replaced is not
empty. -/
def replaceAll (old new : List Char) : List Char → List Char
  | [] => []
  | c :: rest =>
    if old.isPrefixOf (c :: rest) then new ++ replaceAll old new (rest.drop (old.length - 1))
    else c :: replaceAll old new rest
termination_by text => text.length

/-- Where the old text stands, the new one is put in its place. -/
theorem replaceAll_append {old : List Char} (hold : old ≠ []) (new rest : List Char) :
    replaceAll old new (old ++ rest) = new ++ replaceAll old new rest := by
  obtain ⟨c, old, rfl⟩ := List.exists_cons_of_ne_nil hold
  rw [List.cons_append, replaceAll, if_pos, List.length_cons, Nat.add_sub_cancel, List.drop_left]
  exact List.isPrefixOf_iff_prefix.mpr (List.prefix_append _ rest)

/-- Where it does not, one character is kept. -/
theorem replaceAll_cons {old : List Char} {c : Char} {rest : List Char}
    (h : ¬old <+: c :: rest) (new : List Char) :
    replaceAll old new (c :: rest) = c :: replaceAll old new rest := by
  rw [replaceAll, if_neg (mt List.isPrefixOf_iff_prefix.mp h)]

/-- Puts a separator between strings. -/
def joinWith (sep : String) : List String → String
  | [] => ""
  | [s] => s
  | s :: rest => s ++ sep ++ joinWith sep rest

end SourceAtlas.Text
