/-!
# Blank characters

Which characters count as blank, and the operations on texts that rest on it: trimming and splitting
into fields.
-/

namespace SourceAtlas.Text

/-- **Blank characters:** the separators of lines, words and records, and every space of fixed
width. The zero-width space and the byte order mark are not blank. -/
def isBlank (c : Char) : Bool :=
  let n := c.toNat
  (9 ≤ n && n ≤ 13) || (0x1c ≤ n && n ≤ 0x20) || n == 0x85 || n == 0xa0 || n == 0x1680 ||
    (0x2000 ≤ n && n ≤ 0x200a) || n == 0x2028 || n == 0x2029 || n == 0x202f || n == 0x205f ||
    n == 0x3000

/-- Blank characters among the first 128 code points, as patterns restricted to them see it. -/
def isAsciiBlank (c : Char) : Bool :=
  (9 ≤ c.toNat && c.toNat ≤ 13) || c == ' '

/-- Drops the characters of a class from the end. -/
def trimEndWhile (p : Char → Bool) (cs : List Char) : List Char :=
  (cs.reverse.dropWhile p).reverse

/-- Drops the characters of a class from both ends. -/
def trimWhile (p : Char → Bool) (cs : List Char) : List Char :=
  trimEndWhile p (cs.dropWhile p)

/-- Drops blank characters from both ends. -/
def trim (cs : List Char) : List Char :=
  trimWhile isBlank cs

/-- Where no character is of the class, nothing is dropped. -/
theorem dropWhile_eq_self {p : Char → Bool} {cs : List Char} (h : ∀ c ∈ cs, p c = false) :
    cs.dropWhile p = cs := by
  cases cs with
  | nil => rfl
  | cons c cs => rw [List.dropWhile_cons, if_neg (Bool.eq_false_iff.mp (h c List.mem_cons_self))]

theorem trimEndWhile_eq_self {p : Char → Bool} {cs : List Char} (h : ∀ c ∈ cs, p c = false) :
    trimEndWhile p cs = cs := by
  rw [trimEndWhile, dropWhile_eq_self fun c hc => h c (List.mem_reverse.mp hc),
    List.reverse_reverse]

/-- A last character that passes the test is trimmed. -/
theorem trimEndWhile_append_singleton {p : Char → Bool} {c : Char} (hc : p c = true)
    (cs : List Char) : trimEndWhile p (cs ++ [c]) = trimEndWhile p cs := by
  rw [trimEndWhile, List.reverse_append, List.reverse_singleton, List.singleton_append,
    List.dropWhile_cons_of_pos hc, trimEndWhile]

/-- A text without blanks is trimmed already. -/
theorem trim_eq_self {cs : List Char} (h : ∀ c ∈ cs, isBlank c = false) : trim cs = cs := by
  rw [trim, trimWhile, dropWhile_eq_self h, trimEndWhile_eq_self h]

/-- The maximal runs of non-blank characters. -/
def fields (cs : List Char) : List (List Char) :=
  (splitFields cs).filter (· ≠ [])
where
  /-- Cuts at every blank character, keeping empty parts. -/
  splitFields : List Char → List (List Char)
  | [] => [[]]
  | c :: cs =>
    if isBlank c then [] :: splitFields cs
    else
      match splitFields cs with
      | [] => [[c]]
      | part :: parts => (c :: part) :: parts

end SourceAtlas.Text
