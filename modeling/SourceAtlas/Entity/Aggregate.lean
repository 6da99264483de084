import SourceAtlas.Distinct
import SourceAtlas.Entity.Basic

/-!
# Merging discoveries

Files are extracted independently of each other, and one declaration is often found by more than one
pattern. `aggregate` merges what the files gave: of entities with the same key the first counts, and
the result is in the order of `Entity.sortKey`, so it does not depend on which file was read first.
-/

namespace SourceAtlas

/-- **Keeps the first entity of each key.** -/
def deduplicate (entities : List Entity) : List Entity :=
  keepNew [] entities
where
  /-- Keeps entities whose key was not seen yet, the first of each. -/
  keepNew (seen : List (String × String × String)) : List Entity → List Entity
  | [] => []
  | e :: es =>
    if seen.contains e.key then keepNew seen es else e :: keepNew (e.key :: seen) es

/-- Lexicographic order by code points on lists of strings. -/
def keyLe : List String → List String → Bool
  | [], _ => true
  | _ :: _, [] => false
  | a :: as, b :: bs => if a = b then keyLe as bs else decide (a < b)

/-- The order of entities. -/
def Entity.le (a b : Entity) : Bool :=
  keyLe a.sortKey b.sortKey

/-- **Merges the discoveries of several files** into one ordered list without repetition. -/
def aggregate (partials : List (List Entity)) : List Entity :=
  (deduplicate partials.flatten).mergeSort Entity.le

end SourceAtlas
