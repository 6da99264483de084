/-!
# Lists without repetition

`distinct` keeps the first of equal items and the order of the list. `sortedDistinct` orders the
distinct items of a list of strings by code points.
-/

namespace SourceAtlas

/-- **Keeps the first of equal items.** -/
def distinct {α : Type} [BEq α] : List α → List α
  | [] => []
  | a :: as => a :: (distinct as).filter (fun b => !(b == a))

/-- Code point order on strings, as a Boolean. -/
def stringLe (a b : String) : Bool :=
  !(b < a)

/-- **The distinct strings of a list in code point order.** -/
def sortedDistinct (names : List String) : List String :=
  (distinct names).mergeSort stringLe

end SourceAtlas
