import SourceAtlas.Block
import SourceAtlas.Distinct
import SourceAtlas.Pattern.React

/-!
# Props and hooks of function components

Given where the signature of a component ends, the block that follows is its body, and independent
passes over parameters and body find its hooks and props. Nothing before the signature's end or
behind the body is looked at. A component without a body has neither.
-/

namespace SourceAtlas.Component

open Pattern

/-- Props and hooks of a component. -/
structure Attributes where
  /-- The props. -/
  props : List String := []
  /-- The hooks, in order. -/
  hooks : List String := []
  deriving DecidableEq, Repr

/-- What stands before a type where props are given by a type. -/
def typedMark : String := "Type: "

/-- **The distinct hooks that a body calls,** in order. -/
def hooks (body : List Char) : List String :=
  sortedDistinct ((React.hook.findAll body).map fun m =>
    String.ofList (Text.trimEndWhile (· == '(') (React.hook.nameOf m)))

/-- Whether a text holds three dots in a row. -/
def isRest (part : List Char) : Bool :=
  Text.occursIn "...".toList part

/-- The name at the start of an item of a braced list: what stands before a colon or an equals
sign. -/
def itemName (part : List Char) : List Char :=
  Text.trim ((part.takeWhile (· ≠ ':')).takeWhile (· ≠ '='))

/-- The names of a braced list, without its rest item. -/
def destructuredNames (text : List Char) : List String :=
  (((Block.splitParameters text).filter (!isRest ·)).map itemName).filter (· ≠ [])
    |>.map String.ofList

/-- **The props of a component**, from a braced list of names or from accesses to a parameter called
`props`, and from the type of a single parameter. -/
def props (params body : List Char) : List String :=
  let params := Text.trim params
  let named :=
    match React.propsDestructure.search params with
    | some m => destructuredNames (firstGroup m [1])
    | none =>
      if params = "props".toList then
        (React.propsAccess.findAll body).map fun m => String.ofList (firstGroup m [1])
      else []
  let typed :=
    match React.propsTyped.search params with
    | some m => [typedMark ++ String.ofList (firstGroup m [1])]
    | none => []
  distinct (named ++ typed)

/-- **Props and hooks of the component whose signature ends at an offset.** -/
def attributes (content : List Char) (signatureEnd : Nat) (params : List Char) : Attributes :=
  match Block.blockEnd? content signatureEnd with
  | none => {}
  | some bodyEnd =>
    if bodyEnd ≤ signatureEnd then {}
    else
      let body := (content.drop signatureEnd).take (bodyEnd - signatureEnd)
      { props := props params body, hooks := hooks body }

end SourceAtlas.Component
