import SourceAtlas.Component.Attributes
import SourceAtlas.Pattern.Vue

/-!
# Sections of single-file components

The options form lists props, data, methods and computed properties in sections of an object; each
section is taken with its braces balanced and its members are read line by line, so members of
nested objects on lines of their own are reported too. The short form declares props by a call and
binds the rest at the top level.
-/

namespace SourceAtlas.Component

open Pattern Regex

/-- What stands behind the name of a binding of the short form. -/
def setupMark : String := " (setup)"

/-- What an options object holds. -/
structure OptionSections where
  /-- The name, or nothing. -/
  name : String := ""
  /-- The props. -/
  props : List String := []
  /-- The fields of the data object. -/
  data : List String := []
  /-- The methods. -/
  methods : List String := []
  /-- The computed properties. -/
  computed : List String := []
  deriving DecidableEq, Repr

/-- What the short form declares. -/
structure SetupBindings where
  /-- The props. -/
  props : List String := []
  /-- Functions and variables at the top level, marked. -/
  bindings : List String := []
  deriving DecidableEq, Repr

/-- The members of a block. -/
def memberNames (contents : List Char) (member : Pattern) : List String :=
  (member.findAll contents).map fun m => String.ofList (member.nameOf m)

/-- **The members of the first block that a section opener announces.** -/
def blockMembers (script : List Char) (opener member : Pattern) : List String :=
  match opener.search script with
  | none => []
  | some m =>
    match Block.blockContents? script m.endPos with
    | none => []
    | some contents => memberNames contents member

/-- The items of a list of names, without quotes. -/
def arrayItems (text : List Char) : List String :=
  let items := (Text.splitOn ',' text).map fun part =>
    Text.trimWhile Vue.isPlainQuote (Text.trim part)
  (items.filter (· ≠ [])).map String.ofList

/-- **The sections of an options object.** -/
def optionSections (script : List Char) : OptionSections where
  name :=
    match Vue.componentName.search script with
    | some m => String.ofList (firstGroup m [1])
    | none => ""
  props :=
    blockMembers script Vue.propsBlock Vue.propertyMember ++
      match Vue.propsArray.search script with
      | some m => arrayItems (firstGroup m [1])
      | none => []
  data := blockMembers script Vue.dataBlock Vue.propertyMember
  methods := blockMembers script Vue.methodsBlock Vue.methodMember
  computed := blockMembers script Vue.computedBlock Vue.computedMember

/-- Props that a call declares by a list or an object; the match ends in front of its bracket. -/
def runtimeProps (script : List Char) (m : Match) : List String :=
  match script.drop m.endPos with
  | '[' :: rest => arrayItems (rest.takeWhile (· ≠ ']'))
  | _ =>
    match Block.blockContents? script m.endPos with
    | none => []
    | some contents => memberNames contents Vue.propertyMember

/-- **What the short form declares.** -/
def setupBindings (script : List Char) : SetupBindings where
  props :=
    let typed :=
      match Vue.definePropsType.search script with
      | some m => [typedMark ++ String.ofList (firstGroup m [1])]
      | none => []
    let listed :=
      match Vue.definePropsRuntime.search script with
      | some m => runtimeProps script m
      | none => []
    distinct (typed ++ listed)
  bindings := (memberNames script Vue.setupBinding).map (· ++ setupMark)

end SourceAtlas.Component
