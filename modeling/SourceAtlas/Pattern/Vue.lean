import SourceAtlas.Pattern.Basic

/-!
# Patterns of Vue

A single-file component holds script blocks. A script tag with the attribute `setup` announces the
short form, any other the options form. Sections of an options object are found by their openers;
the block itself is then taken with its delimiters balanced, and members are read line by line.
-/

namespace SourceAtlas.Pattern.Vue

open Regex

/-- Any character that does not end a tag. -/
def inTag : Regex :=
  star (notChar '>')

/-- The attribute that announces the short form, with what stands before it in the tag. -/
def setupAttribute : Regex :=
  cat [inTag, blank, textFold "setup"]

/-- Everything up to the end of a script block, which is remembered, and that end. -/
def scriptBody : Regex :=
  cat [.group 1 (starFew (.char fun _ => true)), textFold "</script>"]

/-- A script tag of the short form. -/
def setupTag : Pattern where
  key := "setup_tag"
  role := .marker
  regex := cat [textFold "<script", setupAttribute, inTag, lit '>']
  nameGroups := [0]

/-- A script block of the options form. -/
def optionsScript : Pattern where
  key := "options_script"
  role := .part
  regex := cat [textFold "<script", .ahead false setupAttribute, inTag, lit '>', scriptBody]

/-- A script block of the short form. -/
def setupScript : Pattern where
  key := "setup_script"
  role := .part
  regex := cat [textFold "<script", setupAttribute, inTag, lit '>', scriptBody]

/-- A quote of either kind. -/
def isPlainQuote (c : Char) : Bool :=
  c == '\'' || c == '"'

/-- The name of an options object. -/
def componentName : Pattern where
  key := "component_name"
  role := .name
  regex := cat [boundary, text "name", blanks, lit ':', blanks, .char isPlainQuote,
    .group 1 (plus (.char fun c => !isPlainQuote c)), .char isPlainQuote]

/-- The opener of a section: its word, a colon, and a brace that is not taken. -/
def sectionOpener (word : String) : Regex :=
  cat [boundary, text word, blanks, lit ':', blanks, .ahead true (lit '{')]

/-- The section of props, as an object. -/
def propsBlock : Pattern where
  key := "props_block"
  role := .part
  regex := sectionOpener "props"
  nameGroups := [0]

/-- The section of props, as a list. -/
def propsArray : Pattern where
  key := "props_array"
  role := .part
  regex := cat [boundary, text "props", blanks, lit ':', blanks, lit '[',
    .group 1 (star (notChar ']')), lit ']']

/-- The object that the data function returns. -/
def dataBlock : Pattern where
  key := "data_block"
  role := .part
  regex := cat [boundary, text "data", blanks, lit '(', blanks, lit ')', blanks, lit '{', blanks,
    text "return", blanks, .ahead true (lit '{')]
  nameGroups := [0]

/-- The section of methods. -/
def methodsBlock : Pattern where
  key := "methods_block"
  role := .part
  regex := sectionOpener "methods"
  nameGroups := [0]

/-- The section of computed properties. -/
def computedBlock : Pattern where
  key := "computed_block"
  role := .part
  regex := sectionOpener "computed"
  nameGroups := [0]

/-- A member at the start of a line: `name:`. -/
def propertyMember : Pattern where
  key := "property_member"
  role := .member
  regex := cat [.anchor .lineStart, blanks, .group 1 ident, blanks, lit ':']

/-- A method at the start of a line, in either form. -/
def methodMember : Pattern where
  key := "method_member"
  role := .member
  regex := cat [.anchor .lineStart, blanks, opt (cat [text "async", gap]), .group 1 ident, blanks,
    oneOf [
      cat [parenthesized, blanks, lit '{'],
      cat [lit ':', blanks, text "function", blanks, parenthesized]]]

/-- A computed property at the start of a line: a method, a function, or an object that opens with
its reader. -/
def computedMember : Pattern where
  key := "computed_member"
  role := .member
  regex := cat [.anchor .lineStart, blanks, .group 1 ident, blanks,
    oneOf [
      cat [parenthesized, blanks, lit '{'],
      cat [lit ':', blanks, oneOf [
        cat [text "function", blanks, lit '('],
        cat [lit '{', blanks, text "get", blanks, lit '(']]]]]

/-- Props of the short form, given by a type. -/
def definePropsType : Pattern where
  key := "define_props_type"
  role := .props
  regex := cat [boundary, text "defineProps", blanks, lit '<', blanks,
    .group 1 (plusFew (notChar '>')), blanks, lit '>', blanks, lit '(', blanks, lit ')']

/-- Props of the short form, given by a list or an object. -/
def definePropsRuntime : Pattern where
  key := "define_props_runtime"
  role := .props
  regex := cat [boundary, text "defineProps", blanks, lit '(', blanks,
    .ahead true (.char fun c => c == '[' || c == '{')]
  nameGroups := [0]

/-- A top-level function or variable of the short form. -/
def setupBinding : Pattern where
  key := "setup_binding"
  role := .member
  regex := oneOf [
    cat [.anchor .lineStart, opt (cat [text "export", gap]), opt (cat [text "async", gap]),
      text "function", gap, .group 1 ident],
    cat [.anchor .lineStart, opt (cat [text "export", gap]), words ["const", "let"], gap,
      .group 2 ident, blanks, lit '=']]
  nameGroups := [1, 2]

/-- **The table of the dialect.** -/
def table : List Pattern :=
  [setupTag, optionsScript, setupScript, componentName, propsBlock, propsArray, dataBlock,
   methodsBlock, computedBlock, propertyMember, methodMember, computedMember, definePropsType,
   definePropsRuntime, setupBinding]

end SourceAtlas.Pattern.Vue
