import SourceAtlas.Pattern.Basic

/-!
# Patterns of React

Components are functions, arrow functions or classes whose name starts with a capital letter. Hooks
are calls of functions named `use` and a capital letter. Three patterns find the props of a
component in its parameters and its body.
-/

namespace SourceAtlas.Pattern.React

open Regex

/-- `function Name<T>(props)`. -/
def componentFunction : Pattern where
  key := "component_function"
  role := .component
  regex := cat [boundary, text "function", gap, .group 1 capitalIdent,
    opt (cat [lit '<', star (notChar '>'), lit '>']), blanks, parameters 2]
  paramGroups := [2]

/-- `const Name = (props) =>`, possibly with a component type. -/
def componentArrow : Pattern where
  key := "component_arrow"
  role := .component
  regex := cat [boundary, words ["const", "let", "var"], gap, .group 1 capitalIdent,
    opt (cat [blanks, lit ':', blanks, text "React.", words ["FC", "FunctionComponent"], lit '<',
      star (notChar '>'), lit '>']),
    blanks, lit '=', blanks, opt (cat [text "async", gap]), oneOf [parameters 2, .group 3 ident],
    blanks, text "=>"]
  paramGroups := [2, 3]

/-- `class Name extends Component`. -/
def componentClass : Pattern where
  key := "component_class"
  role := .component
  regex := cat [boundary, text "class", gap, .group 1 capitalIdent, gap, text "extends", gap,
    .group 2 (cat [opt (text "React."), words ["Component", "PureComponent"]]), boundary]
  baseGroup := some 2
  resolvesBody := false

/-- A call of a hook. -/
def hook : Pattern where
  key := "hook"
  role := .hook
  regex := cat [boundary, text "use",
    oneOf (["State", "Effect", "Context", "Reducer", "Callback", "Memo", "Ref", "ImperativeHandle",
      "LayoutEffect", "DebugValue"].map text ++ [capitalIdent]),
    lit '(']
  nameGroups := [0]

/-- A braced list of names in the parameters. -/
def propsDestructure : Pattern where
  key := "props_destructure"
  role := .props
  regex := cat [lit '{', .group 1 (plus (notChar '}')), lit '}']

/-- `props.name` in the body. -/
def propsAccess : Pattern where
  key := "props_access"
  role := .props
  regex := cat [boundary, text "props.", .group 1 ident]

/-- A single parameter with a type. -/
def propsTyped : Pattern where
  key := "props_typed"
  role := .props
  regex := cat [.anchor .lineStart, blanks, ident, blanks, lit ':', blanks,
    .group 1 (plus (.char Text.isWord)), blanks, .anchor .lineEnd]

/-- **The table of the dialect.** -/
def table : List Pattern :=
  [componentFunction, componentArrow, componentClass, hook, propsDestructure, propsAccess,
   propsTyped]

end SourceAtlas.Pattern.React
