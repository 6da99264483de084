import SourceAtlas.Pattern.Basic

/-!
# Patterns of JavaScript

Functions are found in four forms and classes in one. Method patterns also match control statements
such as `if (ready) {`, so the names in `controlWords` are to be discarded.
-/

namespace SourceAtlas.Pattern.JavaScript

open Regex

/-- Words that look like method names in front of a parenthesis and a brace. -/
def controlWords : List String :=
  ["if", "for", "while", "switch", "catch", "function", "return", "with", "do", "else", "typeof",
   "new", "super", "await", "yield"]

/-- `function name(a, b)`, and `function (a, b)` without a name. -/
def functionDeclaration : Pattern where
  key := "function_declaration"
  role := .function
  regex := cat [boundary, text "function", boundary, blanks, opt (.group 1 ident), blanks,
    parameters 2]
  paramGroups := [2]

/-- `const name = (a, b) =>` and `const name = a =>`. -/
def arrowFunction : Pattern where
  key := "arrow_function"
  role := .function
  regex := cat [boundary, words ["const", "let", "var"], gap, .group 1 ident, blanks, lit '=',
    blanks, opt (cat [text "async", gap]), oneOf [parameters 2, .group 3 ident], blanks, text "=>"]
  paramGroups := [2, 3]

/-- `name: function (a, b)`. -/
def objectFunctionValue : Pattern where
  key := "object_function_value"
  role := .function
  regex := cat [.group 1 ident, blanks, lit ':', blanks, text "function", blanks, parameters 2]
  paramGroups := [2]

/-- `name(a, b) {`. -/
def methodShorthand : Pattern where
  key := "method_shorthand"
  role := .function
  regex := cat [.group 1 ident, blanks, parameters 2, blanks, lit '{']
  paramGroups := [2]

/-- `class Name`, possibly exported and with a base. -/
def classDeclaration : Pattern where
  key := "class_declaration"
  role := .cls
  regex := cat [
    opt (cat [boundary, text "export", gap, opt (cat [text "default", gap])]),
    boundary, text "class", gap, .group 1 ident,
    opt (cat [gap, text "extends", gap,
      .group 2 (.seq ident (star (.seq (lit '.') ident)))])]
  baseGroup := some 2

/-- A method in a class body: `name(a, b) {` with leading modifiers. -/
def classMethod : Pattern where
  key := "class_method"
  role := .classMember
  regex := cat [
    .group 1 (star (.seq (words ["static", "get", "set", "async"]) gap)),
    .group 2 (.seq (opt (lit '#')) ident), blanks, parameters 3, blanks, lit '{']
  nameGroups := [2]
  paramGroups := [3]
  modifierGroup := some 1

/-- **The table of the dialect.** -/
def table : List Pattern :=
  [functionDeclaration, arrowFunction, objectFunctionValue, methodShorthand, classDeclaration,
   classMethod]

end SourceAtlas.Pattern.JavaScript
