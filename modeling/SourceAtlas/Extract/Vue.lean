import SourceAtlas.Component.Options
import SourceAtlas.Entity.Basic
import SourceAtlas.Path

/-!
# Components of Vue

A file gives at most one component. A complete script block of the options form decides; without
one, a tag of the short form does, and the component is then named after its file. A file that shows
neither a name nor a section nor a tag of the short form gives nothing.
-/

namespace SourceAtlas.Extract.Vue

open Pattern Component

/-- The script of the short form: the first complete block, or else the whole source. -/
def setupText (source : List Char) : List Char :=
  match Vue.setupScript.search source with
  | some m => firstGroup m [1]
  | none => source

/-- The component that a source describes, whether or not there is anything to it. -/
def component (source : List Char) (filePath : String) : ComponentEntity :=
  let isSetup := (Vue.setupTag.search source).isSome
  -- the options form is preferred, whatever tags there are
  match Vue.optionsScript.search source with
  | some m =>
    let sections := optionSections (firstGroup m [1])
    { name := sections.name
      filePath
      props := sections.props
      data := sections.data
      methods := sections.methods
      computedProperties := sections.computed
      isAlternateSyntax := isSetup }
  | none =>
    if isSetup then
      let found := setupBindings (setupText source)
      { name := (Path.ofString filePath).stem
        filePath
        props := found.props
        methods := found.bindings
        isAlternateSyntax := true }
    else { name := "", filePath }

/-- Whether a component shows anything at all. -/
def isWorthwhile (c : ComponentEntity) : Bool :=
  c.name ≠ "" || c.isAlternateSyntax || c.props ≠ [] || c.data ≠ [] || c.methods ≠ [] ||
    c.computedProperties ≠ []

/-- **All entities of a source.** -/
def entities (source : List Char) (filePath : String) : List Entity :=
  let c := component source filePath
  if isWorthwhile c then [.component c] else []

end SourceAtlas.Extract.Vue
