import BuildExplorer.Filters
import BuildExplorer.Text.Blank

/-!
# Compile requests
-/

namespace BuildExplorer

/-- A library that is asked for in a version. -/
structure SelectedLibrary where
  id : String
  version : String
  deriving DecidableEq, Repr

/-- A file that is put beside the source. -/
structure ExtraFile where
  name : String
  contents : String
  deriving DecidableEq, Repr

/-- How a request is built. -/
inductive BuildKind where
  /-- One run of the compiler. -/
  | single
  /-- A configuration and a build, both driven by CMake. -/
  | cmake
  deriving DecidableEq, Repr, Inhabited

/-- A request to compile a source. -/
structure Request where
  compiler : String := ""
  source : String := ""
  /-- Options of the user, one argument each. -/
  options : List String := []
  filters : Filters := {}
  libraries : List SelectedLibrary := []
  files : List ExtraFile := []
  build : BuildKind := .single
  optimizationRemarks : Bool := false
  macroExpansion : Bool := false
  deriving DecidableEq, Repr, Inhabited

/-- The name of the primary output. -/
def Request.outputName (request : Request) : String :=
  match request.build with
  | .single => "output.s"
  | .cmake => "output"

/-- Read a selector `id:version`; blanks around the two parts do not count and
neither part may be empty. -/
def SelectedLibrary.ofSelector? (selector : String) : Option SelectedLibrary :=
  let text := selector.toList
  match text.dropWhile (· != ':') with
  | ':' :: version =>
      let id := Text.trim (text.takeWhile (· != ':'))
      let version := Text.trim version
      if id.isEmpty || version.isEmpty then none
      else some ⟨String.ofList id, String.ofList version⟩
  | _ => none

end BuildExplorer
