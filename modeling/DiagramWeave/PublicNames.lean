/-!
# Public names

The names under which the program offers itself to other programs: its functions, its configuration, its
errors and its version.
-/
namespace DiagramWeave

/-- All public names. -/
def publicNames : List String := [
  "ConfigurationError", "PlantmarkError", "PreprocessConfig", "RenderError", "RenderStrategy",
  "RewriteError", "__version__", "encode", "load_config", "preprocess", "scan", "wrap"]

/-- The name is offered to other programs. -/
def isPublic (name : String) : Bool :=
  publicNames.contains name

end DiagramWeave
