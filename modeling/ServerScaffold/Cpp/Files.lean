import ServerScaffold.Cpp.Naming

/-!
The files that are generated, and the templates they are generated from.
-/
namespace ServerScaffold.Cpp

def apiFolder : String := "api"

def implFolder : String := "impl"

def modelFolder : String := "model"

/-- A path inside a folder; an empty folder leaves the path alone. -/
def within (folder path : String) : String := if folder = "" then path else folder ++ "/" ++ path

inductive ApiFile where
  | header | source | implHeader | implSource
deriving DecidableEq, Repr

def ApiFile.suffix : ApiFile → String
  | .header | .implHeader => ".h"
  | .source | .implSource => ".cpp"

def ApiFile.isImpl : ApiFile → Bool
  | .header | .source => false
  | .implHeader | .implSource => true

/-- The path of an implementation, from that of the API file: its name is marked before the suffix,
and it stands in a folder of its own. -/
def implPath (apiPath folder : String) : String :=
  let marked :=
    match Text.cutAtLast? '.' apiPath.toList with
    | some (stem, suffix) => stem ++ "Impl".toList ++ suffix
    | none => apiPath.toList ++ "Impl".toList
  String.ofList
    (Text.replaceFirst (within folder apiFolder).toList (within folder implFolder).toList marked)

def apiPath (settings : Settings) (file : ApiFile) (class_ : String) : String :=
  let path := within settings.outputFolder (apiFolder ++ "/" ++ class_ ++ file.suffix)
  if file.isImpl then implPath path settings.outputFolder else path

def modelPaths (settings : Settings) (class_ : String) : String × String :=
  let stem := within settings.outputFolder (modelFolder ++ "/" ++ class_)
  (stem ++ ".h", stem ++ ".cpp")

def ModelStyle.templates : ModelStyle → String × String
  | .accessor => ("model-header", "model-source")
  | .struct => ("model-struct-header", "model-struct-source")

/-- A file that is generated once. -/
structure SupportingFile where
  template : String
  destination : String
deriving DecidableEq, Repr

def supportingFiles (settings : Settings) : List SupportingFile :=
  let file (template destination : String) : SupportingFile :=
    ⟨template, within settings.outputFolder destination⟩
  let start := settings.modelNamePrefix
  [file "api-base-header" (apiFolder ++ "/ApiBase.h"),
    file "helpers-header" (modelFolder ++ "/" ++ start ++ "Helpers.h"),
    file "helpers-source" (modelFolder ++ "/" ++ start ++ "Helpers.cpp"),
    file "main-api-server" (start ++ "main-api-server.cpp"),
    file "cmake" "CMakeLists.txt",
    file "readme" "README.md"]

end ServerScaffold.Cpp
