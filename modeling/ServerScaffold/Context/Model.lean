import ServerScaffold.Cpp.Files
import ServerScaffold.Cpp.Include
import ServerScaffold.Cpp.Initial
import ServerScaffold.Interface.Model

/-!
What the templates are told about a model.
-/
namespace ServerScaffold.Context

open Cpp (Settings)

structure Property where
  name : String
  baseName : String
  dataType : String
  defaultValue : String
  required : Bool
  isContainer : Bool
  description : Option String
deriving DecidableEq, Repr

structure Model where
  classname : String
  headerFile : String
  sourceFile : String
  description : Option String
  imports : List String
  vars : List Property
  isEnum : Bool
  enumValues : List String
  isStringEnumContainer : Bool
deriving DecidableEq, Repr

def isCollection : Interface.Node → Bool
  | .holder _ _ _ => true
  | _ => false

def Property.of (settings : Settings) (property : Interface.Property) : Property where
  name := Cpp.variableName settings property.name
  baseName := property.name
  dataType := Cpp.declaration settings property.node
  defaultValue := Cpp.initial settings property.node
  required := property.required
  isContainer := isCollection property.node
  description := property.description

/-- The directives of a model: for the classes it refers to, and for the types of its members. -/
def modelImports (settings : Settings) (model : Interface.Model) : List String :=
  Cpp.directives settings
    (model.imports.map (Cpp.className settings) ++
      model.properties.flatMap fun property =>
        Cpp.symbols settings (Cpp.resolve settings property.node)).eraseDups

def isAny : Interface.Node → Bool
  | .leaf .any _ => true
  | _ => false

/-- A choice between plain text and one enumeration, which is kept as text. -/
def isTextOrEnum (settings : Settings) (model : Interface.Model) : Bool :=
  !model.isEnum && 1 < model.branches.length &&
    model.branches.any (fun branch => Cpp.declaration settings branch == Cpp.stringToken) &&
    !model.branches.any isAny && model.interfaces.length == 1

def Model.of (settings : Settings) (model : Interface.Model) : Model :=
  let classname := Cpp.className settings model.name
  let (headerFile, sourceFile) := Cpp.modelPaths settings classname
  { classname
    headerFile
    sourceFile
    description := model.description
    imports := modelImports settings model
    vars := model.properties.map (Property.of settings)
    isEnum := model.isEnum
    enumValues := model.values
    isStringEnumContainer := isTextOrEnum settings model }

end ServerScaffold.Context
