import ServerScaffold.Api.Reading
import ServerScaffold.Cpp.Vocabulary
import ServerScaffold.Interface.Build

/-!
The options of a run, as a file of options gives them, and the settings that follow from them.
-/
namespace ServerScaffold.Cpp

open Source (Reader)
open Interface (Naming Strategy)

structure Config where
  addExternalLibs : Bool := true
  useStructModel : Bool := false
  reservedWordPrefix : String := "r_"
  helpersPackage : String := "org.openapitools.server.helpers"
  apiPackage : String := "org.openapitools.server.api"
  modelPackage : String := "org.openapitools.server.model"
  modelNamePrefix : String := ""
  variableNameFirstCharacterUppercase : Bool := true
  outputFolder : String := ""
  /-- Tokens for names of types, which replace the built-in ones or are added to them. -/
  typeMappings : Table String := ∅
  /-- Directives for tokens, which replace the built-in ones or are added to them. -/
  importMappings : Table String := ∅
  naming : Naming := {}

def strategies : List (String × Strategy) :=
  [("use_operation_id", .operationId), ("use_route_based", .route)]

def readNaming : Reader Naming :=
  Reader.record "struct NamingConfig"
    [Reader.field "strategy" (Reader.choice strategies) fun x n => { n with strategy := x },
      Reader.field "aliases" (Api.readTable Reader.text) fun x n => { n with aliases := x }]
    {}

def readConfig : Reader Config :=
  Reader.record "struct PistacheConfig"
    [Reader.field "add_external_libs" Reader.bool fun x c => { c with addExternalLibs := x },
      Reader.field "use_struct_model" Reader.bool fun x c => { c with useStructModel := x },
      Reader.field "reserved_word_prefix" Reader.text
        fun x c => { c with reservedWordPrefix := x },
      Reader.field "helpers_package" Reader.text fun x c => { c with helpersPackage := x },
      Reader.field "api_package" Reader.text fun x c => { c with apiPackage := x },
      Reader.field "model_package" Reader.text fun x c => { c with modelPackage := x },
      Reader.field "model_name_prefix" Reader.text fun x c => { c with modelNamePrefix := x },
      Reader.field "variable_name_first_character_uppercase" Reader.bool
        fun x c => { c with variableNameFirstCharacterUppercase := x },
      Reader.field "output_folder" Reader.text fun x c => { c with outputFolder := x },
      Reader.field "type_mappings" (Api.readTable Reader.text)
        fun x c => { c with typeMappings := x },
      Reader.field "import_mappings" (Api.readTable Reader.text)
        fun x c => { c with importMappings := x },
      Reader.field "naming" readNaming fun x c => { c with naming := x }]
    {}

/-- What stands at the path of a file of options. -/
inductive ConfigFile where
  | missing
  | directory
  | bytes (content : ByteArray)

inductive ConfigError where
  | unreadable
  | malformed
deriving DecidableEq, Repr

/-- The options in a file; none if there is no file. -/
def Config.load : ConfigFile → Except ConfigError (Option Config)
  | .missing => .ok none
  | .directory => .error .unreadable
  | .bytes content =>
    match String.fromUTF8? content with
    | none => .error .unreadable
    | some text =>
      match Source.fromYaml readConfig text with
      | .ok config => .ok (some config)
      | .error _ => .error .malformed

/-- Which templates the models use: classes with accessors, or structs with public members. -/
inductive ModelStyle where
  | accessor | struct
deriving DecidableEq, Repr

structure Namespace where
  parts : List String
deriving DecidableEq, Repr

namespace Namespace

/-- The namespace of a package whose name is written with dots. -/
def ofPackage (package : String) : Namespace :=
  ⟨((package.toList.splitOn '.').filter fun part => !part.isEmpty).map String.ofList⟩

def name (ns : Namespace) : String := String.intercalate "::" ns.parts

end Namespace

structure Settings where
  typeMapping : Table String
  importMapping : Table String
  primitives : List String
  namespaceExempt : List String
  modelNamespace : Namespace
  apiNamespace : Namespace
  helpersNamespace : Namespace
  modelNamePrefix : String
  reservedWordPrefix : String
  variableNameFirstCharacterUppercase : Bool
  addExternalLibs : Bool
  modelStyle : ModelStyle
  outputFolder : String

namespace Settings

def dropSlashes (path : String) : String :=
  String.ofList (path.toList.reverse.dropWhile (· == '/')).reverse

def ofConfig (config : Config) : Settings where
  typeMapping := typeTokens.insertAll config.typeMappings.entries
  importMapping := includeDirectives.insertAll config.importMappings.entries
  primitives := primitiveTokens
  namespaceExempt := bareTokens
  modelNamespace := .ofPackage config.modelPackage
  apiNamespace := .ofPackage config.apiPackage
  helpersNamespace := .ofPackage config.helpersPackage
  modelNamePrefix := config.modelNamePrefix
  reservedWordPrefix := config.reservedWordPrefix
  variableNameFirstCharacterUppercase := config.variableNameFirstCharacterUppercase
  addExternalLibs := config.addExternalLibs
  modelStyle := if config.useStructModel then .struct else .accessor
  outputFolder := dropSlashes config.outputFolder

/-- The token of a type; a name that has none stands for itself. -/
def mapped (settings : Settings) (type : String) : String :=
  (settings.typeMapping.get? type).getD type

def isPrimitive (settings : Settings) (token : String) : Bool := settings.primitives.contains token

/-- Whether a name is a type of the target already, and no name of a model. -/
def isKnownToken (settings : Settings) (token : String) : Bool :=
  settings.isPrimitive token || settings.namespaceExempt.contains token ||
    settings.typeMapping.values.contains token || settings.importMapping.contains token

/-- The namespace of the models; none if their package is empty. -/
def modelScope? (settings : Settings) : Option String :=
  if settings.modelNamespace.parts.isEmpty then none else some settings.modelNamespace.name

end Settings

end ServerScaffold.Cpp
