import ServerScaffold.Context.Model
import ServerScaffold.Context.Operation

/-!
What the templates are told about a server: its models, its API classes, and the files that are
generated.
-/
namespace ServerScaffold.Context

open Cpp (ApiFile Config ModelStyle Namespace Settings SupportingFile)
open Interface (Group)

structure Api where
  classname : String
  classnameSnakeUpperCase : String
  classnameSnakeLowerCase : String
  header : String
  source : String
  implHeader : String
  implSource : String
  hasModelImport : Bool
  operations : List Operation
deriving DecidableEq, Repr

structure Server where
  appName : String
  appVersion : String
  appDescription : Option String
  modelNamespace : Namespace
  apiNamespace : Namespace
  helpersNamespace : Namespace
  addExternalLibs : Bool
  reservedWordPrefix : String
  modelStyle : ModelStyle
  models : List Model
  apis : List Api
  supportingFiles : List SupportingFile
deriving DecidableEq, Repr

/-- The class of a group. Positions at which there is no operation are passed over. -/
def Api.of (settings : Settings) (operations : List Interface.Operation) (group : Group) : Api :=
  let classname := Cpp.apiName group.name
  let snake := Text.snakeCase classname.toList
  let found := (group.members.filterMap fun i => operations[i]?).map (Operation.of settings)
  { classname
    classnameSnakeUpperCase := String.ofList (Text.upperText snake)
    classnameSnakeLowerCase := String.ofList snake
    header := Cpp.apiPath settings .header classname
    source := Cpp.apiPath settings .source classname
    implHeader := Cpp.apiPath settings .implHeader classname
    implSource := Cpp.apiPath settings .implSource classname
    hasModelImport := found.any (·.requiresModelImport)
    operations := found }

/-- The operations of a class are contexts of operations of the interface. -/
theorem api_operation {settings : Settings} {source : Interface} {group : Group}
    {operation : Operation}
    (member : operation ∈ (Api.of settings source.operations group).operations) :
    ∃ result ∈ source.operations, Operation.of settings result = operation := by
  obtain ⟨result, found, same⟩ := List.mem_map.mp member
  obtain ⟨i, _, there⟩ := List.mem_filterMap.mp found
  exact ⟨result, List.mem_of_getElem? there, same⟩

def Server.of (config : Config) (source : Interface) : Server :=
  let settings := Settings.ofConfig config
  { appName := source.title
    appVersion := source.version
    appDescription := source.description
    modelNamespace := settings.modelNamespace
    apiNamespace := settings.apiNamespace
    helpersNamespace := settings.helpersNamespace
    addExternalLibs := settings.addExternalLibs
    reservedWordPrefix := settings.reservedWordPrefix
    modelStyle := settings.modelStyle
    models := source.models.map (Model.of settings)
    apis := source.groups.map (Api.of settings source.operations)
    supportingFiles := Cpp.supportingFiles settings }

/-- Why no context can be generated. -/
inductive GenerateError where
  | read (error : ServerScaffold.Api.ReadError)
  | reference (error : Interface.RefError)
deriving DecidableEq, Repr

/-- The context of a description that is already read. -/
def Server.ofDocument (config : Config) (document : ServerScaffold.Api.Document) :
    Except Interface.RefError Server :=
  (Interface.ofDocument config.naming document).map (Server.of config)

theorem server_ofDocument {config : Config} {document : ServerScaffold.Api.Document} {server : Server} :
    Server.ofDocument config document = .ok server ↔
      ∃ source, Interface.ofDocument config.naming document = .ok source ∧
        Server.of config source = server := by
  unfold Server.ofDocument
  cases Interface.ofDocument config.naming document <;> simp [Except.map]

def Server.generate (config : Config) (format : Source.Format) (text : String) :
    Except GenerateError Server :=
  match ServerScaffold.Api.Document.read format text with
  | .error error => .error (.read error)
  | .ok document => (Server.ofDocument config document).mapError .reference

end ServerScaffold.Context
