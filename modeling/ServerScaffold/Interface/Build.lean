import ServerScaffold.Interface.Alias
import ServerScaffold.Interface.Model

/-!
The interface of a description: one model for each named schema that is no alias, one operation for
each path and method, and a group for each first tag. Every name referred to must be a named schema.
-/
namespace ServerScaffold.Interface

open Api (Components Document Keywords OrRef Schema)

inductive Strategy where
  | operationId | route
deriving DecidableEq, Repr

structure Naming where
  strategy : Strategy := .operationId
  /-- Other names for operations, by the name that the strategy gives. -/
  aliases : Table String := ∅

inductive RefError where
  | malformed (pointer : String)
  | notFound (pointer : String)
deriving DecidableEq, Repr

def RefError.message : RefError → String
  | .malformed pointer => "malformed $ref \x60" ++ pointer ++ "\x60"
  | .notFound pointer => "$ref \x60" ++ pointer ++ "\x60 does not name a component"

def schemaDescription? : Schema → Option String
  | .ref _ => none
  | .inline k => k.description

/-- The properties that keywords list, required where the same keywords say so. -/
def ownProperties (k : Keywords Schema) : List Property :=
  k.properties.map fun (name, schema) =>
    ⟨name, schemaNode schema, k.required.contains name, schemaDescription? schema⟩

/-- The properties of the inline parts, then the schema's own. -/
def properties (k : Keywords Schema) : List Property :=
  let ofPart : Schema → List Property
    | .ref _ => []
    | .inline part => ownProperties part
  k.allOf.flatMap ofPart ++ ownProperties k

def refName? : Schema → Option String
  | .ref pointer => some (Api.pointerName pointer)
  | .inline _ => none

def interfaces (k : Keywords Schema) : List String := (k.allOf ++ branches k).filterMap refName?

def enumText : Literal → String
  | .atom (.text text) => text
  | value => value.text

def keywordModel (aliases : Table Node) (name : String) (k : Keywords Schema) : Model :=
  let found := (properties k).map fun property =>
    { property with node := inlineAliases aliases property.node }
  let choices := (branches k).map fun schema => inlineAliases aliases (schemaNode schema)
  let composed := interfaces k
  { name
    description := k.description
    properties := found
    imports :=
      (found.flatMap (·.node.refs) ++ choices.flatMap (·.refs) ++ composed).eraseDups
    interfaces := composed
    values := k.values.map enumText
    isEnum := !k.values.isEmpty
    branches := choices }

def model (aliases : Table Node) (name : String) : Schema → Model
  | .ref pointer =>
    let target := Api.pointerName pointer
    { name, imports := [target], interfaces := [target] }
  | .inline k => keywordModel aliases name k

def modelsOf (components : Components) (aliases : Table Node) : List Model :=
  components.schemas.entries.filterMap fun (name, schema) =>
    if aliases.contains name then none else some (model aliases name schema)

/-- The component that a pointer names, if it stands there in place. -/
def followed {α : Type} (start : String) (components : Table (OrRef α)) :
    OrRef α → Except RefError α
  | .inline value => .ok value
  | .ref pointer =>
    match Text.stripStart? start.toList pointer.toList with
    | none => .error (.malformed pointer)
    | some name =>
      match components.get? (String.ofList name) with
      | some (.inline value) => .ok value
      | _ => .error (.notFound pointer)

def parameterStart : String := "#/components/parameters/"

def requestBodyStart : String := "#/components/requestBodies/"

def location : Api.Place → Location
  | .path => .path
  | .query => .query
  | .header => .header
  | .cookie => .cookie

/-- A declared parameter. A parameter of the path is always required. -/
def declared (parameter : Api.Parameter) : Parameter where
  name := parameter.name
  location := location parameter.place
  node := match parameter.schema with
    | some schema => schemaNode schema
    | none => .leaf .any none
  required := parameter.required || parameter.place == .path
  description := parameter.description

/-- The declared parameters, one for each name and place: the place in the list is that of the first,
the definition that of the last. -/
def merged (parameters : List Api.Parameter) : List Api.Parameter :=
  (parameters.foldl (fun entries p => putEntry (p.name, p.place) p entries) []).map Prod.snd

def formTypes : List String := ["application/x-www-form-urlencoded", "multipart/form-data"]

def formParameters (k : Keywords Schema) : List Parameter :=
  k.properties.map fun (name, schema) =>
    let node := schemaNode schema
    let location := match node with
      | .leaf .binary _ => .file
      | _ => .form
    { name, location, node, required := k.required.contains name }

def bodyName : Schema → String
  | .ref pointer => camelName (Api.pointerName pointer)
  | .inline _ => "body"

/-- The parameters of a body, by its first content type: those of a form, or the body as a whole. -/
def bodyParameters (components : Components) (body : Api.RequestBody) :
    Except RefError (List Parameter) :=
  match body.content.entries with
  | [] => .ok []
  | (contentType, media) :: _ =>
    match media.schema with
    | none => .ok []
    | some schema =>
      if formTypes.contains contentType then
        match schema with
        | .inline k => .ok (formParameters k)
        | .ref pointer =>
          match components.schemas.get? (Api.pointerName pointer) with
          | some (.inline k) => .ok (formParameters k)
          | _ => .error (.notFound pointer)
      else
        .ok [{ name := bodyName schema, location := .body, node := schemaNode schema,
               required := body.required, description := body.description }]

def isSuccess (code : String) : Bool := code.toList.head? == some '2'

/-- The entry with the least name. -/
def leastEntry? {α : Type} : List (String × α) → Option (String × α)
  | [] => none
  | entry :: rest =>
    match leastEntry? rest with
    | none => some entry
    | some least => if least.1 < entry.1 then some least else some entry

/-- The response with the least code of success, and else the default one. -/
def successResponse? (responses : Table Api.Response) : Option Api.Response :=
  match leastEntry? (responses.entries.filter fun entry => isSuccess entry.1) with
  | some (_, response) => some response
  | none => responses.get? "default"

def responseSchema? (response : Api.Response) : Option Schema :=
  response.content.values.head?.bind (·.schema)

def rawName (strategy : Strategy) (method : Api.Method) (path : String)
    (operation : Api.Operation) : String :=
  match strategy with
  | .operationId => operation.operationId.getD (routeName method.upperName path)
  | .route => routeName method.upperName path

def operation (components : Components) (aliases : Table Node) (naming : Naming) (path : String)
    (item : Api.PathItem) (method : Api.Method) (source : Api.Operation) :
    Except RefError Operation := do
  let raw := rawName naming.strategy method path source
  let declaredHere ← (item.parameters ++ source.parameters).mapM
    (followed parameterStart components.parameters)
  let body ← source.requestBody.mapM (followed requestBodyStart components.requestBodies)
  let ofBody ← match body with
    | none => .ok []
    | some body => bodyParameters components body
  let parameters := ((merged declaredHere).map declared ++ ofBody).map fun parameter =>
    { parameter with node := inlineAliases aliases parameter.node }
  let response := ((successResponse? source.responses).bind responseSchema?).map fun schema =>
    inlineAliases aliases (schemaNode schema)
  return {
    name := (naming.aliases.get? raw).getD raw
    operationId := source.operationId
    method
    path
    summary := source.summary
    tags := source.tags
    parameters
    response
    consumes := match body with
      | none => []
      | some body => body.content.keys
    imports :=
      (parameters.flatMap (·.node.refs) ++ response.toList.flatMap (·.refs)).eraseDups }

def operationsOf (components : Components) (aliases : Table Node) (naming : Naming)
    (paths : Table Api.PathItem) : Except RefError (List Operation) :=
  (paths.entries.flatMap fun (path, item) =>
    item.operations.map fun (method, source) => (path, item, method, source)).mapM
      fun (path, item, method, source) =>
        operation components aliases naming path item method source

def schemaPointer (name : String) : String := "#/components/schemas/" ++ name

/-- The first name, of models before operations, that is no named schema. -/
def missingName? (components : Components) (models : List Model) (operations : List Operation) :
    Option String :=
  (models.flatMap (·.imports) ++ operations.flatMap (·.imports)).find? fun name =>
    !components.schemas.contains name

def groupName (operation : Operation) : String := operation.tags.headD "default"

def insertName (name : String) : List String → List String
  | [] => [name]
  | other :: rest =>
    if name < other then name :: other :: rest
    else if name = other then other :: rest
    else other :: insertName name rest

def sortedNames (names : List String) : List String := names.foldl (fun sorted n => insertName n sorted) []

def groupsOf (operations : List Operation) : List Group :=
  let named := operations.map groupName
  (sortedNames named).map fun name =>
    ⟨name, (List.range named.length).filter fun i => named[i]? == some name⟩

def ofDocument (naming : Naming) (document : Document) : Except RefError Interface := do
  let components := document.components.getD {}
  let aliases := aliasTable components.schemas
  let models := modelsOf components aliases
  let operations ← operationsOf components aliases naming document.paths
  match missingName? components models operations with
  | some name => throw (.notFound (schemaPointer name))
  | none =>
    return {
      title := document.info.title
      description := document.info.description
      version := document.info.version
      models
      operations
      groups := groupsOf operations }

end ServerScaffold.Interface
