import ServerScaffold.Api.Document
import ServerScaffold.Source.Fit
import ServerScaffold.Source.Reader

/-!
Reading an API description. Wherever a reference may stand for a component, the reference is tried
first; schemas, parameters and request bodies are therefore fitted to values already read.
-/
namespace ServerScaffold.Api

open Source

/-- An entry that points elsewhere; `$ref` must be a text. -/
def fitPointer : Fit String :=
  Fit.mapRecord [Fit.needed "$ref" Fit.text fun pointer _ => pointer] ""

def typeNames : List (String × TypeName) :=
  [("string", .string), ("number", .number), ("integer", .integer), ("boolean", .boolean),
    ("array", .array), ("object", .object), ("null", .null)]

def fitTypeSet : Fit TypeSet :=
  Fit.orElse (fun value => (Fit.choice typeNames value).map .single)
    (fun value => (Fit.list (Fit.choice typeNames) value).map .several)

/-- The keywords of a schema, in the order in which a list gives them. -/
def keywordFields (fitSchema : Fit Schema) : List (Fit.Field (Keywords Schema)) :=
  let additional : Fit (Additional Schema) :=
    Fit.orElse (fun value => (Fit.bool value).map .flag)
      (fun value => (fitSchema value).map .schema)
  let properties : Fit (Table Schema) := Fit.table fitSchema
  [Fit.field "type" (Fit.optional fitTypeSet) fun x k => { k with type := x },
    Fit.field "format" (Fit.optional Fit.text) fun x k => { k with format := x },
    Fit.field "description" (Fit.optional Fit.text) fun x k => { k with description := x },
    Fit.field "default" (Fit.optional Literal.ofValue?) fun x k => { k with default := x },
    Fit.field "properties" properties fun x k => { k with properties := x.entries },
    Fit.field "required" (Fit.list Fit.text) fun x k => { k with required := x },
    Fit.field "additionalProperties" (Fit.optional additional)
      fun x k => { k with additional := x },
    Fit.field "items" (Fit.optional fitSchema) fun x k => { k with items := x },
    Fit.field "uniqueItems" (Fit.optional Fit.bool) fun x k => { k with uniqueItems := x },
    Fit.field "allOf" (Fit.list fitSchema) fun x k => { k with allOf := x },
    Fit.field "oneOf" (Fit.list fitSchema) fun x k => { k with oneOf := x },
    Fit.field "anyOf" (Fit.list fitSchema) fun x k => { k with anyOf := x },
    Fit.field "enum" (Fit.list Literal.ofValue?) fun x k => { k with values := x }]

/-- Fits a schema nested at most `depth` deep. -/
def fitSchemaWithin : Nat → Fit Schema
  | 0 => fun _ => none
  | depth + 1 =>
    Fit.orElse (fun value => (fitPointer value).map .ref)
      (fun value =>
        (Fit.record (keywordFields (fitSchemaWithin depth)) {} value).map .inline)

def fitSchema : Fit Schema := fun value => fitSchemaWithin value.height value

def fitMediaType : Fit MediaType :=
  Fit.record [Fit.field "schema" (Fit.optional fitSchema) fun x m => { m with schema := x }] {}

def places : List (String × Place) :=
  [("query", .query), ("header", .header), ("path", .path), ("cookie", .cookie)]

def fitParameter : Fit Parameter :=
  Fit.record
    [Fit.needed "name" Fit.text fun x p => { p with name := x },
      Fit.needed "in" (Fit.choice places) fun x p => { p with place := x },
      Fit.field "description" (Fit.optional Fit.text) fun x p => { p with description := x },
      Fit.field "required" Fit.bool fun x p => { p with required := x },
      Fit.field "schema" (Fit.optional fitSchema) fun x p => { p with schema := x }]
    { name := "", place := .query }

def fitRequestBody : Fit RequestBody :=
  Fit.record
    [Fit.field "description" (Fit.optional Fit.text) fun x b => { b with description := x },
      Fit.needed "content" (Fit.table fitMediaType) fun x b => { b with content := x },
      Fit.field "required" Fit.bool fun x b => { b with required := x }]
    {}

def fitOrRef {α : Type} (fit : Fit α) : Fit (OrRef α) :=
  Fit.orElse (fun value => (fitPointer value).map .ref) (fun value => (fit value).map .inline)

def readSchema : Reader Schema := Reader.alternative "SchemaOrRef" fitSchema

def readParameter : Reader (OrRef Parameter) :=
  Reader.alternative "ParameterOrRef" (fitOrRef fitParameter)

def readRequestBody : Reader (OrRef RequestBody) :=
  Reader.alternative "RequestBodyOrRef" (fitOrRef fitRequestBody)

def readTable {α : Type} (read : Reader α) : Reader (Table α) := fun from_ depth tree =>
  return .ofList (← Reader.entries read from_ depth tree)

def readMediaType : Reader MediaType :=
  Reader.record "struct MediaType"
    [Reader.field "schema" (Reader.optional readSchema) fun x m => { m with schema := x }] {}

def readResponse : Reader Response :=
  Reader.record "struct Response"
    [Reader.field "description" (Reader.optional Reader.text)
        fun x r => { r with description := x },
      Reader.field "content" (readTable readMediaType) fun x r => { r with content := x }]
    {}

def readOperation : Reader Operation :=
  Reader.record "struct Operation"
    [Reader.field "operationId" (Reader.optional Reader.text)
        fun x o => { o with operationId := x },
      Reader.field "summary" (Reader.optional Reader.text) fun x o => { o with summary := x },
      Reader.field "tags" (Reader.list Reader.text) fun x o => { o with tags := x },
      Reader.field "parameters" (Reader.list readParameter) fun x o => { o with parameters := x },
      Reader.field "requestBody" (Reader.optional readRequestBody)
        fun x o => { o with requestBody := x },
      Reader.field "responses" (readTable readResponse) fun x o => { o with responses := x }]
    {}

def readPathItem : Reader PathItem :=
  Reader.record "struct PathItem"
    (Reader.field "parameters" (Reader.list readParameter) (fun x i => { i with parameters := x }) ::
      Method.all.map fun method =>
        Reader.counted method.lowerName (Reader.optional readOperation) fun x i =>
          { i with operation? := fun m => if m = method then x else i.operation? m })
    {}

def readInfo : Reader Info :=
  Reader.record "struct Info"
    [Reader.needed "title" Reader.text fun x i => { i with title := x },
      Reader.needed "version" Reader.text fun x i => { i with version := x },
      Reader.field "description" (Reader.optional Reader.text)
        fun x i => { i with description := x }]
    { title := "", version := "" }

def readComponents : Reader Components :=
  Reader.record "struct Components"
    [Reader.field "schemas" (readTable readSchema) fun x c => { c with schemas := x },
      Reader.field "parameters" (readTable readParameter) fun x c => { c with parameters := x },
      Reader.field "requestBodies" (readTable readRequestBody)
        fun x c => { c with requestBodies := x }]
    {}

def readDocument : Reader Document :=
  Reader.record "struct OpenApiSpec"
    [Reader.needed "openapi" Reader.text fun x d => { d with openapi := x },
      Reader.needed "info" readInfo fun x d => { d with info := x },
      Reader.field "paths" (readTable readPathItem) fun x d => { d with paths := x },
      Reader.field "components" (Reader.optional readComponents)
        fun x d => { d with components := x }]
    { openapi := "", info := { title := "", version := "" } }

/-- Why a text is not an API description. -/
inductive ReadError where
  | yaml
  | json (fault : Fault)
  | unsupportedVersion (version : String)
deriving DecidableEq, Repr

def ReadError.message : ReadError → String
  | .yaml => "invalid OpenAPI YAML"
  | .json fault => "invalid OpenAPI JSON: " ++ fault.message
  | .unsupportedVersion version =>
    "unsupported OpenAPI version " ++ version ++ ", expected 3.x"

def readText {α : Type} (read : Reader α) : Format → String → Except ReadError α
  | .yaml, text => (fromYaml read text).mapError fun _ => .yaml
  | .json, text => (fromJson read text).mapError .json

def Document.supported (document : Document) : Bool :=
  ['3', '.'].isPrefixOf document.openapi.toList

/-- Reads an API description. Its shape is checked before its version. -/
def Document.read (format : Format) (text : String) : Except ReadError Document := do
  let document ← readText readDocument format text
  if document.supported then return document
  else throw (.unsupportedVersion document.openapi)

end ServerScaffold.Api
