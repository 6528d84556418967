import ServerScaffold.Context.Server

/-!
The context in the form in which the templates take it: objects with fixed names. What is absent has
no entry.
-/
namespace ServerScaffold.Context

open Cpp (ModelStyle Namespace SupportingFile)

def textData (value : String) : Literal := .atom (.text value)

def flagData (value : Bool) : Literal := .atom (.bool value)

def textsData (values : List String) : Literal := .list (values.map textData)

def optionalEntry (name : String) (value : Option Literal) : List (String × Literal) :=
  value.toList.map (name, ·)

def Parameter.data (p : Parameter) : Literal :=
  .object <|
    [("param_name", textData p.paramName), ("base_name", textData p.baseName),
      ("location", textData p.location.name), ("data_type", textData p.dataType),
      ("base_type", textData p.baseType), ("is_optional", flagData p.isOptional),
      ("is_primitive_type", flagData p.isPrimitiveType), ("required", flagData p.required)] ++
    optionalEntry "description" (p.description.map textData) ++
    optionalEntry "x-codegen-pistache-is-string-or-date" (p.isStringOrDate.map flagData)

def Operation.data (o : Operation) : Literal :=
  .object <|
    [("nickname", textData o.nickname),
      ("operation_id_snake_case", textData o.operationIdSnakeCase),
      ("http_method", textData o.httpMethod), ("path", textData o.path)] ++
    optionalEntry "summary" (o.summary.map textData) ++
    [("params", .list (o.params.map Parameter.data)), ("imports", textsData o.imports),
      ("requires_model_import", flagData o.requiresModelImport),
      ("x-codegen-pistache-path", textData o.route),
      ("x-codegen-pistache-consumes-json", flagData o.consumesJson)] ++
    optionalEntry "x-codegen-response" (o.response.map textData) ++
    [("x-codegen-response-ishttpcontent", flagData o.responseIsHttpContent),
      ("x-codegen-pistache-is-parsing-supported", flagData o.isParsingSupported)]

def Property.data (p : Property) : Literal :=
  .object <|
    [("name", textData p.name), ("base_name", textData p.baseName),
      ("data_type", textData p.dataType), ("default_value", textData p.defaultValue),
      ("required", flagData p.required), ("is_container", flagData p.isContainer)] ++
    optionalEntry "description" (p.description.map textData)

def Model.data (m : Model) : Literal :=
  .object <|
    [("classname", textData m.classname), ("header_file", textData m.headerFile),
      ("source_file", textData m.sourceFile)] ++
    optionalEntry "description" (m.description.map textData) ++
    [("imports", textsData m.imports), ("vars", .list (m.vars.map Property.data)),
      ("is_enum", flagData m.isEnum), ("enum_values", textsData m.enumValues),
      ("x-is-string-enum-container", flagData m.isStringEnumContainer)]

def Api.data (a : Api) : Literal :=
  .object
    [("classname", textData a.classname),
      ("classnameSnakeUpperCase", textData a.classnameSnakeUpperCase),
      ("classnameSnakeLowerCase", textData a.classnameSnakeLowerCase),
      ("files", .object
        [("header", textData a.header), ("source", textData a.source),
          ("impl_header", textData a.implHeader), ("impl_source", textData a.implSource)]),
      ("has_model_import", flagData a.hasModelImport),
      ("operations", .list (a.operations.map Operation.data))]

def namespaceData (ns : Namespace) : Literal :=
  .object [("name", textData ns.name), ("declarations", textsData ns.parts)]

def styleName : ModelStyle → String
  | .accessor => "accessor"
  | .struct => "struct"

def supportingFileData (file : SupportingFile) : Literal :=
  .object [("template", textData file.template), ("destination", textData file.destination)]

def Server.data (s : Server) : Literal :=
  let (header, source) := s.modelStyle.templates
  .object <|
    [("app_name", textData s.appName), ("app_version", textData s.appVersion)] ++
    optionalEntry "app_description" (s.appDescription.map textData) ++
    [("namespaces", .object
        [("model", namespaceData s.modelNamespace), ("api", namespaceData s.apiNamespace),
          ("helpers", namespaceData s.helpersNamespace)]),
      ("add_external_libs", flagData s.addExternalLibs),
      ("reserved_word_prefix", textData s.reservedWordPrefix),
      ("model_style", textData (styleName s.modelStyle)),
      ("model_templates", .object [("header", textData header), ("source", textData source)]),
      ("models", .list (s.models.map Model.data)), ("apis", .list (s.apis.map Api.data)),
      ("supporting_files", .list (s.supportingFiles.map supportingFileData))]

end ServerScaffold.Context
