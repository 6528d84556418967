import ServerScaffold.Context.Parameter
import ServerScaffold.Cpp.Include
import ServerScaffold.Cpp.Route

/-!
What the templates are told about an operation.
-/
namespace ServerScaffold.Context

open Cpp (Settings)

/-- The schema whose responses are raw bodies. -/
def rawContentName : String := "HttpContent"

def jsonType : String := "application/json"

structure Operation where
  nickname : String
  operationIdSnakeCase : String
  httpMethod : String
  path : String
  summary : Option String
  params : List Parameter
  imports : List String
  requiresModelImport : Bool
  route : String
  consumesJson : Bool
  response : Option String
  responseIsHttpContent : Bool
  isParsingSupported : Bool
deriving DecidableEq, Repr

def acceptsJson (types : List String) : Bool := types.contains jsonType

/-- The symbols that an operation needs: the classes it refers to, and those of its types. -/
def operationSymbols (settings : Settings) (operation : Interface.Operation) : List String :=
  let ofNode (node : Interface.Node) := Cpp.symbols settings (Cpp.resolve settings node)
  (operation.imports.map (Cpp.className settings) ++
    operation.parameters.flatMap (fun parameter => ofNode parameter.node) ++
    operation.response.toList.flatMap ofNode).eraseDups

def isRawContent (settings : Settings) (response : Option Interface.Node) : Bool :=
  match response.map (Cpp.resolve settings) with
  | some (.model _ name) => name == Cpp.className settings rawContentName
  | _ => false

def Operation.of (settings : Settings) (operation : Interface.Operation) : Operation :=
  let symbols := operationSymbols settings operation
  { nickname := Interface.camelName operation.name
    operationIdSnakeCase := Interface.snakeName operation.name
    httpMethod := Cpp.methodName operation.method
    path := operation.path
    summary := operation.summary
    params := operation.parameters.map (Parameter.of settings)
    imports := Cpp.directives settings symbols
    requiresModelImport := Cpp.needsModel settings symbols
    route := Cpp.route operation.path
    consumesJson := acceptsJson operation.consumes
    response := operation.response.map (Cpp.declaration settings)
    responseIsHttpContent := isRawContent settings operation.response
    isParsingSupported := operation.parameters.all isParsed }

end ServerScaffold.Context
