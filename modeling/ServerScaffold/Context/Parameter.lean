import ServerScaffold.Cpp.TypeExpr
import ServerScaffold.Interface.Model

/-!
What the templates are told about a parameter. Its type is first that of its node, and is then adapted
to the place where the parameter is carried.
-/
namespace ServerScaffold.Context

open Cpp (Settings TypeExpr)
open Interface (Leaf Location Node)

/-- How the place of a parameter changes it. -/
inductive Adaptation where
  /-- The raw value of a header takes the place of both types. -/
  | header (rawType : String)
  /-- The type is wrapped, and so is the base type if one is given. -/
  | query (dataType : String) (baseType : Option String)
  | body (isStringOrDate : Bool)
  | unchanged
deriving DecidableEq, Repr

structure Parameter where
  paramName : String
  baseName : String
  location : Location
  dataType : String
  baseType : String
  isOptional : Bool
  isPrimitiveType : Bool
  required : Bool
  description : Option String
  isStringOrDate : Option Bool
deriving DecidableEq, Repr

def optionalText (inner : TypeExpr) : String := (TypeExpr.optional inner).text

def isTextLike : Node → Bool
  | .leaf .string _ | .leaf (.enumeration _) _ | .leaf .uuid _ | .leaf .uri _
  | .leaf .date _ => true
  | _ => false

def adaptation (settings : Settings) (parameter : Interface.Parameter) : Adaptation :=
  match parameter.location with
  | .header => .header (optionalText (.scalar Cpp.rawHeaderToken))
  | .query =>
    let expr := Cpp.resolve settings parameter.node
    if expr.isScalar then .query (optionalText expr) none
    else
      .query (optionalText (expr.qualified settings.modelScope?))
        (some (optionalText (.scalar expr.baseType)))
  | .body => .body (isTextLike parameter.node)
  | _ => .unchanged

def Parameter.adapt (p : Parameter) : Adaptation → Parameter
  | .header rawType => { p with baseType := rawType, dataType := rawType }
  | .query dataType baseType =>
    { p with dataType, baseType := baseType.getD p.baseType, isOptional := true }
  | .body isStringOrDate => { p with isStringOrDate := some isStringOrDate }
  | .unchanged => p

/-- A parameter before it is adapted to its place. -/
def Parameter.plain (settings : Settings) (parameter : Interface.Parameter) : Parameter :=
  let expr := Cpp.resolve settings parameter.node
  { paramName := Cpp.variableName settings parameter.name
    baseName := parameter.name
    location := parameter.location
    dataType := expr.text
    baseType := expr.baseType
    isOptional := !parameter.required
    isPrimitiveType := expr.isScalar
    required := parameter.required
    description := parameter.description
    isStringOrDate := none }

def Parameter.of (settings : Settings) (parameter : Interface.Parameter) : Parameter :=
  (Parameter.plain settings parameter).adapt (adaptation settings parameter)

/-- Parameters of forms, files and cookies have to be taken from the request by hand. -/
def isParsed (parameter : Interface.Parameter) : Bool :=
  match parameter.location with
  | .form | .file | .cookie => false
  | _ => true

end ServerScaffold.Context
