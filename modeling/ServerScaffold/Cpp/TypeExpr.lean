import ServerScaffold.Cpp.Naming

/-!
Types of the generated code, kept as trees until they are printed, and the type of a node.
-/
namespace ServerScaffold.Cpp

open Interface (Node)

inductive TypeExpr where
  | scalar (token : String)
  | container (name : String) (args : List TypeExpr)
  | model (scope : Option String) (name : String)
  | optional (inner : TypeExpr)
  | shared (inner : TypeExpr)
deriving Repr

namespace TypeExpr

instance : Inhabited TypeExpr := ⟨.scalar ""⟩

def isScalar : TypeExpr → Bool
  | .scalar _ => true
  | _ => false

mutual

def text : TypeExpr → String
  | .scalar token => token
  | .container name args => name ++ "<" ++ argsText args ++ ">"
  | .model (some scope) name => scope ++ "::" ++ name
  | .model none name => name
  | .optional inner => optionalToken ++ "<" ++ inner.text ++ ">"
  | .shared inner => sharedToken ++ "<" ++ inner.text ++ ">"

def argsText : List TypeExpr → String
  | [] => ""
  | [arg] => arg.text
  | arg :: rest => arg.text ++ ", " ++ argsText rest

end

mutual

def unqualified : TypeExpr → TypeExpr
  | .scalar token => .scalar token
  | .container name args => .container name (unqualifiedArgs args)
  | .model _ name => .model none name
  | .optional inner => .optional inner.unqualified
  | .shared inner => .shared inner.unqualified

def unqualifiedArgs : List TypeExpr → List TypeExpr
  | [] => []
  | arg :: rest => arg.unqualified :: unqualifiedArgs rest

end

/-- Puts a bare model into a namespace. All else stays as it is. -/
def qualified (scope : Option String) : TypeExpr → TypeExpr
  | .model none name => .model scope name
  | expr => expr

mutual

/-- The type of the elements, for a container, and the class without namespace, for a model. -/
def baseType : TypeExpr → String
  | .scalar token => token
  | .model _ name => name
  | .container name args => (lastBaseType? args).getD (name ++ "<>")
  | .optional inner | .shared inner => inner.baseType

def lastBaseType? : List TypeExpr → Option String
  | [] => none
  | [arg] => some arg.baseType
  | _ :: rest => lastBaseType? rest

end

end TypeExpr

/-- The type of a token, or of a model in its namespace. -/
def namedType (settings : Settings) (name : String) : TypeExpr :=
  let name := className settings name
  if settings.isKnownToken name then .scalar name else .model settings.modelScope? name

/-- The type of a node. The keys of a map are always texts. -/
def resolve (settings : Settings) : Node → TypeExpr
  | .leaf kind _ => namedType settings (settings.mapped (leafName kind))
  | .union _ _ => namedType settings (settings.mapped unionName)
  | .ref name _ => namedType settings name
  | .holder .map element _ =>
    .container (settings.mapped "map")
      [.scalar (settings.mapped "string"), resolve settings element]
  | .holder container element _ =>
    .container (settings.mapped (containerName container)) [resolve settings element]

def declaration (settings : Settings) (node : Node) : String := (resolve settings node).text

def outerType (settings : Settings) (node : Node) : String :=
  match resolve settings node with
  | .container name _ => name
  | expr => expr.baseType

end ServerScaffold.Cpp
