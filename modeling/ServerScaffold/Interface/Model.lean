import ServerScaffold.Api.Document
import ServerScaffold.Interface.Name
import ServerScaffold.Interface.Node

/-!
The interface that a description comes to: models, operations, and groups of operations. Names are
kept as given; their spellings are computed where they are needed.
-/
namespace ServerScaffold

namespace Interface

structure Property where
  name : String
  node : Node
  required : Bool
  description : Option String := none

/-- A class to be generated for a named schema. -/
structure Model where
  name : String
  description : Option String := none
  properties : List Property := []
  /-- The names of the schemas that the model refers to. -/
  imports : List String := []
  /-- The names of the schemas that it is composed of. -/
  interfaces : List String := []
  values : List String := []
  isEnum : Bool := false
  branches : List Node := []

/-- Where a parameter is carried in a request. A file is a binary part of a form. -/
inductive Location where
  | path | query | header | cookie | body | form | file
deriving DecidableEq, Repr

def Location.name : Location → String
  | .path => "path"
  | .query => "query"
  | .header => "header"
  | .cookie => "cookie"
  | .body => "body"
  | .form => "form"
  | .file => "file"

structure Parameter where
  name : String
  location : Location
  node : Node
  required : Bool
  description : Option String := none

structure Operation where
  name : String
  operationId : Option String := none
  method : Api.Method
  path : String
  summary : Option String := none
  tags : List String := []
  parameters : List Parameter := []
  response : Option Node := none
  consumes : List String := []
  imports : List String := []

/-- Operations with one first tag, by their positions. -/
structure Group where
  name : String
  members : List Nat
deriving DecidableEq, Repr

end Interface

open Interface in
structure Interface where
  title : String
  description : Option String := none
  version : String
  models : List Model
  operations : List Operation
  groups : List Group

end ServerScaffold
