import ServerScaffold.Api.Schema
import ServerScaffold.Table

/-!
An API description: its operations by path and method, and the components they refer to.
-/
namespace ServerScaffold.Api

inductive Place where
  | query | header | path | cookie
deriving DecidableEq, Repr

structure Parameter where
  name : String
  place : Place
  description : Option String := none
  required : Bool := false
  schema : Option Schema := none

/-- A component in place, or a pointer to one. -/
inductive OrRef (α : Type) where
  | ref (pointer : String)
  | inline (value : α)

structure MediaType where
  schema : Option Schema := none

structure RequestBody where
  description : Option String := none
  content : Table MediaType := ∅
  required : Bool := false

structure Response where
  description : Option String := none
  content : Table MediaType := ∅

structure Operation where
  operationId : Option String := none
  summary : Option String := none
  tags : List String := []
  parameters : List (OrRef Parameter) := []
  requestBody : Option (OrRef RequestBody) := none
  responses : Table Response := ∅

inductive Method where
  | get | put | post | delete | options | head | patch | trace
deriving DecidableEq, Repr

namespace Method

/-- All methods, in the order in which the operations of a path are listed. -/
def all : List Method := [.get, .put, .post, .delete, .options, .head, .patch, .trace]

def lowerName : Method → String
  | .get => "get"
  | .put => "put"
  | .post => "post"
  | .delete => "delete"
  | .options => "options"
  | .head => "head"
  | .patch => "patch"
  | .trace => "trace"

def upperName : Method → String
  | .get => "GET"
  | .put => "PUT"
  | .post => "POST"
  | .delete => "DELETE"
  | .options => "OPTIONS"
  | .head => "HEAD"
  | .patch => "PATCH"
  | .trace => "TRACE"

end Method

structure PathItem where
  parameters : List (OrRef Parameter) := []
  operation? : Method → Option Operation := fun _ => none

/-- The operations of a path, in the order of the methods. -/
def PathItem.operations (item : PathItem) : List (Method × Operation) :=
  Method.all.filterMap fun method => (item.operation? method).map (method, ·)

structure Components where
  schemas : Table Schema := ∅
  parameters : Table (OrRef Parameter) := ∅
  requestBodies : Table (OrRef RequestBody) := ∅

structure Info where
  title : String
  version : String
  description : Option String := none

structure Document where
  openapi : String
  info : Info
  paths : Table PathItem := ∅
  components : Option Components := none

end ServerScaffold.Api
