import Mathlib.Data.List.Forall2
import ServerScaffold.Interface.Build

/-!
How an interface is put together. Building succeeds just if every operation can be built and every name
referred to is a named schema; the equations here say what the result then is.
-/
namespace ServerScaffold.Interface

open Api (Components Document)

section

variable {ε α β : Type}

theorem bind_ok {first : Except ε α} {next : α → Except ε β} {result : β} :
    first >>= next = .ok result ↔ ∃ value, first = .ok value ∧ next value = .ok result := by
  cases first with
  | error error => simp [bind, Except.bind]
  | ok value => simp [bind, Except.bind]

theorem mapM_ok {step : α → Except ε β} {inputs : List α} {results : List β} :
    inputs.mapM step = .ok results ↔ List.Forall₂ (fun a b => step a = .ok b) inputs results := by
  induction inputs generalizing results with
  | nil =>
    rw [List.forall₂_nil_left_iff]
    constructor
    · exact fun done => (Except.ok.inj done).symm
    · rintro rfl
      rfl
  | cons input rest ih =>
    rw [List.mapM_cons, List.forall₂_cons_left_iff]
    simp only [bind_ok, ih]
    constructor
    · rintro ⟨value, here, values, later, done⟩
      exact ⟨value, values, here, later, (Except.ok.inj done).symm⟩
    · rintro ⟨value, values, here, later, rfl⟩
      exact ⟨value, here, values, later, rfl⟩

theorem optionMapM_ok {step : α → Except ε β} {input : Option α} {result : Option β} :
    input.mapM step = .ok result ↔ Option.Rel (fun a b => step a = .ok b) input result := by
  cases input with
  | none =>
    constructor
    · intro done
      obtain rfl := Except.ok.inj done
      exact .none
    · intro related
      cases related
      rfl
  | some value =>
    have mapped : (some value).mapM step = some <$> step value := rfl
    rw [mapped]
    cases found : step value with
    | error error =>
      constructor
      · intro done
        contradiction
      · intro related
        cases related with
        | some here => exact absurd (found.symm.trans here) (by simp)
    | ok value' =>
      constructor
      · intro done
        obtain rfl : some value' = result := Except.ok.inj done
        exact .some found
      · intro related
        cases related with
        | some here =>
          obtain rfl := Except.ok.inj (found.symm.trans here)
          rfl

variable {related : α → β → Prop} {inputs : List α} {results : List β}

theorem pair_of_left (pairs : List.Forall₂ related inputs results) {a : α} (member : a ∈ inputs) :
    ∃ b ∈ results, related a b := by
  induction pairs with
  | nil => exact absurd member List.not_mem_nil
  | @cons _ b _ _ here _ ih =>
    rcases List.mem_cons.mp member with rfl | later
    · exact ⟨b, List.mem_cons_self, here⟩
    · obtain ⟨b, found, there⟩ := ih later
      exact ⟨b, List.mem_cons_of_mem _ found, there⟩

theorem pair_of_right (pairs : List.Forall₂ related inputs results) {b : β} (member : b ∈ results) :
    ∃ a ∈ inputs, related a b :=
  pair_of_left (List.Forall₂.flip pairs) member

theorem exists_pairs (each : ∀ a ∈ inputs, ∃ b, related a b) :
    ∃ results, List.Forall₂ related inputs results := by
  induction inputs with
  | nil => exact ⟨[], .nil⟩
  | cons input rest ih =>
    obtain ⟨⟨b, here⟩, later⟩ := List.forall_mem_cons.mp each
    obtain ⟨results, pairs⟩ := ih later
    exact ⟨b :: results, .cons here pairs⟩

end

/-- The components of a description that gives none are empty. -/
def namedParts (document : Document) : Components := document.components.getD {}

def aliasesOf (document : Document) : Table Node := aliasTable (namedParts document).schemas

/-- What a description says under its paths and methods, in their order. -/
def routes (paths : Table Api.PathItem) :
    List (String × Api.PathItem × Api.Method × Api.Operation) :=
  paths.entries.flatMap fun (path, item) =>
    item.operations.map fun (method, source) => (path, item, method, source)

theorem operations_of_routes (components : Components) (aliases : Table Node) (naming : Naming)
    (paths : Table Api.PathItem) :
    operationsOf components aliases naming paths = (routes paths).mapM fun route =>
      operation components aliases naming route.1 route.2.1 route.2.2.1 route.2.2.2 := rfl

theorem mem_operations {item : Api.PathItem} {method : Api.Method} {source : Api.Operation} :
    (method, source) ∈ item.operations ↔ item.operation? method = some source := by
  have all : method ∈ Api.Method.all := by cases method <;> decide
  simp only [Api.PathItem.operations, List.mem_filterMap, Option.map_eq_some_iff, Prod.mk.injEq]
  constructor
  · rintro ⟨_, _, _, found, rfl, rfl⟩
    exact found
  · intro found
    exact ⟨method, all, source, found, rfl, rfl⟩

theorem mem_routes {paths : Table Api.PathItem} {path : String} {item : Api.PathItem}
    {method : Api.Method} {source : Api.Operation} :
    (path, item, method, source) ∈ routes paths ↔
      (path, item) ∈ paths.entries ∧ item.operation? method = some source := by
  simp only [routes, List.mem_flatMap, List.mem_map, Prod.mk.injEq]
  constructor
  · rintro ⟨_, entry, _, listed, rfl, rfl, rfl, rfl⟩
    exact ⟨entry, mem_operations.mp listed⟩
  · rintro ⟨entry, found⟩
    exact ⟨_, entry, _, mem_operations.mpr found, rfl, rfl, rfl, rfl⟩

def partsOfBody (components : Components) : Option Api.RequestBody → Except RefError (List Parameter)
  | none => .ok []
  | some body => bodyParameters components body

/-- What is looked up for an operation: the parameters declared for its path and for itself, its body,
and the parameters that the body comes to. -/
structure LookedUp (components : Components) (item : Api.PathItem) (source : Api.Operation)
    (found : List Api.Parameter) (body : Option Api.RequestBody) (ofBody : List Parameter) : Prop where
  parameters : (item.parameters ++ source.parameters).mapM
    (followed parameterStart components.parameters) = .ok found
  request : source.requestBody.mapM (followed requestBodyStart components.requestBodies) = .ok body
  parts : partsOfBody components body = .ok ofBody

def inlinedParameter (aliases : Table Node) (parameter : Parameter) : Parameter :=
  { parameter with node := inlineAliases aliases parameter.node }

def answerSchema? (source : Api.Operation) : Option Api.Schema :=
  (successResponse? source.responses).bind responseSchema?

def composed (aliases : Table Node) (naming : Naming) (path : String) (method : Api.Method)
    (source : Api.Operation) (found : List Api.Parameter) (body : Option Api.RequestBody)
    (ofBody : List Parameter) : Operation :=
  let raw := rawName naming.strategy method path source
  let parameters := ((merged found).map declared ++ ofBody).map (inlinedParameter aliases)
  let response := (answerSchema? source).map fun schema => inlineAliases aliases (schemaNode schema)
  { name := (naming.aliases.get? raw).getD raw
    operationId := source.operationId
    method
    path
    summary := source.summary
    tags := source.tags
    parameters
    response
    consumes := match body with
      | none => []
      | some body => body.content.keys
    imports := (parameters.flatMap (·.node.refs) ++ response.toList.flatMap (·.refs)).eraseDups }

/-- An operation is put together from what is looked up for it. -/
theorem operation_eq (components : Components) (aliases : Table Node) (naming : Naming) (path : String)
    (item : Api.PathItem) (method : Api.Method) (source : Api.Operation) :
    operation components aliases naming path item method source =
      (item.parameters ++ source.parameters).mapM (followed parameterStart components.parameters) >>= fun found =>
        source.requestBody.mapM (followed requestBodyStart components.requestBodies) >>= fun body =>
          partsOfBody components body >>= fun ofBody =>
            .ok (composed aliases naming path method source found body ofBody) := by
  unfold operation
  refine bind_congr fun found => bind_congr fun body => ?_
  cases body <;> rfl

section

variable {components : Components} {aliases : Table Node} {naming : Naming} {path : String}
  {item : Api.PathItem} {method : Api.Method} {source : Api.Operation} {result : Operation}

theorem operation_ok :
    operation components aliases naming path item method source = .ok result ↔
      ∃ found body ofBody, LookedUp components item source found body ofBody ∧
        result = composed aliases naming path method source found body ofBody := by
  simp only [operation_eq, bind_ok, Except.ok.injEq]
  constructor
  · rintro ⟨found, parameters, body, request, ofBody, parts, rfl⟩
    exact ⟨found, body, ofBody, ⟨parameters, request, parts⟩, rfl⟩
  · rintro ⟨found, body, ofBody, ⟨parameters, request, parts⟩, rfl⟩
    exact ⟨found, parameters, body, request, ofBody, parts, rfl⟩

theorem looked_up_unique {found found' : List Api.Parameter} {body body' : Option Api.RequestBody}
    {ofBody ofBody' : List Parameter} (looked : LookedUp components item source found body ofBody)
    (again : LookedUp components item source found' body' ofBody') :
    found = found' ∧ body = body' ∧ ofBody = ofBody' := by
  have found : found = found' := Except.ok.inj (looked.parameters.symm.trans again.parameters)
  obtain rfl : body = body' := Except.ok.inj (looked.request.symm.trans again.request)
  exact ⟨found, rfl, Except.ok.inj (looked.parts.symm.trans again.parts)⟩

/-- The nodes of an operation: those of its parameters, then that of its response. -/
def Operation.nodes (operation : Operation) : List Node :=
  operation.parameters.map (·.node) ++ operation.response.toList

theorem composed_imports (found : List Api.Parameter) (body : Option Api.RequestBody)
    (ofBody : List Parameter) :
    (composed aliases naming path method source found body ofBody).imports =
      ((composed aliases naming path method source found body ofBody).nodes.flatMap
        Node.refs).eraseDups := by
  simp [composed, Operation.nodes, List.flatMap_map]

theorem operation_route
    (built : operation components aliases naming path item method source = .ok result) :
    result.path = path ∧ result.method = method ∧ result.tags = source.tags := by
  obtain ⟨found, body, ofBody, _, rfl⟩ := operation_ok.mp built
  exact ⟨rfl, rfl, rfl⟩

end

/-- The interface that a description comes to, if all its operations can be built. -/
structure Assembled (naming : Naming) (document : Document) (source : Interface) : Prop where
  title : source.title = document.info.title
  description : source.description = document.info.description
  version : source.version = document.info.version
  models : source.models = modelsOf (namedParts document) (aliasesOf document)
  operations : List.Forall₂ (fun route result =>
    operation (namedParts document) (aliasesOf document) naming route.1 route.2.1 route.2.2.1
      route.2.2.2 = .ok result) (routes document.paths) source.operations
  groups : source.groups = groupsOf source.operations

/-- The interface of some operations. -/
def together (document : Document) (operations : List Operation) : Interface where
  title := document.info.title
  description := document.info.description
  version := document.info.version
  models := modelsOf (namedParts document) (aliasesOf document)
  operations
  groups := groupsOf operations

/-- Parameters and bodies can be looked up for every operation. -/
def Buildable (document : Document) : Prop :=
  ∀ path item method given, (path, item, method, given) ∈ routes document.paths →
    ∃ found body ofBody, LookedUp (namedParts document) item given found body ofBody

/-- A model belongs to a named schema that is no alias. -/
theorem mem_modelsOf {components : Components} {aliases : Table Node} {result : Model} :
    result ∈ modelsOf components aliases ↔ ∃ name schema, (name, schema) ∈ components.schemas.entries ∧
      name ∉ aliases.keys ∧ result = model aliases name schema := by
  simp only [modelsOf, List.mem_filterMap, Prod.exists, Option.ite_none_left_eq_some,
    Option.some.injEq, Table.contains, List.contains_eq_mem, decide_eq_true_eq]
  simp only [eq_comm]

section

variable {naming : Naming} {document : Document} {source : Interface}

theorem mem_models (assembled : Assembled naming document source) {result : Model} :
    result ∈ source.models ↔ ∃ name schema, (name, schema) ∈ (namedParts document).schemas.entries ∧
      name ∉ (aliasesOf document).keys ∧ result = model (aliasesOf document) name schema := by
  rw [assembled.models, mem_modelsOf]

theorem operation_has_route (assembled : Assembled naming document source) {result : Operation}
    (member : result ∈ source.operations) : ∃ path item method given found body ofBody,
      (path, item, method, given) ∈ routes document.paths ∧
      LookedUp (namedParts document) item given found body ofBody ∧
      result = composed (aliasesOf document) naming path method given found body ofBody := by
  obtain ⟨⟨path, item, method, given⟩, route, built⟩ := pair_of_right assembled.operations member
  obtain ⟨found, body, ofBody, looked, same⟩ := operation_ok.mp built
  exact ⟨path, item, method, given, found, body, ofBody, route, looked, same⟩

theorem route_has_operation (assembled : Assembled naming document source) {path : String}
    {item : Api.PathItem} {method : Api.Method} {given : Api.Operation}
    (route : (path, item, method, given) ∈ routes document.paths) : ∃ found body ofBody,
      LookedUp (namedParts document) item given found body ofBody ∧
      composed (aliasesOf document) naming path method given found body ofBody ∈
        source.operations := by
  obtain ⟨result, member, built⟩ := pair_of_left assembled.operations route
  obtain ⟨found, body, ofBody, looked, rfl⟩ := operation_ok.mp built
  exact ⟨found, body, ofBody, looked, member⟩

theorem together_assembled {operations : List Operation}
    (built : List.Forall₂ (fun route result =>
      operation (namedParts document) (aliasesOf document) naming route.1 route.2.1 route.2.2.1
        route.2.2.2 = .ok result) (routes document.paths) operations) :
    Assembled naming document (together document operations) :=
  ⟨rfl, rfl, rfl, rfl, built, rfl⟩

theorem buildable_iff (naming : Naming) (document : Document) :
    Buildable document ↔ ∃ source, Assembled naming document source := by
  constructor
  · intro buildable
    have each : ∀ route ∈ routes document.paths, ∃ result, operation (namedParts document)
        (aliasesOf document) naming route.1 route.2.1 route.2.2.1 route.2.2.2 = .ok result := by
      rintro ⟨path, item, method, given⟩ listed
      obtain ⟨found, body, ofBody, looked⟩ := buildable path item method given listed
      exact ⟨_, operation_ok.mpr ⟨found, body, ofBody, looked, rfl⟩⟩
    obtain ⟨operations, built⟩ := exists_pairs each
    exact ⟨together document operations, together_assembled built⟩
  · rintro ⟨source, assembled⟩ path item method given route
    obtain ⟨found, body, ofBody, looked, _⟩ := route_has_operation assembled route
    exact ⟨found, body, ofBody, looked⟩

end

/-- Every name that a model or an operation imports is a named schema. -/
def AllNamed (document : Document) (source : Interface) : Prop :=
  ∀ name ∈ source.models.flatMap (·.imports) ++ source.operations.flatMap (·.imports),
    name ∈ (namedParts document).schemas.keys

theorem missing_none {components : Components} {models : List Model} {operations : List Operation} :
    missingName? components models operations = none ↔
      ∀ name ∈ models.flatMap (·.imports) ++ operations.flatMap (·.imports),
        name ∈ components.schemas.keys := by
  unfold missingName?
  rw [List.find?_eq_none]
  simp [Table.contains]

/-- The names that are imported are checked in their order, and the first that is missing is reported. -/
theorem missing_some {components : Components} {models : List Model} {operations : List Operation}
    {name : String} :
    missingName? components models operations = some name ↔ ∃ before after,
      models.flatMap (·.imports) ++ operations.flatMap (·.imports) = before ++ name :: after ∧
        (∀ earlier ∈ before, earlier ∈ components.schemas.keys) ∧ name ∉ components.schemas.keys := by
  unfold missingName?
  rw [List.find?_eq_some_iff_append]
  constructor
  · rintro ⟨missing, before, after, split, earlier⟩
    refine ⟨before, after, split, fun other listed => ?_, by simpa [Table.contains] using missing⟩
    simpa [Table.contains] using earlier other listed
  · rintro ⟨before, after, split, earlier, missing⟩
    refine ⟨by simpa [Table.contains] using missing, before, after, split, fun other listed => ?_⟩
    simpa [Table.contains] using earlier other listed

/-- What is left to do once all operations are built: the names are checked, and the parts put together. -/
def finished (document : Document) (operations : List Operation) : Except RefError Interface :=
  match missingName? (namedParts document) (modelsOf (namedParts document) (aliasesOf document))
    operations with
  | some name => .error (.notFound (schemaPointer name))
  | none => .ok (together document operations)

theorem ofDocument_eq (naming : Naming) (document : Document) :
    ofDocument naming document =
      operationsOf (namedParts document) (aliasesOf document) naming document.paths >>=
        finished document := rfl

theorem document_ok {naming : Naming} {document : Document} {source : Interface} :
    ofDocument naming document = .ok source ↔
      Assembled naming document source ∧ AllNamed document source := by
  simp only [ofDocument_eq, bind_ok, operations_of_routes, mapM_ok]
  constructor
  · rintro ⟨operations, built, done⟩
    unfold finished at done
    split at done
    · contradiction
    · next missing =>
      obtain rfl := Except.ok.inj done
      exact ⟨together_assembled built, missing_none.mp missing⟩
  · rintro ⟨assembled, named⟩
    obtain ⟨title, description, version, models, operations, groups⟩ := source
    obtain ⟨rfl, rfl, rfl, rfl, built, same⟩ := assembled
    obtain rfl : groups = groupsOf operations := same
    refine ⟨operations, built, ?_⟩
    unfold finished
    rw [missing_none.mpr named]
    rfl

end ServerScaffold.Interface
