import ServerScaffold.Proofs.AliasClosure
import ServerScaffold.Proofs.Assembly
import ServerScaffold.Proofs.Tables

/-!
Descriptions that are built alike. Schemas are alike if no stage of building tells them apart. Two descriptions
that only differ in schemas, with one that is like it in the place of each, come to the same aliases, models and
operations, and in the end to the same interface or the same error.
-/
namespace ServerScaffold

open List (Forall₂)

/-- Entries of one name with related values. -/
def EntryRel {κ α β : Type} (related : α → β → Prop) (entry : κ × α) (other : κ × β) : Prop :=
  entry.1 = other.1 ∧ related entry.2 other.2

/-- Tables of the same names, in the same order, with related values. -/
def Table.Rel {α β : Type} (related : α → β → Prop) (table : Table α) (other : Table β) : Prop :=
  Forall₂ (EntryRel related) table.entries other.entries

section Entries

variable {κ α β γ : Type} {related : α → β → Prop} {inputs : List α} {others : List β}

theorem map_same {form : α → γ} {form' : β → γ} (pairs : Forall₂ related inputs others)
    (each : ∀ ⦃a b⦄, related a b → form a = form' b) : inputs.map form = others.map form' := by
  have same := List.rel_map (P := Eq) each pairs
  rwa [List.forall₂_eq_eq_eq] at same

theorem filterMap_same {form : α → Option γ} {form' : β → Option γ} (pairs : Forall₂ related inputs others)
    (each : ∀ ⦃a b⦄, related a b → form a = form' b) : inputs.filterMap form = others.filterMap form' := by
  induction pairs with
  | nil => rfl
  | cons first _ ih => rw [List.filterMap_cons, List.filterMap_cons, each first, ih]

theorem foldl_same {step : γ → α → γ} {step' : γ → β → γ} (pairs : Forall₂ related inputs others)
    (each : ∀ found ⦃a b⦄, related a b → step found a = step' found b) (start : γ) :
    inputs.foldl step start = others.foldl step' start := by
  have both : ∀ ⦃found found'⦄, found = found' → ∀ ⦃a b⦄, related a b → step found a = step' found' b := by
    rintro found _ rfl
    exact each found
  exact List.rel_foldl both rfl pairs

theorem putEntry_rel [DecidableEq κ] {entries : List (κ × α)} {entries' : List (κ × β)} {value : α} {value' : β}
    (name : κ) (here : related value value') (pairs : Forall₂ (EntryRel related) entries entries') :
    Forall₂ (EntryRel related) (putEntry name value entries) (putEntry name value' entries') := by
  induction pairs with
  | nil => exact .cons ⟨rfl, here⟩ .nil
  | cons first rest ih =>
    unfold putEntry
    rw [← first.1]
    split
    · exact .cons ⟨rfl, here⟩ rest
    · exact .cons first ih

theorem lookup_rel {entries : List (String × α)} {entries' : List (String × β)} (name : String)
    (pairs : Forall₂ (EntryRel related) entries entries') :
    Option.Rel related (entries.lookup name) (entries'.lookup name) := by
  induction pairs with
  | nil => exact .none
  | @cons entry entry' _ _ first _ ih =>
    obtain ⟨own, value⟩ := entry
    obtain ⟨_, value'⟩ := entry'
    obtain ⟨rfl, here⟩ := first
    cases found : name == own with
    | true => simpa only [List.lookup_cons, found] using Option.Rel.some here
    | false => simpa only [List.lookup_cons, found] using ih

end Entries

namespace Table

variable {α β : Type} {related : α → β → Prop} {table : Table α} {other : Table β}

theorem Rel.keys (rel : Table.Rel related table other) : table.keys = other.keys :=
  map_same rel fun _ _ here => here.1

theorem Rel.contains (rel : Table.Rel related table other) (name : String) :
    table.contains name = other.contains name := by
  rw [Table.contains, Table.contains, rel.keys]

theorem Rel.get (rel : Table.Rel related table other) (name : String) :
    Option.Rel related (table.get? name) (other.get? name) :=
  lookup_rel name rel

end Table

namespace Api

/-- Related components in place, or the same pointer. -/
inductive OrRef.Rel {α β : Type} (related : α → β → Prop) : OrRef α → OrRef β → Prop where
  | ref (pointer : String) : Rel related (.ref pointer) (.ref pointer)
  | inline {value : α} {value' : β} (here : related value value') : Rel related (.inline value) (.inline value')

variable (related : Schema → Schema → Prop)

inductive Parameter.Rel : Parameter → Parameter → Prop where
  | intro {given : Parameter} {schema : Option Schema} (schemas : Option.Rel related given.schema schema) :
      Rel given { given with schema }

structure MediaType.Rel (given other : MediaType) : Prop where
  schema : Option.Rel related given.schema other.schema

inductive RequestBody.Rel : RequestBody → RequestBody → Prop where
  | intro {given : RequestBody} {content : Table MediaType}
      (contents : Table.Rel (MediaType.Rel related) given.content content) : Rel given { given with content }

inductive Response.Rel : Response → Response → Prop where
  | intro {given : Response} {content : Table MediaType}
      (contents : Table.Rel (MediaType.Rel related) given.content content) : Rel given { given with content }

inductive Operation.Rel : Operation → Operation → Prop where
  | intro {given : Operation} {parameters : List (OrRef Parameter)} {requestBody : Option (OrRef RequestBody)}
      {responses : Table Response}
      (declared : Forall₂ (OrRef.Rel (Parameter.Rel related)) given.parameters parameters)
      (bodies : Option.Rel (OrRef.Rel (RequestBody.Rel related)) given.requestBody requestBody)
      (answers : Table.Rel (Response.Rel related) given.responses responses) :
      Rel given { given with parameters, requestBody, responses }

structure PathItem.Rel (given other : PathItem) : Prop where
  parameters : Forall₂ (OrRef.Rel (Parameter.Rel related)) given.parameters other.parameters
  operations : ∀ method, Option.Rel (Operation.Rel related) (given.operation? method) (other.operation? method)

structure Components.Rel (given other : Components) : Prop where
  schemas : Table.Rel related given.schemas other.schemas
  parameters : Table.Rel (OrRef.Rel (Parameter.Rel related)) given.parameters other.parameters
  requestBodies : Table.Rel (OrRef.Rel (RequestBody.Rel related)) given.requestBodies other.requestBodies

/-- Descriptions that only differ in schemas, and have related ones in the same places. -/
structure Document.Rel (given other : Document) : Prop where
  openapi : given.openapi = other.openapi
  info : given.info = other.info
  paths : Table.Rel (PathItem.Rel related) given.paths other.paths
  components : Option.Rel (Components.Rel related) given.components other.components

end Api

namespace Interface

open Api (Components Document Keywords OrRef Schema pointerName)

/-- The same error, or related results. -/
inductive SameOutcome {ε α β : Type} (related : α → β → Prop) : Except ε α → Except ε β → Prop where
  | error (error : ε) : SameOutcome related (.error error) (.error error)
  | ok {result : α} {result' : β} (here : related result result') : SameOutcome related (.ok result) (.ok result')

section Outcomes

variable {ε α α' β β' : Type} {related : α → α' → Prop} {results : β → β' → Prop}

theorem same_outcome_iff {first second : Except ε α} : SameOutcome Eq first second ↔ first = second := by
  constructor
  · intro same
    cases same with
    | error _ => rfl
    | ok here => rw [here]
  · rintro rfl
    cases first with
    | error error => exact .error error
    | ok result => exact .ok rfl

theorem same_bind {first : Except ε α} {first' : Except ε α'} {next : α → Except ε β} {next' : α' → Except ε β'}
    (same : SameOutcome related first first')
    (each : ∀ a a', related a a' → SameOutcome results (next a) (next' a')) :
    SameOutcome results (first >>= next) (first' >>= next') := by
  cases same with
  | error error => exact .error error
  | ok here => exact each _ _ here

variable {step : α → Except ε β} {step' : α' → Except ε β'}
  (each : ∀ a a', related a a' → SameOutcome results (step a) (step' a'))

include each

theorem same_mapM {inputs : List α} {inputs' : List α'} (pairs : Forall₂ related inputs inputs') :
    SameOutcome (Forall₂ results) (inputs.mapM step) (inputs'.mapM step') := by
  induction pairs with
  | nil => exact .ok .nil
  | cons first _ ih =>
    rw [List.mapM_cons, List.mapM_cons]
    refine same_bind (each _ _ first) fun _ _ here => ?_
    exact same_bind ih fun _ _ later => .ok (.cons here later)

theorem same_optionMapM {input : Option α} {input' : Option α'} (pair : Option.Rel related input input') :
    SameOutcome (Option.Rel results) (input.mapM step) (input'.mapM step') := by
  cases pair with
  | none => exact .ok .none
  | some here => exact same_bind (each _ _ here) fun _ _ later => .ok (.some later)

end Outcomes

/-- Schemas that the stages do not tell apart. Of a reference all stages read the pointer; of keywords each one
reads a part: the node, the values beside it for an alias, the fields of a form, and the model. -/
inductive Alike : Schema → Schema → Prop where
  | ref (pointer : String) : Alike (.ref pointer) (.ref pointer)
  | inline {k k' : Keywords Schema} (node : schemaNode (.inline k) = schemaNode (.inline k'))
      (values : k.values = k'.values) (form : formParameters k = formParameters k')
      (model : ∀ aliases name, keywordModel aliases name k = keywordModel aliases name k') :
      Alike (.inline k) (.inline k')

variable {related : Schema → Schema → Prop} (alike : ∀ ⦃schema other⦄, related schema other → Alike schema other)

section Named

variable {schema other : Schema} {components others : Components} {schemas schemas' : Table Schema}

theorem alike_node (same : Alike schema other) : schemaNode schema = schemaNode other := by
  cases same with
  | ref _ => rfl
  | inline node _ _ _ => exact node

theorem alike_aliasTarget (same : Alike schema other) : aliasTarget? schema = aliasTarget? other := by
  cases same with
  | ref _ => rfl
  | inline node values _ _ => simp only [aliasTarget?, node, values]

theorem alike_bareAlias (same : Alike schema other) (aliases : Table Node) (name : String) :
    addBareAlias aliases (name, schema) = addBareAlias aliases (name, other) := by
  cases same <;> rfl

theorem alike_model (same : Alike schema other) (aliases : Table Node) (name : String) :
    model aliases name schema = model aliases name other := by
  cases same with
  | ref _ => rfl
  | inline _ _ _ model => exact model aliases name

include alike

theorem alike_nodes {given given' : Option Schema} (schemas : Option.Rel related given given') :
    given.map schemaNode = given'.map schemaNode := by
  cases schemas with
  | none => rfl
  | some here => exact congrArg some (alike_node (alike here))

theorem alike_aliases (rel : Table.Rel related schemas schemas') : aliasTable schemas = aliasTable schemas' := by
  have direct : directAliases schemas = directAliases schemas' := by
    refine filterMap_same rel ?_
    rintro ⟨name, schema⟩ ⟨_, other⟩ ⟨rfl, here⟩
    simp only [alike_aliasTarget (alike here)]
  rw [aliasTable_eq, aliasTable_eq, direct]
  refine foldl_same rel ?_ _
  rintro found ⟨name, schema⟩ ⟨_, other⟩ ⟨rfl, here⟩
  exact alike_bareAlias (alike here) found name

theorem alike_models (rel : Components.Rel related components others) (aliases : Table Node) :
    modelsOf components aliases = modelsOf others aliases := by
  refine filterMap_same rel.schemas ?_
  rintro ⟨name, schema⟩ ⟨_, other⟩ ⟨rfl, here⟩
  simp only [alike_model (alike here)]

end Named

section Looked

variable {components others : Components} {body body' : Api.RequestBody} {responses responses' : Table Api.Response}

theorem followed_rel {α β : Type} {related : α → β → Prop} {table : Table (OrRef α)} {table' : Table (OrRef β)}
    (start : String) (rel : Table.Rel (OrRef.Rel related) table table') (given : OrRef α) (other : OrRef β)
    (same : OrRef.Rel related given other) :
    SameOutcome related (followed start table given) (followed start table' other) := by
  cases same with
  | inline here => exact .ok here
  | ref pointer =>
    cases found : Text.stripStart? start.toList pointer.toList with
    | none =>
      simp only [followed, found]
      exact .error _
    | some name =>
      simp only [followed, found]
      exact match table.get? (String.ofList name), table'.get? (String.ofList name), rel.get _ with
        | _, _, .none => .error _
        | _, _, .some (.ref _) => .error _
        | _, _, .some (.inline here) => .ok here

theorem merged_rel {found found' : List Api.Parameter} (pairs : Forall₂ (Api.Parameter.Rel related) found found') :
    Forall₂ (Api.Parameter.Rel related) (merged found) (merged found') := by
  have step : ∀ ⦃entries entries'⦄, Forall₂ (EntryRel (Api.Parameter.Rel related)) entries entries' →
      ∀ ⦃p p'⦄, Api.Parameter.Rel related p p' →
      Forall₂ (EntryRel (Api.Parameter.Rel related)) (putEntry (p.name, p.place) p entries)
        (putEntry (p'.name, p'.place) p' entries') := by
    rintro entries entries' earlier p _ ⟨schemas⟩
    exact putEntry_rel _ (.intro schemas) earlier
  exact List.rel_map (fun _ _ here => here.2) (List.rel_foldl step .nil pairs)

theorem leastEntry_rel {α β : Type} {related : α → β → Prop} {entries : List (String × α)}
    {entries' : List (String × β)} (pairs : Forall₂ (EntryRel related) entries entries') :
    Option.Rel (EntryRel related) ( leastEntry? entries) ( leastEntry? entries') := by
  induction pairs with
  | nil => exact .none
  | cons first _ ih =>
    unfold leastEntry?
    exact match leastEntry? _, leastEntry? _, ih with
      | _, _, .none => .some first
      | _, _, .some least => by
        simp only [first.1, least.1]
        split
        · exact .some least
        · exact .some first

theorem success_rel (rel : Table.Rel (Api.Response.Rel related) responses responses') :
    Option.Rel (Api.Response.Rel related) (successResponse? responses) (successResponse? responses') := by
  have successes : Forall₂ (EntryRel (Api.Response.Rel related))
      (responses.entries.filter fun entry => isSuccess entry.1)
      (responses'.entries.filter fun entry => isSuccess entry.1) :=
    List.rel_filter (fun _ _ here => by simp only [here.1]) rel
  unfold successResponse?
  exact match leastEntry? _, leastEntry? _, leastEntry_rel successes with
    | _, _, .none => rel.get "default"
    | _, _, .some least => .some least.2

include alike

theorem declared_alike {given other : Api.Parameter} (rel : Api.Parameter.Rel related given other) :
    declared given = declared other := by
  obtain ⟨schemas⟩ := rel
  obtain ⟨name, place, description, required, schema⟩ := given
  cases schemas with
  | none => rfl
  | some here => simp only [declared, alike_node (alike here)]

theorem bodyParameters_alike (rel : Components.Rel related components others)
    (same : Api.RequestBody.Rel related body body') :
    bodyParameters components body = bodyParameters others body' := by
  obtain @⟨⟨entries', _⟩, contents⟩ := same
  obtain ⟨description, ⟨entries, _⟩, required⟩ := body
  cases contents with
  | nil => rfl
  | @cons entry entry' _ _ first rest =>
    obtain ⟨contentType, ⟨schema⟩⟩ := entry
    obtain ⟨_, ⟨schema'⟩⟩ := entry'
    obtain ⟨rfl, ⟨schemas⟩⟩ := first
    cases schemas with
    | none => rfl
    | some here =>
      cases alike here with
      | inline node _ form _ => simp only [bodyParameters, form, node, bodyName]
      | ref pointer =>
        simp only [bodyParameters]
        split
        -- a form is spelled by the schema of that name, which is like the other one again
        · exact match components.schemas.get? _, others.schemas.get? _, rel.schemas.get (pointerName pointer) with
          | _, _, .none => rfl
          | _, _, .some there => by
            cases alike there with
            | ref _ => rfl
            | inline _ _ form _ => simp only [form]
        · rfl

theorem responseSchema_alike {given other : Api.Response} (rel : Api.Response.Rel related given other) :
    (responseSchema? given).map schemaNode = (responseSchema? other).map schemaNode := by
  obtain @⟨⟨entries', _⟩, contents⟩ := rel
  obtain ⟨description, ⟨entries, _⟩⟩ := given
  cases contents with
  | nil => rfl
  | cons first _ => exact alike_nodes alike first.2.schema

end Looked

section Routes

variable {components others : Components} {item item' : Api.PathItem} {source source' : Api.Operation}
  {paths paths' : Table Api.PathItem}

/-- A route beside one with the same path and method. -/
structure RouteRel (related : Schema → Schema → Prop)
    (route other : String × Api.PathItem × Api.Method × Api.Operation) : Prop where
  path : route.1 = other.1
  item : Api.PathItem.Rel related route.2.1 other.2.1
  method : route.2.2.1 = other.2.2.1
  source : Api.Operation.Rel related route.2.2.2 other.2.2.2

theorem operations_rel (rel : Api.PathItem.Rel related item item') :
    Forall₂ (EntryRel (Api.Operation.Rel related)) item.operations item'.operations := by
  have each : ∀ ⦃method method'⦄, method = method' → Option.Rel (EntryRel (Api.Operation.Rel related))
      ((item.operation? method).map (method, ·)) ((item'.operation? method').map (method', ·)) := by
    rintro method _ rfl
    exact match item.operation? method, item'.operation? method, rel.operations method with
      | _, _, .none => .none
      | _, _, .some here => .some ⟨rfl, here⟩
  have methods : Forall₂ Eq Api.Method.all Api.Method.all := List.forall₂_eq_eq_eq ▸ rfl
  exact List.rel_filterMap each methods

theorem routes_rel (rel : Table.Rel (Api.PathItem.Rel related) paths paths') :
    Forall₂ (RouteRel related) (routes paths) (routes paths') := by
  refine List.rel_flatMap rel ?_
  rintro ⟨path, item⟩ ⟨_, item'⟩ ⟨rfl, items⟩
  refine List.rel_map ?_ (operations_rel items)
  rintro ⟨method, source⟩ ⟨_, source'⟩ ⟨rfl, sources⟩
  exact ⟨rfl, items, rfl, sources⟩

include alike

theorem answer_alike (sources : Api.Operation.Rel related source source') :
    (answerSchema? source).map schemaNode = (answerSchema? source').map schemaNode := by
  obtain ⟨-, -, answers⟩ := sources
  unfold answerSchema?
  exact match successResponse? _, successResponse? _, success_rel answers with
  | _, _, .none => rfl
  | _, _, .some here => responseSchema_alike alike here

theorem composed_alike {found found' : List Api.Parameter} {body body' : Option Api.RequestBody}
    (sources : Api.Operation.Rel related source source')
    (parameters : Forall₂ (Api.Parameter.Rel related) found found')
    (bodies : Option.Rel (Api.RequestBody.Rel related) body body') (ofBody : List Parameter) (aliases : Table Node)
    (naming : Naming) (path : String) (method : Api.Method) :
    composed aliases naming path method source found body ofBody =
      composed aliases naming path method source' found' body' ofBody := by
  have declared : (merged found).map declared = (merged found').map declared :=
    map_same (merged_rel parameters) fun _ _ => declared_alike alike
  have response : (answerSchema? source).map (fun schema => inlineAliases aliases (schemaNode schema)) =
      (answerSchema? source').map fun schema => inlineAliases aliases (schemaNode schema) := by
    have same := congrArg (Option.map (inlineAliases aliases)) (answer_alike alike sources)
    rwa [Option.map_map, Option.map_map] at same
  obtain ⟨_, _, _⟩ := sources
  cases bodies with
  | none => simp only [composed, declared, response, rawName]
  | some here =>
    obtain ⟨contents⟩ := here
    simp only [composed, declared, response, rawName, contents.keys]

theorem operation_alike (named : Components.Rel related components others)
    (items : Api.PathItem.Rel related item item') (sources : Api.Operation.Rel related source source')
    (aliases : Table Node) (naming : Naming) (path : String) (method : Api.Method) :
    operation components aliases naming path item method source =
      operation others aliases naming path item' method source' := by
  obtain ⟨own, request, -⟩ := id sources
  rw [operation_eq, operation_eq, ← same_outcome_iff]
  refine same_bind (same_mapM (followed_rel _ named.parameters) (List.rel_append items.parameters own))
    fun found found' parameters => ?_
  refine same_bind (same_optionMapM (followed_rel _ named.requestBodies) request) fun body body' bodies => ?_
  have parts : partsOfBody components body = partsOfBody others body' := by
    cases bodies with
    | none => rfl
    | some here => exact bodyParameters_alike alike named here
  refine same_bind (same_outcome_iff.mpr parts) ?_
  rintro ofBody _ rfl
  exact .ok (composed_alike alike sources parameters bodies ofBody aliases naming path method)

theorem operations_alike (named : Components.Rel related components others)
    (rel : Table.Rel (Api.PathItem.Rel related) paths paths') (aliases : Table Node) (naming : Naming) :
    operationsOf components aliases naming paths = operationsOf others aliases naming paths' := by
  have each (route other) (beside : RouteRel related route other) :
      SameOutcome Eq (operation components aliases naming route.1 route.2.1 route.2.2.1 route.2.2.2)
        (operation others aliases naming other.1 other.2.1 other.2.2.1 other.2.2.2) := by
    rw [same_outcome_iff, beside.path, beside.method]
    exact operation_alike alike named beside.item beside.source aliases naming other.1 other.2.2.1
  have same := same_mapM each (routes_rel rel)
  rwa [List.forall₂_eq_eq_eq, same_outcome_iff, ← operations_of_routes, ← operations_of_routes] at same

end Routes

section Documents

variable {document document' : Document} (rel : Document.Rel related document document')

include rel

theorem namedParts_rel : Components.Rel related (namedParts document) (namedParts document') := by
  unfold namedParts
  exact match document.components, document'.components, rel.components with
  | _, _, .none => ⟨.nil, .nil, .nil⟩
  | _, _, .some here => here

include alike

theorem finished_alike : finished document = finished document' := by
  have named := namedParts_rel rel
  have aliases : aliasesOf document = aliasesOf document' := alike_aliases alike named.schemas
  have models := alike_models alike named (aliasesOf document')
  funext operations
  have missing (models : List Model) : missingName? (namedParts document) models operations =
      missingName? (namedParts document') models operations := by
    simp only [missingName?, named.schemas.contains]
  simp only [finished, together, rel.info, aliases, models, missing]

/-- Descriptions that only differ in schemas, with one that is like it in the place of each, come to the same
interface or to the same error. -/
theorem ofDocument_alike (naming : Naming) : ofDocument naming document = ofDocument naming document' := by
  have named := namedParts_rel rel
  have aliases : aliasesOf document = aliasesOf document' := alike_aliases alike named.schemas
  have operations := operations_alike alike named rel.paths (aliasesOf document) naming
  rw [ofDocument_eq, ofDocument_eq, operations, aliases, finished_alike alike rel]

end Documents

end Interface

end ServerScaffold
