import ServerScaffold.Proofs.AliasClosure
import ServerScaffold.Proofs.Assembly
import ServerScaffold.Proofs.Occurrences

/-!
Which references are checked. Building a description refuses a name only where a model or an operation
imports it, so a reference has to name a schema just if it stands at a place that is read. A document
can stand with a reference to nothing anywhere else.
-/
namespace ServerScaffold.Interface

open Api (Components Document Keywords Occurs Schema pointerName)

/-- The schemas that stand in a description, before their insides are looked at. -/
inductive Stands (document : Document) (schema : Schema) : Prop where
  | component {name : String} (entry : (name, schema) ∈ (namedParts document).schemas.entries)
  | namedParameter {name : String} {parameter : Api.Parameter}
      (entry : (name, .inline parameter) ∈ (namedParts document).parameters.entries)
      (given : parameter.schema = some schema)
  | namedBody {name contentType : String} {body : Api.RequestBody} {media : Api.MediaType}
      (entry : (name, .inline body) ∈ (namedParts document).requestBodies.entries)
      (content : (contentType, media) ∈ body.content.entries) (given : media.schema = some schema)
  | pathParameter {path : String} {item : Api.PathItem} {parameter : Api.Parameter}
      (entry : (path, item) ∈ document.paths.entries) (listed : .inline parameter ∈ item.parameters)
      (given : parameter.schema = some schema)
  | parameter {path : String} {item : Api.PathItem} {method : Api.Method} {source : Api.Operation}
      {parameter : Api.Parameter} (route : (path, item, method, source) ∈ routes document.paths)
      (listed : .inline parameter ∈ source.parameters) (given : parameter.schema = some schema)
  | body {path contentType : String} {item : Api.PathItem} {method : Api.Method}
      {source : Api.Operation} {body : Api.RequestBody} {media : Api.MediaType}
      (route : (path, item, method, source) ∈ routes document.paths)
      (inPlace : source.requestBody = some (.inline body))
      (content : (contentType, media) ∈ body.content.entries) (given : media.schema = some schema)
  | response {path code contentType : String} {item : Api.PathItem} {method : Api.Method}
      {source : Api.Operation} {response : Api.Response} {media : Api.MediaType}
      (route : (path, item, method, source) ∈ routes document.paths)
      (entry : (code, response) ∈ source.responses.entries)
      (content : (contentType, media) ∈ response.content.entries) (given : media.schema = some schema)

def RefOccurs (document : Document) (pointer : String) : Prop :=
  ∃ schema, Stands document schema ∧ Occurs pointer schema

def Named (document : Document) (pointer : String) : Prop :=
  pointerName pointer ∈ (namedParts document).schemas.keys

/-- A reference that is read from a schema: one that is kept there, or one that is read from an alias
which the schema refers to. -/
inductive Read (document : Document) (pointer : String) : Schema → Prop where
  | kept {schema : Schema} (kept : Kept pointer schema) : Read document pointer schema
  | through {schema target : Schema} {next : String} (kept : Kept next schema)
      (known : pointerName next ∈ (aliasesOf document).keys)
      (entry : (pointerName next, target) ∈ (namedParts document).schemas.entries)
      (rest : Read document pointer target) : Read document pointer schema

/-- The schemas of a model's members and branches. -/
def memberSchemas : Schema → List Schema
  | .ref _ => []
  | .inline k =>
    (k.allOf.flatMap fun part => match part with
      | .ref _ => []
      | .inline inner => inner.properties.map Prod.snd) ++
    k.properties.map Prod.snd ++ branches k

/-- The references that a model is composed of. -/
def composedPointers : Schema → List String
  | .ref pointer => [pointer]
  | .inline k => (k.allOf ++ branches k).filterMap fun part => match part with
    | .ref pointer => some pointer
    | .inline _ => none

def formSchemas (components : Components) : Schema → List Schema
  | .inline k => k.properties.map Prod.snd
  | .ref pointer =>
    match components.schemas.get? (pointerName pointer) with
    | some (.inline k) => k.properties.map Prod.snd
    | _ => []

/-- The schemas of what a body comes to, by its first content type. -/
def bodySchemas (components : Components) : Option Api.RequestBody → List Schema
  | none => []
  | some body =>
    match body.content.entries with
    | [] => []
    | (contentType, media) :: _ =>
      match media.schema with
      | none => []
      | some schema =>
        if formTypes.contains contentType then formSchemas components schema else [schema]

def operationSchemas (components : Components) (source : Api.Operation)
    (found : List Api.Parameter) (body : Option Api.RequestBody) : List Schema :=
  (merged found).filterMap (·.schema) ++ bodySchemas components body ++ (answerSchema? source).toList

/-- A reference at a place that is read. -/
inductive Checked (document : Document) (pointer : String) : Prop where
  | composed {name : String} {schema : Schema}
      (entry : (name, schema) ∈ (namedParts document).schemas.entries)
      (plain : name ∉ (aliasesOf document).keys) (listed : pointer ∈ composedPointers schema)
  | member {name : String} {schema part : Schema}
      (entry : (name, schema) ∈ (namedParts document).schemas.entries)
      (plain : name ∉ (aliasesOf document).keys) (listed : part ∈ memberSchemas schema)
      (read : Read document pointer part)
  | operation {path : String} {item : Api.PathItem} {method : Api.Method} {source : Api.Operation}
      {found : List Api.Parameter} {body : Option Api.RequestBody} {ofBody : List Parameter}
      {schema : Schema} (route : (path, item, method, source) ∈ routes document.paths)
      (looked : LookedUp (namedParts document) item source found body ofBody)
      (listed : schema ∈ operationSchemas (namedParts document) source found body)
      (read : Read document pointer schema)

/-! The names of a node, and the references of its schema. -/

section

variable {document : Document} {schema : Schema} {name start pointer : String}

theorem alias_entry {other : String} (step : Mentions (aliasesOf document) name other) :
    ∃ target, (name, target) ∈ (namedParts document).schemas.entries ∧
      ∃ pointer, Kept pointer target ∧ pointerName pointer = other := by
  obtain ⟨node, found, member⟩ := step
  obtain ⟨target, entry, rfl⟩ := aliasTable_target found
  exact ⟨target, entry, (mem_refs_node target).mp member⟩

theorem entry_mentions {target : Schema} (known : name ∈ (aliasesOf document).keys)
    (entry : (name, target) ∈ (namedParts document).schemas.entries) (kept : Kept pointer target) :
    Mentions (aliasesOf document) name (pointerName pointer) := by
  obtain ⟨node, found⟩ := Table.key_has_entry known
  have found := Table.get_eq_some.mpr found
  obtain ⟨target', entry', rfl⟩ := aliasTable_target found
  obtain rfl := Table.entry_unique entry entry'
  exact ⟨_, found, (mem_refs_node target).mpr ⟨pointer, kept, rfl⟩⟩

open Relation (ReflTransGen)

theorem reached_is_read (walk : ReflTransGen (Mentions (aliasesOf document)) start name)
    {first : String} (kept : Kept first schema) (same : pointerName first = start) :
    ∃ pointer, Read document pointer schema ∧ pointerName pointer = name := by
  induction walk using ReflTransGen.head_induction_on generalizing schema first with
  | refl => exact ⟨first, .kept kept, same⟩
  | @head start next step _ ih =>
    subst same
    have known := mentions_key step
    obtain ⟨target, entry, second, keptThere, same⟩ := alias_entry step
    obtain ⟨pointer, read, last⟩ := ih keptThere same
    exact ⟨pointer, .through kept known entry read, last⟩

theorem read_is_reached (read : Read document pointer schema) :
    ∃ start ∈ (schemaNode schema).refs,
      ReflTransGen (Mentions (aliasesOf document)) start (pointerName pointer) := by
  induction read with
  | kept kept => exact ⟨_, (mem_refs_node _).mpr ⟨_, kept, rfl⟩, .refl⟩
  | through kept known entry _ ih =>
    obtain ⟨start, member, walk⟩ := ih
    obtain ⟨first, keptThere, rfl⟩ := (mem_refs_node _).mp member
    have step := entry_mentions known entry keptThere
    exact ⟨_, (mem_refs_node _).mpr ⟨_, kept, rfl⟩, .head step walk⟩

theorem alias_is_named (known : name ∈ (aliasesOf document).keys) :
    name ∈ (namedParts document).schemas.keys :=
  swept_is_key (aliasTable_keys.mp known)

theorem left_is_read
    (left : name ∈ (inlineAliases (aliasesOf document) (schemaNode schema)).refs) :
    ∃ pointer, Read document pointer schema ∧ pointerName pointer = name := by
  obtain ⟨start, member, leaves⟩ := (mem_refs_inlined _ _).mp left
  obtain ⟨first, kept, same⟩ := (mem_refs_node schema).mp member
  exact reached_is_read (leaves_reaches leaves) kept same

/-- The names left in a node are all there just if every reference read from its schema is named. -/
theorem inlined_named_iff (schema : Schema) :
    (∀ name ∈ (inlineAliases (aliasesOf document) (schemaNode schema)).refs,
        name ∈ (namedParts document).schemas.keys) ↔
      ∀ pointer, Read document pointer schema → Named document pointer := by
  constructor
  · intro named pointer read
    obtain ⟨start, member, walk⟩ := read_is_reached read
    -- An alias that is read may be gone from the node, but an alias is a named schema anyway.
    by_cases known : pointerName pointer ∈ (aliasesOf document).keys
    · exact alias_is_named known
    · exact named _ ((mem_refs_inlined _ _).mpr ⟨start, member, reached_is_left walk known⟩)
  · intro named name left
    obtain ⟨pointer, read, rfl⟩ := left_is_read left
    exact named pointer read

end

/-! The imports of models and operations, by the schemas they come from. -/

section

variable {components : Components} {aliases : Table Node} {name own : String}

theorem own_property_nodes (k : Keywords Schema) :
    (ownProperties k).map (·.node) = (k.properties.map Prod.snd).map schemaNode := by
  simp [ownProperties, Function.comp_def]

theorem property_nodes (k : Keywords Schema) :
    (properties k).map (·.node) ++ (branches k).map schemaNode =
      (memberSchemas (.inline k)).map schemaNode := by
  have parts : (properties k).map (·.node) =
      (k.allOf.flatMap fun part => match part with
        | .ref _ => []
        | .inline inner => inner.properties.map Prod.snd).map schemaNode ++
      (k.properties.map Prod.snd).map schemaNode := by
    simp only [properties, List.map_append, List.map_flatMap, own_property_nodes]
    congr 1
    refine List.flatMap_congr fun part _ => ?_
    cases part with
    | ref _ => rfl
    | inline inner => exact own_property_nodes inner
  rw [parts]
  simp [memberSchemas]

theorem interfaces_composed (k : Keywords Schema) :
    interfaces k = (composedPointers (.inline k)).map pointerName := by
  simp only [interfaces, composedPointers, List.map_filterMap]
  refine List.filterMap_congr fun part _ => ?_
  cases part <;> rfl

/-- What a model imports: the names left in the nodes of its members, and those it is composed of. -/
theorem mem_model_imports (schema : Schema) : name ∈ (model aliases own schema).imports ↔
    (∃ part ∈ memberSchemas schema, name ∈ (inlineAliases aliases (schemaNode part)).refs) ∨
      ∃ pointer ∈ composedPointers schema, pointerName pointer = name := by
  cases schema with
  | ref pointer => simp [model, memberSchemas, composedPointers, eq_comm]
  | inline k =>
    have members : (∃ part ∈ memberSchemas (.inline k),
        name ∈ (inlineAliases aliases (schemaNode part)).refs) ↔
        ∃ node ∈ (properties k).map (·.node) ++ (branches k).map schemaNode,
          name ∈ (inlineAliases aliases node).refs := by
      rw [property_nodes]
      simp
    rw [members]
    simp [model, keywordModel, interfaces_composed, or_and_right, exists_or, or_assoc]

theorem form_nodes (k : Keywords Schema) :
    (formParameters k).map (·.node) = (k.properties.map Prod.snd).map schemaNode := by
  simp [formParameters, Function.comp_def]

def formFields (components : Components) : Schema → Except RefError (List Parameter)
  | .inline k => .ok (formParameters k)
  | .ref pointer =>
    match components.schemas.get? (pointerName pointer) with
    | some (.inline k) => .ok (formParameters k)
    | _ => .error (.notFound pointer)

theorem field_nodes {schema : Schema} {ofBody : List Parameter}
    (fields : formFields components schema = .ok ofBody) :
    ofBody.map (·.node) = (formSchemas components schema).map schemaNode := by
  cases schema with
  | inline k =>
    obtain rfl := Except.ok.inj fields
    exact form_nodes k
  | ref pointer =>
    simp only [formFields] at fields
    split at fields
    · next k found =>
      obtain rfl := Except.ok.inj fields
      simp only [formSchemas, found]
      exact form_nodes k
    · contradiction

theorem body_parameter_nodes {body : Api.RequestBody} {ofBody : List Parameter}
    (parts : bodyParameters components body = .ok ofBody) :
    ofBody.map (·.node) = (bodySchemas components (some body)).map schemaNode := by
  unfold bodyParameters at parts
  unfold bodySchemas
  cases content : body.content.entries with
  | nil =>
    simp only [content] at parts ⊢
    obtain rfl := Except.ok.inj parts
    rfl
  | cons first rest =>
    obtain ⟨contentType, media⟩ := first
    simp only [content] at parts ⊢
    cases given : media.schema with
    | none =>
      simp only [given] at parts ⊢
      obtain rfl := Except.ok.inj parts
      rfl
    | some schema =>
      simp only [given] at parts ⊢
      by_cases form : formTypes.contains contentType = true
      · rw [if_pos form] at parts ⊢
        have fields : formFields components schema = .ok ofBody := by
          cases schema <;> exact parts
        exact field_nodes fields
      · rw [if_neg form] at parts ⊢
        obtain rfl := Except.ok.inj parts
        rfl

theorem body_nodes {body : Option Api.RequestBody} {ofBody : List Parameter}
    (parts : partsOfBody components body = .ok ofBody) :
    ofBody.map (·.node) = (bodySchemas components body).map schemaNode := by
  cases body with
  | none =>
    obtain rfl := Except.ok.inj parts
    rfl
  | some body => exact body_parameter_nodes parts

theorem declared_refs (parameter : Api.Parameter) :
    name ∈ (inlineAliases aliases (declared parameter).node).refs ↔
      ∃ schema, parameter.schema = some schema ∧
        name ∈ (inlineAliases aliases (schemaNode schema)).refs := by
  cases given : parameter.schema with
  | some schema => simp [declared, given]
  | none => simp [declared, given, mem_refs_inlined]

/-- What an operation imports: the names left in the nodes of the schemas that are looked up for it. -/
theorem mem_operation_imports {naming : Naming} {path : String} {item : Api.PathItem}
    {method : Api.Method} {source : Api.Operation} {found : List Api.Parameter}
    {body : Option Api.RequestBody} {ofBody : List Parameter}
    (looked : LookedUp components item source found body ofBody) :
    name ∈ (composed aliases naming path method source found body ofBody).imports ↔
      ∃ schema ∈ operationSchemas components source found body,
        name ∈ (inlineAliases aliases (schemaNode schema)).refs := by
  have ofBodyRefs : (∃ parameter ∈ ofBody, name ∈ (inlineAliases aliases parameter.node).refs) ↔
      ∃ schema ∈ bodySchemas components body,
        name ∈ (inlineAliases aliases (schemaNode schema)).refs := by
    have nodes : (∃ node ∈ ofBody.map (·.node), name ∈ (inlineAliases aliases node).refs) ↔
        ∃ node ∈ (bodySchemas components body).map schemaNode,
          name ∈ (inlineAliases aliases node).refs := by rw [body_nodes looked.parts]
    simpa using nodes
  have ofFound : (∃ parameter ∈ merged found,
      name ∈ (inlineAliases aliases (declared parameter).node).refs) ↔
      ∃ schema ∈ (merged found).filterMap (·.schema),
        name ∈ (inlineAliases aliases (schemaNode schema)).refs := by
    simp only [declared_refs, List.mem_filterMap]
    grind
  simp only [composed, operationSchemas, List.mem_eraseDups, List.mem_append, List.flatMap_map,
    List.map_append, List.flatMap_append, List.mem_flatMap, inlinedParameter, ofFound, ofBodyRefs,
    or_and_right, exists_or, Option.mem_toList, Option.map_eq_some_iff, exists_exists_and_eq_and]

end

/-! What is checked stands in the description. -/

section

variable {document : Document} {schema part : Schema} {pointer : String}

theorem named_stands {name : String}
    (found : (namedParts document).schemas.get? name = some schema) : Stands document schema :=
  .component (Table.get_eq_some.mp found)

theorem member_occurs (listed : part ∈ memberSchemas schema) (inside : Occurs pointer part) :
    Occurs pointer schema := by
  cases schema with
  | ref _ => exact absurd listed List.not_mem_nil
  | inline k =>
    simp only [memberSchemas, List.mem_append, List.mem_flatMap, List.mem_map] at listed
    rcases listed with (⟨whole, ofWhole, listed⟩ | ⟨⟨name, _⟩, own, rfl⟩) | branch
    · cases whole with
      | ref _ => exact absurd listed List.not_mem_nil
      | inline inner =>
        obtain ⟨⟨name, _⟩, own, rfl⟩ := List.mem_map.mp listed
        exact .inside (Api.part_of_allOf ofWhole) (.inside (Api.part_of_property own) inside)
    · exact .inside (Api.part_of_property own) inside
    · exact .inside (read_part_is_part (.branch branch)) inside

theorem composed_occurs (listed : pointer ∈ composedPointers schema) : Occurs pointer schema := by
  cases schema with
  | ref other =>
    obtain rfl := List.mem_singleton.mp listed
    exact .here
  | inline k =>
    obtain ⟨part, member, same⟩ := List.mem_filterMap.mp listed
    cases part with
    | inline _ => contradiction
    | ref other =>
      obtain rfl := Option.some.inj same
      rcases List.mem_append.mp member with ofWhole | branch
      · exact .inside (Api.part_of_allOf ofWhole) .here
      · exact .inside (read_part_is_part (.branch branch)) .here

/-- A reference read from a schema that stands in the description stands there too. -/
theorem read_ref_occurs (read : Read document pointer part)
    (stands : ∀ pointer, Occurs pointer part → RefOccurs document pointer) :
    RefOccurs document pointer := by
  induction read with
  | kept kept => exact stands _ (kept_occurs kept)
  | through _ _ entry _ ih => exact ih fun pointer inside => ⟨_, .component entry, inside⟩

theorem followed_ok {α : Type} {start : String} {components : Table (Api.OrRef α)}
    {given : Api.OrRef α} {value : α} (done : followed start components given = .ok value) :
    given = .inline value ∨ ∃ name, (name, .inline value) ∈ components.entries := by
  cases given with
  | inline other =>
    obtain rfl := Except.ok.inj done
    exact Or.inl rfl
  | ref pointer =>
    simp only [followed] at done
    split at done
    · contradiction
    · split at done
      · next other there =>
        obtain rfl := Except.ok.inj done
        exact Or.inr ⟨_, Table.get_eq_some.mp there⟩
      · contradiction

theorem mem_merged {parameters : List Api.Parameter} {parameter : Api.Parameter}
    (member : parameter ∈ merged parameters) : parameter ∈ parameters := by
  -- Each entry comes from the list, whatever it replaces: so for any entries to start with.
  have written (rest : List Api.Parameter)
      (entries : List ((String × Api.Place) × Api.Parameter))
      (known : ∀ entry ∈ entries, entry.2 ∈ parameters) (later : rest ⊆ parameters) :
      ∀ entry ∈ rest.foldl (fun entries p => putEntry (p.name, p.place) p entries) entries,
        entry.2 ∈ parameters := by
    induction rest generalizing entries with
    | nil => exact known
    | cons first rest ih =>
      obtain ⟨here, later⟩ := List.cons_subset.mp later
      refine ih _ (fun entry put => ?_) later
      rcases mem_putEntry put with rfl | old
      · exact here
      · exact known entry old
  obtain ⟨entry, listed, rfl⟩ := List.mem_map.mp member
  exact written parameters [] (fun _ none => absurd none List.not_mem_nil) (List.Subset.refl _)
    entry listed

theorem leastEntry_mem {α : Type} {entries : List (String × α)} {least : String × α}
    (found : leastEntry? entries = some least) : least ∈ entries := by
  induction entries generalizing least with
  | nil => contradiction
  | cons entry rest ih =>
    unfold leastEntry? at found
    split at found
    · obtain rfl := Option.some.inj found
      exact List.mem_cons_self
    · next other there =>
      split at found
      · obtain rfl := Option.some.inj found
        exact List.mem_cons_of_mem _ (ih there)
      · obtain rfl := Option.some.inj found
        exact List.mem_cons_self

theorem success_response_listed {responses : Table Api.Response} {response : Api.Response}
    (found : successResponse? responses = some response) :
    ∃ code, (code, response) ∈ responses.entries := by
  unfold successResponse? at found
  split at found
  · next code other least =>
    obtain rfl := Option.some.inj found
    exact ⟨code, List.mem_of_mem_filter (leastEntry_mem least)⟩
  · exact ⟨"default", Table.get_eq_some.mp found⟩

section

variable {path : String} {item : Api.PathItem} {method : Api.Method} {source : Api.Operation}
  {found : List Api.Parameter} {body : Option Api.RequestBody} {ofBody : List Parameter}

theorem found_stands (route : (path, item, method, source) ∈ routes document.paths)
    (looked : LookedUp (namedParts document) item source found body ofBody)
    {parameter : Api.Parameter} (member : parameter ∈ merged found)
    (given : parameter.schema = some schema) : Stands document schema := by
  obtain ⟨reference, listed, done⟩ :=
    pair_of_right (mapM_ok.mp looked.parameters) (mem_merged member)
  rcases followed_ok done with rfl | ⟨name, entry⟩
  · rcases List.mem_append.mp listed with ofPath | ofOperation
    · exact .pathParameter (mem_routes.mp route).1 ofPath given
    · exact .parameter route ofOperation given
  · exact .namedParameter entry given

theorem content_stands (route : (path, item, method, source) ∈ routes document.paths)
    {whole : Api.RequestBody}
    (request : source.requestBody.mapM (followed requestBodyStart (namedParts document).requestBodies) =
      .ok (some whole))
    {contentType : String} {media : Api.MediaType}
    (content : (contentType, media) ∈ whole.content.entries) (given : media.schema = some schema) :
    Stands document schema := by
  cases requested : source.requestBody with
  | none =>
    rw [requested] at request
    exact nomatch Except.ok.inj request
  | some reference =>
    rw [requested] at request
    cases optionMapM_ok.mp request with
    | some done =>
      rcases followed_ok done with rfl | ⟨name, entry⟩
      · exact .body route requested content given
      · exact .namedBody entry content given

theorem form_schema_occurs {whole : Schema}
    (listed : schema ∈ formSchemas (namedParts document) whole)
    (stands : Stands document whole) (inside : Occurs pointer schema) :
    RefOccurs document pointer := by
  cases whole with
  | inline k =>
    obtain ⟨⟨name, _⟩, own, rfl⟩ := List.mem_map.mp listed
    exact ⟨_, stands, .inside (Api.part_of_property own) inside⟩
  | ref other =>
    simp only [formSchemas] at listed
    split at listed
    · next k there =>
      obtain ⟨⟨name, _⟩, own, rfl⟩ := List.mem_map.mp listed
      exact ⟨_, named_stands there, .inside (Api.part_of_property own) inside⟩
    · exact absurd listed List.not_mem_nil

theorem body_schema_occurs (route : (path, item, method, source) ∈ routes document.paths)
    (looked : LookedUp (namedParts document) item source found body ofBody)
    (listed : schema ∈ bodySchemas (namedParts document) body) (inside : Occurs pointer schema) :
    RefOccurs document pointer := by
  cases body with
  | none => exact absurd listed List.not_mem_nil
  | some whole =>
    simp only [bodySchemas] at listed
    split at listed
    · exact absurd listed List.not_mem_nil
    · next contentType media rest entries =>
      split at listed
      · exact absurd listed List.not_mem_nil
      · next other given =>
        have first : (contentType, media) ∈ whole.content.entries := entries ▸ List.mem_cons_self
        have stands := content_stands route looked.request first given
        split at listed
        · exact form_schema_occurs listed stands inside
        · obtain rfl := List.mem_singleton.mp listed
          exact ⟨_, stands, inside⟩

theorem answer_stands (route : (path, item, method, source) ∈ routes document.paths)
    (given : answerSchema? source = some schema) : Stands document schema := by
  obtain ⟨response, answers, given⟩ := Option.bind_eq_some_iff.mp given
  obtain ⟨code, entry⟩ := success_response_listed answers
  obtain ⟨media, first, given⟩ := Option.bind_eq_some_iff.mp given
  obtain ⟨⟨contentType, _⟩, content, rfl⟩ := List.mem_map.mp (List.mem_of_mem_head? first)
  exact .response route entry content given

theorem operation_schema_occurs (route : (path, item, method, source) ∈ routes document.paths)
    (looked : LookedUp (namedParts document) item source found body ofBody)
    (listed : schema ∈ operationSchemas (namedParts document) source found body)
    (inside : Occurs pointer schema) : RefOccurs document pointer := by
  simp only [operationSchemas, List.mem_append, List.mem_filterMap, Option.mem_toList] at listed
  rcases listed with (⟨parameter, member, given⟩ | ofBody) | answer
  · exact ⟨_, found_stands route looked member given, inside⟩
  · exact body_schema_occurs route looked ofBody inside
  · exact ⟨_, answer_stands route answer, inside⟩

end

theorem checked_occurs (checked : Checked document pointer) : RefOccurs document pointer := by
  cases checked with
  | composed entry _ listed => exact ⟨_, .component entry, composed_occurs listed⟩
  | member entry _ listed read =>
    exact read_ref_occurs read fun _ inside => ⟨_, .component entry, member_occurs listed inside⟩
  | operation route looked listed read =>
    exact read_ref_occurs read fun _ inside => operation_schema_occurs route looked listed inside

/-- Every import is the name of a reference at a place that is read. -/
theorem import_is_checked {naming : Naming} {source : Interface} {name : String}
    (assembled : Assembled naming document source)
    (imported : name ∈ source.models.flatMap (·.imports) ++ source.operations.flatMap (·.imports)) :
    ∃ pointer, Checked document pointer ∧ pointerName pointer = name := by
  rcases List.mem_append.mp imported with ofModel | ofOperation
  · obtain ⟨result, member, imported⟩ := List.mem_flatMap.mp ofModel
    obtain ⟨own, schema, entry, plain, rfl⟩ := (mem_models assembled).mp member
    rcases (mem_model_imports schema).mp imported with ⟨part, listed, left⟩ | ⟨pointer, listed, same⟩
    · obtain ⟨pointer, read, same⟩ := left_is_read left
      exact ⟨pointer, .member entry plain listed read, same⟩
    · exact ⟨pointer, .composed entry plain listed, same⟩
  · obtain ⟨result, member, imported⟩ := List.mem_flatMap.mp ofOperation
    obtain ⟨path, item, method, given, found, body, ofBody, route, looked, rfl⟩ :=
      operation_has_route assembled member
    obtain ⟨schema, listed, left⟩ := (mem_operation_imports looked).mp imported
    obtain ⟨pointer, read, same⟩ := left_is_read left
    exact ⟨pointer, .operation route looked listed read, same⟩

/-- Every import is a named schema just if every reference at a place that is read is named. -/
theorem all_named_iff {naming : Naming} {source : Interface}
    (assembled : Assembled naming document source) :
    AllNamed document source ↔ ∀ pointer, Checked document pointer → Named document pointer := by
  constructor
  · intro all pointer checked
    obtain ⟨ofModels, ofOperations⟩ := List.forall_mem_append.mp all
    rw [List.forall_mem_flatMap] at ofModels ofOperations
    cases checked with
    | composed entry plain listed =>
      have member := (mem_models assembled).mpr ⟨_, _, entry, plain, rfl⟩
      exact ofModels _ member _ ((mem_model_imports _).mpr (Or.inr ⟨pointer, listed, rfl⟩))
    | member entry plain listed read =>
      have member := (mem_models assembled).mpr ⟨_, _, entry, plain, rfl⟩
      refine (inlined_named_iff _).mp (fun name left => ?_) pointer read
      exact ofModels _ member name ((mem_model_imports _).mpr (Or.inl ⟨_, listed, left⟩))
    | operation route looked listed read =>
      obtain ⟨found, body, ofBody, again, member⟩ := route_has_operation assembled route
      obtain ⟨rfl, rfl, rfl⟩ := looked_up_unique looked again
      refine (inlined_named_iff _).mp (fun name left => ?_) pointer read
      exact ofOperations _ member name ((mem_operation_imports again).mpr ⟨_, listed, left⟩)
  · intro named name imported
    obtain ⟨pointer, checked, rfl⟩ := import_is_checked assembled imported
    exact named pointer checked

theorem document_builds_iff (naming : Naming) (document : Document) :
    (∃ source, ofDocument naming document = .ok source) ↔
      Buildable document ∧ ∀ pointer, Checked document pointer → Named document pointer := by
  constructor
  · rintro ⟨source, built⟩
    obtain ⟨assembled, named⟩ := document_ok.mp built
    exact ⟨(buildable_iff naming document).mpr ⟨source, assembled⟩, (all_named_iff assembled).mp named⟩
  · rintro ⟨buildable, named⟩
    obtain ⟨source, assembled⟩ := (buildable_iff naming document).mp buildable
    exact ⟨source, document_ok.mpr ⟨assembled, (all_named_iff assembled).mpr named⟩⟩

end

/-- What can be built is built just if the references that are read are named, and these stand in the
description. So all references of what is built are named just if those that are not read are. -/
theorem references_named_iff_unread_are (naming : Naming) (document : Document) :
    ((∃ source, ofDocument naming document = .ok source) ↔
      Buildable document ∧ ∀ pointer, Checked document pointer → Named document pointer) ∧
    (∀ pointer, Checked document pointer → RefOccurs document pointer) ∧
    ((∀ source, ofDocument naming document = .ok source →
        ∀ pointer, RefOccurs document pointer → Named document pointer) ↔
      (Buildable document → (∀ pointer, Checked document pointer → Named document pointer) →
        ∀ pointer, RefOccurs document pointer → ¬ Checked document pointer →
          Named document pointer)) := by
  have builds := document_builds_iff naming document
  refine ⟨builds, fun _ => checked_occurs, ?_⟩
  constructor
  · intro all buildable named pointer occurs _
    obtain ⟨source, built⟩ := builds.mpr ⟨buildable, named⟩
    exact all source built pointer occurs
  · intro unread source built pointer occurs
    obtain ⟨buildable, named⟩ := builds.mp ⟨source, built⟩
    by_cases checked : Checked document pointer
    · exact named pointer checked
    · exact unread buildable named pointer occurs checked

/-- A reference to nothing in the answer for failure. -/
def lostAnswer : Document where
  openapi := "3.0.3"
  info := { title := "Lost", version := "1" }
  paths := ⟨[("/pets", { operation? := fun
    | .get => some {
        operationId := some "listPets"
        responses := ⟨[
          ("200", { content := ⟨[("application/json",
            ⟨some (.inline { type := some (.single .string) })⟩)], by decide⟩ }),
          ("404", { content := ⟨[("application/json",
            ⟨some (.ref "#/components/schemas/Missing")⟩)], by decide⟩ })], by decide⟩ }
    | _ => none })], by decide⟩

theorem lost_answer_is_built : (∃ source, ofDocument {} lostAnswer = .ok source) ∧
    RefOccurs lostAnswer "#/components/schemas/Missing" ∧
    ¬ Named lostAnswer "#/components/schemas/Missing" := by
  refine ⟨⟨_, rfl⟩, ⟨.ref "#/components/schemas/Missing", ?_, .here⟩, List.not_mem_nil⟩
  have route : ("/pets", _, .get, _) ∈ routes lostAnswer.paths :=
    mem_routes.mpr ⟨List.mem_cons_self, rfl⟩
  exact .response route (List.mem_cons_of_mem _ List.mem_cons_self) List.mem_cons_self rfl

end ServerScaffold.Interface
