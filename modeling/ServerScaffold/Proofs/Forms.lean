import ServerScaffold.Proofs.Chains
import ServerScaffold.Proofs.Completeness
import ServerScaffold.Proofs.Refusals

/-!
The fields of a form. A form lists the properties of one schema, which stands in the body or is named there.
Whether a field is a file is decided before aliases are put in place, so a field that is binary by name is
none; and the properties of inline parts, which the model of the schema has, are no fields.
-/
namespace ServerScaffold.Interface

open Api (Components Document Keywords Schema pointerName)

/-- The first content type of what is sent to an operation is that of a form, with a schema. -/
inductive TakesForm (components : Components) (source : Api.Operation) (schema : Schema) : Prop where
  | intro {body : Api.RequestBody} {contentType : String} {media : Api.MediaType}
      {rest : List (String × Api.MediaType)}
      (request : source.requestBody.mapM (followed requestBodyStart components.requestBodies) =
        .ok (some body))
      (content : body.content.entries = (contentType, media) :: rest) (isForm : contentType ∈ formTypes)
      (given : media.schema = some schema)

/-- The keywords of a schema in place, or of the one in place that is named. -/
inductive Spelled (components : Components) : Schema → Keywords Schema → Prop where
  | inPlace {k : Keywords Schema} : Spelled components (.inline k) k
  | named {pointer : String} {k : Keywords Schema}
      (entry : (pointerName pointer, .inline k) ∈ components.schemas.entries) :
      Spelled components (.ref pointer) k

/-- What a body comes to: nothing, the fields of a form, or one parameter for the whole. -/
inductive BodyParts (components : Components) (body : Api.RequestBody) : List Parameter → Prop where
  | noContent (content : body.content.entries = []) : BodyParts components body []
  | noSchema {contentType : String} {media : Api.MediaType} {rest : List (String × Api.MediaType)}
      (content : body.content.entries = (contentType, media) :: rest) (given : media.schema = none) :
      BodyParts components body []
  | form {contentType : String} {media : Api.MediaType} {rest : List (String × Api.MediaType)}
      {schema : Schema} {k : Keywords Schema} (content : body.content.entries = (contentType, media) :: rest)
      (isForm : contentType ∈ formTypes) (given : media.schema = some schema)
      (spelled : Spelled components schema k) : BodyParts components body (formParameters k)
  | whole {contentType : String} {media : Api.MediaType} {rest : List (String × Api.MediaType)}
      {schema : Schema} (content : body.content.entries = (contentType, media) :: rest)
      (noForm : contentType ∉ formTypes) (given : media.schema = some schema) :
      BodyParts components body [{
        name := bodyName schema, location := .body, node := schemaNode schema, required := body.required
        description := body.description }]

def Location.inForm : Location → Bool
  | .form | .file => true
  | _ => false

/-- The parameters that are carried in a form. -/
def Operation.fields (operation : Operation) : List Parameter :=
  operation.parameters.filter (·.location.inForm)

section Fields

variable {components : Components} {item : Api.PathItem} {source : Api.Operation}
  {found : List Api.Parameter} {body : Option Api.RequestBody} {ofBody : List Parameter} {schema : Schema}

theorem body_parts {body : Api.RequestBody} (parts : bodyParameters components body = .ok ofBody) :
    BodyParts components body ofBody := by
  unfold bodyParameters at parts
  split at parts
  · next content =>
    obtain rfl := Except.ok.inj parts
    exact .noContent content
  · next contentType media rest content =>
    split at parts
    · next given =>
      obtain rfl := Except.ok.inj parts
      exact .noSchema content given
    · next schema given =>
      split at parts
      · next isForm =>
        have isForm : contentType ∈ formTypes := by simpa using isForm
        cases schema with
        | inline k =>
          obtain rfl := Except.ok.inj parts
          exact .form content isForm given .inPlace
        | ref pointer =>
          simp only at parts
          split at parts
          · next k there =>
            obtain rfl := Except.ok.inj parts
            exact .form content isForm given (.named (Table.get_eq_some.mp there))
          · contradiction
      · next noForm =>
        obtain rfl := Except.ok.inj parts
        exact .whole content (by simpa using noForm) given

theorem form_fields {contentType : String} {media : Api.MediaType} {rest : List (String × Api.MediaType)}
    {body : Api.RequestBody} (content : body.content.entries = (contentType, media) :: rest)
    (isForm : contentType ∈ formTypes) (given : media.schema = some schema)
    (parts : BodyParts components body ofBody) :
    ∃ k, Spelled components schema k ∧ ofBody = formParameters k := by
  cases parts with
  | noContent none =>
    rw [content] at none
    contradiction
  | noSchema first none =>
    obtain ⟨-, rfl⟩ := Prod.mk.inj (List.cons.inj (content.symm.trans first)).1
    rw [given] at none
    contradiction
  | form first _ given' spelled =>
    obtain ⟨-, rfl⟩ := Prod.mk.inj (List.cons.inj (content.symm.trans first)).1
    obtain rfl := Option.some.inj (given.symm.trans given')
    exact ⟨_, spelled, rfl⟩
  | whole first noForm _ =>
    obtain ⟨rfl, -⟩ := Prod.mk.inj (List.cons.inj (content.symm.trans first)).1
    exact absurd isForm noForm

theorem taken_fields (looked : LookedUp components item source found body ofBody)
    (takes : TakesForm components source schema) :
    ∃ k, Spelled components schema k ∧ ofBody = formParameters k := by
  obtain ⟨request, content, isForm, given⟩ := takes
  obtain rfl := Except.ok.inj (looked.request.symm.trans request)
  exact form_fields content isForm given (body_parts looked.parts)

/-- A field is a file just if its node is binary before aliases are put in place. -/
theorem form_parameters (k : Keywords Schema) :
    formParameters k = k.properties.map fun (name, schema) =>
      { name, location := if (schemaNode schema).outside = .leaf .binary then .file else .form,
        node := schemaNode schema, required := k.required.contains name } := by
  unfold formParameters
  refine List.map_congr_left fun entry _ => ?_
  simp only [Parameter.mk.injEq, true_and, and_true]
  cases schemaNode entry.2 with
  | leaf kind value => cases kind <;> rfl
  | ref name value => rfl
  | holder container element value => rfl
  | union branches value => rfl

theorem declared_no_field (parameter : Api.Parameter) : (declared parameter).location.inForm = false := by
  have same : (declared parameter).location = location parameter.place := rfl
  rw [same]
  cases parameter.place <;> rfl

theorem form_is_field {k : Keywords Schema} {parameter : Parameter} (listed : parameter ∈ formParameters k) :
    parameter.location.inForm = true := by
  rw [form_parameters] at listed
  obtain ⟨entry, -, rfl⟩ := List.mem_map.mp listed
  dsimp only
  split <;> rfl

/-- The fields of an operation that takes a form: one for each property, with aliases put in place. -/
theorem composed_fields (aliases : Table Node) (naming : Naming) (path : String) (method : Api.Method)
    (k : Keywords Schema) :
    (composed aliases naming path method source found body (formParameters k)).fields =
      (formParameters k).map (inlinedParameter aliases) := by
  have inForm : (fun parameter : Parameter => parameter.location.inForm) ∘ inlinedParameter aliases =
      fun parameter => parameter.location.inForm := rfl
  have noField : ((merged found).map declared).filter (·.location.inForm) = [] := by
    rw [List.filter_eq_nil_iff, List.forall_mem_map]
    intro parameter _
    rw [declared_no_field]
    exact Bool.false_ne_true
  have allFields : (formParameters k).filter (·.location.inForm) = formParameters k :=
    List.filter_eq_self.mpr fun _ => form_is_field
  calc (composed aliases naming path method source found body (formParameters k)).fields
      = (((merged found).map declared ++ formParameters k).map (inlinedParameter aliases)).filter
          (·.location.inForm) := rfl
    _ = (formParameters k).map (inlinedParameter aliases) := by
        rw [List.filter_map, inForm, List.filter_append, noField, allFields, List.nil_append]

/-- What is told of every operation and what it is made of is told of the operations of an interface beside the
paths and methods of its description. -/
theorem beside_routes {naming : Naming} {document : Document} {result : Interface}
    (built : ofDocument naming document = .ok result)
    {tells : String × Api.PathItem × Api.Method × Api.Operation → Operation → Prop}
    (each : ∀ path item method given found body ofBody,
      LookedUp (namedParts document) item given found body ofBody →
      tells (path, item, method, given)
        (composed (aliasesOf document) naming path method given found body ofBody)) :
    List.Forall₂ tells (routes document.paths) result.operations := by
  obtain ⟨assembled, -⟩ := document_ok.mp built
  refine assembled.operations.imp ?_
  rintro ⟨path, item, method, given⟩ operation done
  obtain ⟨found, body, ofBody, looked, rfl⟩ := operation_ok.mp done
  exact each path item method given found body ofBody looked

end Fields

section Binary

variable {schemas : Table Schema} {schema : Schema}

/-- A schema that comes to a reference to an alias of binary data. -/
def BinaryByName (schemas : Table Schema) (schema : Schema) : Prop :=
  ∃ name value last k, schemaNode schema = .ref name value ∧ name ∈ (aliasTable schemas).keys ∧
    ComesTo schemas name last k ∧ (schemaNode (.inline k)).outside = .leaf .binary

theorem binary_by_name_iff {name : String} {value : Option Literal}
    (node : schemaNode schema = .ref name value) :
    (inlineAliases (aliasTable schemas) (.ref name value)).outside = .leaf .binary ↔
      BinaryByName schemas schema := by
  constructor
  · intro binary
    by_cases known : name ∈ (aliasTable schemas).keys
    · obtain ⟨last, k, comes⟩ := alias_has_definition known
      have outside := (inlined_reference_outside comes known value).1
      exact ⟨name, value, last, k, node, known, comes, outside.symm.trans binary⟩
    · rw [reference_stays known] at binary
      contradiction
  · rintro ⟨name', value', last, k, node', known, comes, binary⟩
    obtain ⟨rfl, rfl⟩ := Node.ref.inj (node.symm.trans node')
    exact (inlined_reference_outside comes known value).1.trans binary

/-- A node is binary in the end if it is so from the start or by name, and never both. -/
theorem inlined_binary_iff (schemas : Table Schema) (schema : Schema) :
    ((inlineAliases (aliasTable schemas) (schemaNode schema)).outside = .leaf .binary ↔
      (schemaNode schema).outside = .leaf .binary ∨ BinaryByName schemas schema) ∧
    ((schemaNode schema).outside = .leaf .binary → ¬ BinaryByName schemas schema) := by
  cases node : schemaNode schema with
  | ref name value =>
    rw [binary_by_name_iff node]
    simp [Node.outside]
  -- what is no reference keeps its kind when aliases are put in place
  | leaf _ _ | holder _ _ _ | union _ _ =>
    have noName : ¬ BinaryByName schemas schema := by
      rintro ⟨name, value, _, _, same, -⟩
      rw [node] at same
      contradiction
    rw [inlineAliases_outside (by simp [Node.outside])]
    exact ⟨(or_iff_left noName).symm, fun _ => noName⟩

/-- The fields beside the properties that they come from. -/
theorem fields_of_properties (k : Keywords Schema) :
    List.Forall₂ (fun property field =>
        field.name = property.1 ∧
        field.node = inlineAliases (aliasTable schemas) (schemaNode property.2) ∧
        (field.location = .form ∨ field.location = .file) ∧
        ((field.location = .file ↔ field.node.outside = .leaf .binary) ↔ ¬ BinaryByName schemas property.2))
      k.properties ((formParameters k).map (inlinedParameter (aliasTable schemas))) := by
  rw [form_parameters, List.map_map, List.forall₂_map_right_iff, List.forall₂_same]
  intro property _
  obtain ⟨inTheEnd, notBoth⟩ := inlined_binary_iff schemas property.2
  simp only [Function.comp_apply, inlinedParameter, inTheEnd]
  by_cases binary : (schemaNode property.2).outside = .leaf .binary
  · simp [binary, notBoth binary]
  · simp [binary]

end Binary

/-- Every operation that takes a form has one field for each property of the schema of the form. The field is
a file just if its node is binary in the end, unless the property is binary by name only: such a field is
none. -/
theorem fields_are_files_unless_binary_by_name {naming : Naming} {document : Document} {result : Interface}
    (built : ofDocument naming document = .ok result) :
    List.Forall₂ (fun route operation => ∀ schema,
        TakesForm (namedParts document) route.2.2.2 schema →
        ∃ k, Spelled (namedParts document) schema k ∧ List.Forall₂ (fun property field =>
            field.name = property.1 ∧
            field.node = inlineAliases (aliasesOf document) (schemaNode property.2) ∧
            (field.location = .form ∨ field.location = .file) ∧
            ((field.location = .file ↔ field.node.outside = .leaf .binary) ↔
              ¬ BinaryByName (namedParts document).schemas property.2))
          k.properties operation.fields)
      (routes document.paths) result.operations := by
  refine beside_routes built fun path item method given found body ofBody looked schema takes => ?_
  obtain ⟨k, spelled, rfl⟩ := taken_fields looked takes
  refine ⟨k, spelled, ?_⟩
  rw [composed_fields]
  exact fields_of_properties k

def addPhoto : Api.Operation where
  operationId := some "addPhoto"
  requestBody := some (.inline { content :=
    ⟨[("multipart/form-data", ⟨some (.ref "#/components/schemas/Photo")⟩)], List.nodup_singleton _⟩ })

/-- Photos are sent as a form; pictures and captions have names of their own. -/
def album (photo : Keywords Schema) : Document where
  openapi := "3.0.3"
  info := { title := "Album", version := "1" }
  paths := ⟨[("/photos", { operation? := fun
    | .post => some addPhoto
    | _ => none })], List.nodup_singleton "/photos"⟩
  components := some { schemas := ⟨[
    ("Picture", .inline { type := some (.single .string), format := some "binary" }),
    ("Caption", .inline { type := some (.single .string) }),
    ("Photo", .inline photo)], by simp⟩ }

theorem album_takes_form (photo : Keywords Schema) :
    TakesForm (namedParts (album photo)) addPhoto (.ref "#/components/schemas/Photo") :=
  .intro rfl rfl (by decide) rfl

/-- What is told beside the paths and methods is told of the one operation of an album. -/
theorem album_operation {photo : Keywords Schema} {operations : List Operation} {operation : Operation}
    {tells : String × Api.PathItem × Api.Method × Api.Operation → Operation → Prop}
    (beside : List.Forall₂ tells (routes (album photo).paths) operations) (member : operation ∈ operations) :
    ∃ route, route.2.2.2 = addPhoto ∧ tells route operation := by
  obtain ⟨route, inRoutes, told⟩ := pair_of_right beside member
  have sources : (routes (album photo).paths).map (·.2.2.2) = [addPhoto] := rfl
  have source := List.mem_map_of_mem (f := (·.2.2.2)) inRoutes
  rw [sources] at source
  exact ⟨route, List.mem_singleton.mp source, told⟩

theorem album_spelled {photo k : Keywords Schema}
    (spelled : Spelled (namedParts (album photo)) (.ref "#/components/schemas/Photo") k) : k = photo := by
  cases spelled with
  | named entry =>
    have called : pointerName "#/components/schemas/Photo" = "Photo" := by decide
    have there : ("Photo", .inline photo) ∈ (namedParts (album photo)).schemas.entries := by
      simp [album, namedParts]
    rw [called] at entry
    exact Schema.inline.inj (Table.entry_unique entry there)

/-- A picture in place and a caption by name. -/
def pictured : Keywords Schema where
  properties := [
    ("original", .inline { type := some (.single .string), format := some "binary" }),
    ("caption", .ref "#/components/schemas/Caption")]

theorem pictured_files : ∃ result, ofDocument {} (album pictured) = .ok result ∧
    ∀ operation ∈ result.operations, ∀ field ∈ operation.fields,
      (field.location = .file ↔ field.node.outside = .leaf .binary) := by
  have built : ∃ result, ofDocument {} (album pictured) = .ok result := ⟨_, rfl⟩
  obtain ⟨result, built⟩ := built
  refine ⟨result, built, fun operation member field listed => ?_⟩
  obtain ⟨route, source, tells⟩ := album_operation (fields_are_files_unless_binary_by_name built) member
  obtain ⟨k, spelled, pairs⟩ := tells _ (source ▸ album_takes_form pictured)
  obtain rfl := album_spelled spelled
  obtain ⟨property, inSchema, -, -, -, unlessByName⟩ := pair_of_right pairs listed
  refine unlessByName.mpr ?_
  have noneByName : ∀ property ∈ pictured.properties,
      ¬ BinaryByName (namedParts (album pictured)).schemas property.2 := by
    intro property listed
    rcases List.mem_cons.mp listed with rfl | listed
    · exact (inlined_binary_iff _ _).2 rfl
    · obtain rfl := List.mem_singleton.mp listed
      intro byName
      have binary := (binary_by_name_iff (node_of_ref "#/components/schemas/Caption")).mpr byName
      exact absurd binary (by decide)
  exact noneByName property inSchema

/-- A picture by name: the field has binary data, and is carried as text. -/
theorem named_picture_is_no_file :
    let photo : Keywords Schema := { properties := [("thumbnail", .ref "#/components/schemas/Picture")] }
    ∃ result, ofDocument {} (album photo) = .ok result ∧
      result.operations.flatMap (·.fields) =
        [{ name := "thumbnail", location := .form, node := .leaf .binary none, required := false }] :=
  ⟨_, rfl, rfl⟩

section Model

variable {aliases : Table Node}

/-- The properties that a schema has from its inline parts. -/
def partProperties (k : Keywords Schema) : List Property :=
  k.allOf.flatMap fun part => match part with
    | .ref _ => []
    | .inline inner => ownProperties inner

theorem properties_parts (k : Keywords Schema) : properties k = partProperties k ++ ownProperties k := rfl

theorem partProperties_nil (k : Keywords Schema) :
    partProperties k = [] ↔ ∀ part, .inline part ∈ k.allOf → part.properties = [] := by
  simp only [partProperties, List.flatMap_eq_nil_iff]
  constructor
  · intro none part listed
    simpa [ownProperties] using none _ listed
  · intro none part listed
    cases part with
    | ref pointer => rfl
    | inline inner => simp [ownProperties, none inner listed]

/-- What a form and a model are compared by: name, node and whether it is required. -/
def Property.entry (property : Property) : String × Node × Bool :=
  (property.name, property.node, property.required)

def Parameter.entry (parameter : Parameter) : String × Node × Bool :=
  (parameter.name, parameter.node, parameter.required)

def inlinedProperty (aliases : Table Node) (property : Property) : Property :=
  { property with node := inlineAliases aliases property.node }

theorem form_entries (k : Keywords Schema) :
    ((formParameters k).map (inlinedParameter aliases)).map Parameter.entry =
      ((ownProperties k).map (inlinedProperty aliases)).map Property.entry := by
  rw [form_parameters, ownProperties]
  simp only [List.map_map]
  rfl

theorem model_entries (name : String) (k : Keywords Schema) :
    (model aliases name (.inline k)).properties.map Property.entry =
      ((partProperties k).map (inlinedProperty aliases)).map Property.entry ++
        ((formParameters k).map (inlinedParameter aliases)).map Parameter.entry := by
  have listed : (model aliases name (.inline k)).properties =
      (properties k).map (inlinedProperty aliases) := rfl
  rw [listed, form_entries, properties_parts, List.map_append, List.map_append]

end Model

/-- A form that names a schema with a model lists the properties of the model less those of inline parts, in
their order. So the two list the same just if there are none of inline parts. -/
theorem form_lists_model_iff {naming : Naming} {document : Document} {result : Interface}
    (built : ofDocument naming document = .ok result) :
    List.Forall₂ (fun route operation => ∀ pointer,
        TakesForm (namedParts document) route.2.2.2 (.ref pointer) →
        ∀ model ∈ result.models, model.name = pointerName pointer →
          ∃ k, (pointerName pointer, .inline k) ∈ (namedParts document).schemas.entries ∧
            model.properties.map Property.entry =
              ((partProperties k).map (inlinedProperty (aliasesOf document))).map Property.entry ++
                operation.fields.map Parameter.entry ∧
            (operation.fields.map Parameter.entry = model.properties.map Property.entry ↔
              ∀ part, .inline part ∈ k.allOf → part.properties = []))
      (routes document.paths) result.operations := by
  obtain ⟨assembled, -⟩ := document_ok.mp built
  refine beside_routes built fun path item method given found body ofBody looked pointer takes => ?_
  obtain ⟨k, spelled, rfl⟩ := taken_fields looked takes
  cases spelled with
  | named entry =>
    intro listed member called
    obtain ⟨name, schema, there, -, rfl⟩ := (mem_models assembled).mp member
    rw [model_name] at called
    subst called
    obtain rfl := Table.entry_unique entry there
    refine ⟨k, entry, ?_, ?_⟩
    · rw [composed_fields, model_entries]
    · rw [composed_fields, model_entries, ← partProperties_nil]
      simp

theorem pictured_form_lists_model : ∃ result, ofDocument {} (album pictured) = .ok result ∧
    ∀ operation ∈ result.operations, ∃ model ∈ result.models,
      operation.fields.map Parameter.entry = model.properties.map Property.entry := by
  have built : ∃ result, ofDocument {} (album pictured) = .ok result := ⟨_, rfl⟩
  obtain ⟨result, built⟩ := built
  refine ⟨result, built, fun operation member => ?_⟩
  obtain ⟨route, source, tells⟩ := album_operation (form_lists_model_iff built) member
  have called : pointerName "#/components/schemas/Photo" = "Photo" := by decide
  obtain ⟨assembled, -⟩ := document_ok.mp built
  have listed : model (aliasesOf (album pictured)) "Photo" (.inline pictured) ∈ result.models :=
    (mem_models assembled).mpr ⟨"Photo", _, by simp [album, namedParts], by decide, rfl⟩
  obtain ⟨k, entry, -, same⟩ := tells _ (source ▸ album_takes_form pictured) _ listed called.symm
  obtain rfl := album_spelled (.named entry)
  exact ⟨_, listed, same.mpr (by simp [pictured])⟩

/-- A photo of an album, which is said in a part of its own. -/
def filed : Keywords Schema where
  allOf := [.inline {
    required := ["album"]
    properties := [("album", .inline { type := some (.single .string) })] }]
  properties := [("title", .inline { type := some (.single .string) })]

/-- The model has the property of the part and the form has not. -/
theorem filed_form_lacks_album : ∃ result, ofDocument {} (album filed) = .ok result ∧
    result.operations.map (fun operation => operation.fields.map Parameter.entry) =
      [[("title", .leaf .string none, false)]] ∧
    result.models.map (fun model => (model.name, model.properties.map Property.entry)) =
      [("Photo", [("album", .leaf .string none, true), ("title", .leaf .string none, false)])] :=
  ⟨_, rfl, rfl, rfl⟩

end ServerScaffold.Interface
