import ServerScaffold.Proofs.References
import ServerScaffold.Proofs.Searches

/-!
Why a description is refused. Building an operation stops at a reference that leads to no component in
place: one to a parameter, one to a body, or one to the fields of a form. Once all operations are built, a
name that is imported without being a named schema is refused. So what is reported as not found is not
there, unless it is a component that is a reference itself: that one is not followed.
-/
namespace ServerScaffold.Interface

open Api (Components Document OrRef Schema pointerName)

section

variable {ε α β : Type}

theorem bind_error {first : Except ε α} {next : α → Except ε β} {error : ε} :
    first >>= next = .error error ↔
      first = .error error ∨ ∃ value, first = .ok value ∧ next value = .error error := by
  cases first with
  | error other => simp [bind, Except.bind]
  | ok value => simp [bind, Except.bind]

theorem failed_input {step : α → Except ε β} {inputs : List α} {error : ε}
    (failed : inputs.mapM step = .error error) : ∃ input ∈ inputs, step input = .error error := by
  induction inputs with
  | nil => contradiction
  | cons input rest ih =>
    rw [List.mapM_cons] at failed
    rcases bind_error.mp failed with here | ⟨value, _, later⟩
    · exact ⟨input, List.mem_cons_self, here⟩
    · rcases bind_error.mp later with there | ⟨values, _, done⟩
      · obtain ⟨other, member, found⟩ := ih there
        exact ⟨other, List.mem_cons_of_mem input member, found⟩
      · contradiction

theorem failed_option {step : α → Except ε β} {input : Option α} {error : ε}
    (failed : input.mapM step = .error error) : ∃ value, input = some value ∧ step value = .error error := by
  cases input with
  | none => contradiction
  | some value =>
    have mapped : (some value).mapM step = some <$> step value := rfl
    rw [mapped] at failed
    cases found : step value with
    | ok other =>
      rw [found] at failed
      contradiction
    | error other =>
      rw [found] at failed
      obtain rfl := Except.error.inj failed
      exact ⟨value, rfl, found⟩

end

/-- The kinds of components that references lead to. -/
inductive Shelf where
  | parameters | requestBodies | schemas

namespace Shelf

def names (components : Components) : Shelf → List String
  | .parameters => components.parameters.keys
  | .requestBodies => components.requestBodies.keys
  | .schemas => components.schemas.keys

/-- A component stands under the name, and not a reference. -/
def Holds (components : Components) (name : String) : Shelf → Prop
  | .parameters => ∃ parameter, (name, .inline parameter) ∈ components.parameters.entries
  | .requestBodies => ∃ body, (name, .inline body) ∈ components.requestBodies.entries
  | .schemas => ∃ k, (name, .inline k) ∈ components.schemas.entries

/-- A reference stands under the name. -/
def Forwards (components : Components) (name : String) : Shelf → Prop
  | .parameters => ∃ next, (name, .ref next) ∈ components.parameters.entries
  | .requestBodies => ∃ next, (name, .ref next) ∈ components.requestBodies.entries
  | .schemas => ∃ next, (name, .ref next) ∈ components.schemas.entries

end Shelf

theorem named_iff_forwarded {α : Type} {components : Table (OrRef α)} {name : String}
    (empty : ¬ ∃ value, (name, .inline value) ∈ components.entries) :
    name ∈ components.keys ↔ ∃ next, (name, .ref next) ∈ components.entries := by
  constructor
  · intro key
    obtain ⟨given, entry⟩ := Table.key_has_entry key
    cases given with
    | ref next => exact ⟨next, entry⟩
    | inline value => exact absurd ⟨value, entry⟩ empty
  · rintro ⟨next, entry⟩
    exact Table.key_of_entry entry

theorem Shelf.not_forwards_of_holds {components : Components} {name : String} {shelf : Shelf}
    (holds : shelf.Holds components name) : ¬ shelf.Forwards components name := by
  cases shelf with
  | parameters | requestBodies | schemas =>
    obtain ⟨value, inPlace⟩ := holds
    rintro ⟨next, reference⟩
    exact nomatch Table.entry_unique inPlace reference

/-- What a shelf does not hold in place it has under the name just if a reference stands there. -/
theorem Shelf.named_iff_forwards {components : Components} {name : String} {shelf : Shelf}
    (empty : ¬ shelf.Holds components name) :
    name ∈ shelf.names components ↔ shelf.Forwards components name := by
  cases shelf with
  | parameters => exact named_iff_forwarded empty
  | requestBodies => exact named_iff_forwarded empty
  | schemas =>
    constructor
    · intro key
      obtain ⟨schema, entry⟩ := Table.key_has_entry key
      cases schema with
      | ref next => exact ⟨next, entry⟩
      | inline k => exact absurd ⟨k, entry⟩ empty
    · rintro ⟨next, entry⟩
      exact Table.key_of_entry entry

section

variable {components : Components} {pointer : String}

theorem followed_not_found {α : Type} {start : String} {table : Table (OrRef α)} {given : OrRef α}
    (failed : followed start table given = .error (.notFound pointer)) :
    given = .ref pointer ∧ ∃ name, pointer = start ++ name ∧
      ¬ ∃ value, (name, .inline value) ∈ table.entries := by
  cases given with
  | inline value => contradiction
  | ref other =>
    simp only [followed] at failed
    split at failed
    · cases failed
    · next rest stripped =>
      split at failed
      · contradiction
      · next notInline =>
        obtain rfl := RefError.notFound.inj (Except.error.inj failed)
        have whole := Text.stripStart_eq_some.mp stripped
        refine ⟨rfl, String.ofList rest, ?_, ?_⟩
        · rw [← String.toList_inj, String.toList_append, String.toList_ofList]
          exact whole
        · rintro ⟨value, entry⟩
          exact notInline value (Table.get_eq_some.mpr entry)

theorem followed_in_place {α : Type} {start name : String} {table : Table (OrRef α)} {value : α}
    (done : followed start table (.ref (start ++ name)) = .ok value) :
    (name, .inline value) ∈ table.entries := by
  have stripped : Text.stripStart? start.toList (start ++ name).toList = some name.toList := by
    rw [String.toList_append]
    exact Text.stripStart_append _ _
  simp only [followed, stripped, String.ofList_toList] at done
  split at done
  · next other found =>
    obtain rfl := Except.ok.inj done
    exact Table.get_eq_some.mp found
  · contradiction

theorem body_not_found {body : Api.RequestBody}
    (failed : bodyParameters components body = .error (.notFound pointer)) :
    ∃ contentType media rest, body.content.entries = (contentType, media) :: rest ∧
      contentType ∈ formTypes ∧ media.schema = some (.ref pointer) ∧
      ¬ ∃ k, (pointerName pointer, .inline k) ∈ components.schemas.entries := by
  unfold bodyParameters at failed
  split at failed
  · contradiction
  · next contentType media rest content =>
    split at failed
    · contradiction
    · next schema given =>
      split at failed
      · next isForm =>
        cases schema with
        | inline k => contradiction
        | ref other =>
          simp only at failed
          split at failed
          · contradiction
          · next notInline =>
            obtain rfl := RefError.notFound.inj (Except.error.inj failed)
            refine ⟨contentType, media, rest, content, by simpa using isForm, given, ?_⟩
            rintro ⟨k, entry⟩
            exact notInline k (Table.get_eq_some.mpr entry)
      · contradiction

theorem form_in_place {body : Api.RequestBody} {contentType : String} {media : Api.MediaType}
    {rest : List (String × Api.MediaType)} {ofBody : List Parameter}
    (content : body.content.entries = (contentType, media) :: rest) (isForm : contentType ∈ formTypes)
    (given : media.schema = some (.ref pointer)) (done : bodyParameters components body = .ok ofBody) :
    ∃ k, (pointerName pointer, .inline k) ∈ components.schemas.entries := by
  simp only [bodyParameters, content, given, List.contains_eq_mem, isForm, decide_true, ↓reduceIte] at done
  split at done
  · next k found => exact ⟨k, Table.get_eq_some.mp found⟩
  · contradiction

end

theorem operation_error {components : Components} {aliases : Table Node} {naming : Naming} {path : String}
    {item : Api.PathItem} {method : Api.Method} {source : Api.Operation} {error : RefError}
    (failed : operation components aliases naming path item method source = .error error) :
    (∃ given ∈ item.parameters ++ source.parameters,
      followed parameterStart components.parameters given = .error error) ∨
    (∃ given, source.requestBody = some given ∧
      followed requestBodyStart components.requestBodies given = .error error) ∨
    ∃ body, source.requestBody.mapM (followed requestBodyStart components.requestBodies) =
        .ok (some body) ∧ bodyParameters components body = .error error := by
  unfold operation at failed
  rcases bind_error.mp failed with parameters | ⟨found, _, failed⟩
  · exact Or.inl (failed_input parameters)
  rcases bind_error.mp failed with request | ⟨body, requested, failed⟩
  · exact Or.inr (Or.inl (failed_option request))
  cases body with
  | none =>
    rcases bind_error.mp failed with parts | ⟨ofBody, _, done⟩
    · contradiction
    · contradiction
  | some body =>
    rcases bind_error.mp failed with parts | ⟨ofBody, _, done⟩
    · exact Or.inr (Or.inr ⟨body, requested, parts⟩)
    · contradiction

theorem document_of_built {naming : Naming} {document : Document} {operations : List Operation}
    (built : operationsOf (namedParts document) (aliasesOf document) naming document.paths =
      .ok operations) : ofDocument naming document = finished document operations := by
  rw [ofDocument_eq, built]
  rfl

/-- A description is refused for an operation that cannot be built, and once all are built for an import
that is no named schema. -/
theorem document_error {naming : Naming} {document : Document} {error : RefError}
    (failed : ofDocument naming document = .error error) :
    operationsOf (namedParts document) (aliasesOf document) naming document.paths = .error error ∨
    ∃ source name, Assembled naming document source ∧
      name ∈ source.models.flatMap (·.imports) ++ source.operations.flatMap (·.imports) ∧
      name ∉ (namedParts document).schemas.keys ∧ error = .notFound (schemaPointer name) := by
  rw [ofDocument_eq] at failed
  rcases bind_error.mp failed with stopped | ⟨operations, built, refused⟩
  · exact Or.inl stopped
  · unfold finished at refused
    split at refused
    · next name missing =>
      obtain ⟨before, after, imports, _, absent⟩ := missing_some.mp missing
      rw [operations_of_routes, mapM_ok] at built
      refine Or.inr ⟨_, name, together_assembled built, ?_, absent, (Except.error.inj refused).symm⟩
      exact imports ▸ List.mem_append_right before List.mem_cons_self
    · contradiction

/-- A reference at a place where a component is looked up to build an operation, and the name it is looked
up by: what follows the start of the pointer to a parameter or a body, and the last segment of the pointer
to the schema of a form. -/
inductive Sought (document : Document) : Shelf → String → String → Prop where
  | parameter {path : String} {item : Api.PathItem} {method : Api.Method} {source : Api.Operation}
      {name : String} (route : (path, item, method, source) ∈ routes document.paths)
      (listed : .ref (parameterStart ++ name) ∈ item.parameters ++ source.parameters) :
      Sought document .parameters (parameterStart ++ name) name
  | requestBody {path : String} {item : Api.PathItem} {method : Api.Method} {source : Api.Operation}
      {name : String} (route : (path, item, method, source) ∈ routes document.paths)
      (given : source.requestBody = some (.ref (requestBodyStart ++ name))) :
      Sought document .requestBodies (requestBodyStart ++ name) name
  | form {path : String} {item : Api.PathItem} {method : Api.Method} {source : Api.Operation}
      {body : Api.RequestBody} {contentType : String} {media : Api.MediaType}
      {rest : List (String × Api.MediaType)} {pointer : String}
      (route : (path, item, method, source) ∈ routes document.paths)
      (request : source.requestBody.mapM (followed requestBodyStart (namedParts document).requestBodies) =
        .ok (some body))
      (content : body.content.entries = (contentType, media) :: rest) (isForm : contentType ∈ formTypes)
      (given : media.schema = some (.ref pointer)) :
      Sought document .schemas pointer (pointerName pointer)

section

variable {document : Document} {naming : Naming} {shelf : Shelf} {pointer name : String}

/-- An operation that cannot be built stops at a reference that no component in place answers. -/
theorem operation_not_found {path : String} {item : Api.PathItem} {method : Api.Method}
    {source : Api.Operation} (route : (path, item, method, source) ∈ routes document.paths)
    (failed : operation (namedParts document) (aliasesOf document) naming path item method source =
      .error (.notFound pointer)) :
    ∃ shelf name, Sought document shelf pointer name ∧ ¬ shelf.Holds (namedParts document) name := by
  rcases operation_error failed with ⟨given, listed, stopped⟩ | ⟨given, requested, stopped⟩ |
    ⟨body, request, stopped⟩
  · obtain ⟨rfl, name, rfl, empty⟩ := followed_not_found stopped
    exact ⟨.parameters, name, .parameter route listed, empty⟩
  · obtain ⟨rfl, name, rfl, empty⟩ := followed_not_found stopped
    exact ⟨.requestBodies, name, .requestBody route requested, empty⟩
  · obtain ⟨contentType, media, rest, content, isForm, given, empty⟩ := body_not_found stopped
    exact ⟨.schemas, pointerName pointer, .form route request content isForm given, empty⟩

/-- In a description that is built, every reference that is looked up is answered in place. -/
theorem sought_in_place {source : Interface} (assembled : Assembled naming document source)
    (sought : Sought document shelf pointer name) : shelf.Holds (namedParts document) name := by
  cases sought with
  | parameter route listed =>
    obtain ⟨found, body, ofBody, looked, _⟩ := route_has_operation assembled route
    obtain ⟨value, _, done⟩ := pair_of_left (mapM_ok.mp looked.parameters) listed
    exact ⟨value, followed_in_place done⟩
  | requestBody route given =>
    obtain ⟨found, body, ofBody, looked, _⟩ := route_has_operation assembled route
    have request := optionMapM_ok.mp looked.request
    rw [given] at request
    cases request with
    | some done => exact ⟨_, followed_in_place done⟩
  | form route request content isForm given =>
    obtain ⟨found, body, ofBody, looked, _⟩ := route_has_operation assembled route
    obtain rfl := Except.ok.inj (looked.request.symm.trans request)
    exact form_in_place content isForm given looked.parts

theorem sought_last_segment (sought : Sought document shelf pointer name)
    (plain : '/' ∉ name.toList) : pointerName pointer = name := by
  cases sought with
  | parameter _ _ => exact Api.pointerName_append "#/components/parameters".toList rfl plain
  | requestBody _ _ =>
    exact Api.pointerName_append "#/components/requestBodies".toList rfl plain
  | form _ _ _ _ _ => rfl

theorem schema_pointer_name (pointer : String) :
    pointerName (schemaPointer (pointerName pointer)) = pointerName pointer :=
  Api.pointerName_append "#/components/schemas".toList rfl (Api.pointerName_no_slash pointer)

end

/-- Whatever is reported as not found is not there, unless a reference stands in its place; and such a
reference, where a component is looked up, always makes the description fail. -/
theorem reported_is_there_just_if_forwarded (naming : Naming) (document : Document) :
    (∀ pointer, ofDocument naming document = .error (.notFound pointer) →
      (∃ shelf name, Sought document shelf pointer name ∧
        (name ∈ shelf.names (namedParts document) ↔ shelf.Forwards (namedParts document) name)) ∨
      (pointerName pointer ∉ (namedParts document).schemas.keys ∧ ∃ reference,
        Checked document reference ∧ pointer = schemaPointer (pointerName reference) ∧
          pointerName pointer = pointerName reference)) ∧
    ∀ shelf pointer name, Sought document shelf pointer name →
      ('/' ∉ name.toList → pointerName pointer = name) ∧
      (shelf.Forwards (namedParts document) name → ¬ ∃ source, ofDocument naming document = .ok source) := by
  constructor
  · intro pointer failed
    rcases document_error failed with stopped | ⟨source, name, assembled, imported, absent, same⟩
    · rw [operations_of_routes] at stopped
      obtain ⟨⟨path, item, method, given⟩, route, stopped⟩ := failed_input stopped
      obtain ⟨shelf, name, sought, empty⟩ := operation_not_found route stopped
      exact Or.inl ⟨shelf, name, sought, Shelf.named_iff_forwards empty⟩
    · obtain ⟨reference, checked, rfl⟩ := import_is_checked assembled imported
      obtain rfl := RefError.notFound.inj same
      refine Or.inr ⟨?_, reference, checked, rfl, schema_pointer_name reference⟩
      rw [schema_pointer_name]
      exact absent
  · intro shelf pointer name sought
    refine ⟨sought_last_segment sought, ?_⟩
    rintro forwards ⟨source, built⟩
    obtain ⟨assembled, _⟩ := document_ok.mp built
    exact Shelf.not_forwards_of_holds (sought_in_place assembled sought) forwards

/-- A parameter, a body and the schema of a form, each called by a second name as well. -/
def namedTwice : Components where
  schemas := ⟨[("Pet", .inline { properties := [("name", .inline { type := some (.single .string) })] }),
    ("Animal", .ref "#/components/schemas/Pet")], by decide⟩
  parameters := ⟨[("Limit", .inline { name := "limit", place := .query }),
    ("Size", .ref "#/components/parameters/Limit")], by decide⟩
  requestBodies := ⟨[("NewPet", .inline {}),
    ("NewAnimal", .ref "#/components/requestBodies/NewPet")], by decide⟩

def posting (source : Api.Operation) : Document where
  openapi := "3.0.3"
  info := { title := "Second names", version := "1" }
  paths := ⟨[("/pets", { operation? := fun
    | .post => some source
    | _ => none })], List.nodup_singleton "/pets"⟩
  components := some namedTwice

theorem second_names_are_reported :
    (ofDocument {} (posting { parameters := [.ref "#/components/parameters/Size"] }) =
        .error (.notFound "#/components/parameters/Size") ∧
      "Size" ∈ namedTwice.parameters.keys) ∧
    (ofDocument {} (posting { requestBody := some (.ref "#/components/requestBodies/NewAnimal") }) =
        .error (.notFound "#/components/requestBodies/NewAnimal") ∧
      "NewAnimal" ∈ namedTwice.requestBodies.keys) ∧
    (ofDocument {} (posting { requestBody := some (.inline { content :=
          ⟨[("multipart/form-data", ⟨some (.ref "#/components/schemas/Animal")⟩)], by decide⟩ }) }) =
        .error (.notFound "#/components/schemas/Animal") ∧
      "Animal" ∈ namedTwice.schemas.keys) := by
  refine ⟨⟨rfl, ?_⟩, ⟨rfl, ?_⟩, ⟨rfl, ?_⟩⟩
  · exact List.mem_cons_of_mem _ List.mem_cons_self
  · exact List.mem_cons_of_mem _ List.mem_cons_self
  · exact List.mem_cons_of_mem _ List.mem_cons_self

end ServerScaffold.Interface
