import ServerScaffold.Proofs.Alike
import ServerScaffold.Proofs.Forms
import ServerScaffold.Proofs.Occurrences

/-!
Types given in lists. Of a list of types the first that is not null counts, so a type that is given alone may as
well be given in a list, with nulls before it and whatever behind it. Done in any schemas of a description and at
any depth, this leaves everything that is built as it is.
-/
namespace ServerScaffold

namespace Api

/-- A type other than null that is given alone may be given in a list in which only nulls stand before it. -/
inductive TypeSet.Loosened : Option TypeSet → Option TypeSet → Prop where
  | same (type : Option TypeSet) : Loosened type type
  | listed {type : TypeName} (proper : type ≠ .null) (nulls : Nat) (rest : List TypeName) :
      Loosened (some (.single type)) (some (.several (List.replicate nulls .null ++ type :: rest)))

/-- A schema in which types may have been put into lists, here and in the parts. The keywords before and after are
the two sides of keywords that hold pairs, and apart from the type they agree. -/
inductive Schema.Loosened : Schema → Schema → Prop where
  | ref (pointer : String) : Loosened (.ref pointer) (.ref pointer)
  | inline {sides : Keywords (Schema × Schema)} {type : Option TypeSet} (types : TypeSet.Loosened sides.type type)
      (parts : ∀ pair ∈ sides.parts, Loosened pair.1 pair.2) :
      Loosened (.inline (sides.map Prod.fst)) (.inline { sides.map Prod.snd with type })

theorem primary_loosened {type type' : Option TypeSet} (loosened : TypeSet.Loosened type type') :
    type.bind (·.primary?) = type'.bind (·.primary?) := by
  cases loosened with
  | same _ => rfl
  | @listed type proper nulls rest =>
    have first : (List.replicate nulls TypeName.null ++ type :: rest).find? (· ≠ .null) = some type := by
      induction nulls with
      | zero => simp [proper]
      | succ nulls ih => simpa [List.replicate_succ] using ih
    simp only [Option.bind_some, TypeSet.primary?, first]

section

variable {k : Keywords Schema} {type : Option TypeSet}

theorem loosened_here (types : TypeSet.Loosened k.type type) (parts : ∀ part ∈ k.parts, Schema.Loosened part part) :
    Schema.Loosened (.inline k) (.inline { k with type }) := by
  have left : (k.map fun part => (part, part)).map Prod.fst = k := (k.map_map _ _).trans k.map_self
  have right : (k.map fun part => (part, part)).map Prod.snd = k := (k.map_map _ _).trans k.map_self
  have beside : ∀ pair ∈ (k.map fun part => (part, part)).parts, Schema.Loosened pair.1 pair.2 := by
    rw [Keywords.parts_map, List.forall_mem_map]
    exact parts
  have loosened := Schema.Loosened.inline types beside
  rwa [left, right] at loosened

/-- Nothing need be put into a list. -/
theorem loosened_same (schema : Schema) : Schema.Loosened schema schema := by
  induction schema using Schema.induct with
  | ref pointer => exact .ref pointer
  | inline k ih => exact loosened_here (.same k.type) ih

/-- The type of one schema may be put into a list, and nothing else. -/
theorem loosened_type (types : TypeSet.Loosened k.type type) :
    Schema.Loosened (.inline k) (.inline { k with type }) :=
  loosened_here types fun part _ => loosened_same part

end

end Api

namespace Interface

open Api (Keywords Schema Document TypeSet)

section

variable {k k' : Keywords Schema} {schema schema' : Schema}

/-- Of the type keyword a node only takes the type that counts. -/
theorem classify_type (k : Keywords Node) {type : Option TypeSet}
    (same : k.type.bind (·.primary?) = type.bind (·.primary?)) : classify { k with type } = classify k := by
  have typed : typedNode { k with type } = typedNode k := by
    funext primary
    rcases primary with _ | _ | _ <;> rfl
  unfold classify
  rw [same, typed]
  rfl

theorem loosened_node (loosened : Schema.Loosened schema schema') : schemaNode schema = schemaNode schema' := by
  induction loosened with
  | ref _ => rfl
  | @inline sides type types _ ih =>
    have parts : (sides.map Prod.fst).map schemaNode = (sides.map Prod.snd).map schemaNode := by
      rw [Keywords.map_map, Keywords.map_map]
      exact Keywords.map_congr ih
    -- with the same nodes for the parts, only the type keyword is left that differs
    have same : ((sides.map Prod.snd).map schemaNode).type.bind (·.primary?) = type.bind (·.primary?) :=
      Api.primary_loosened types
    rw [node_of_keywords, node_of_keywords, parts, ← classify_type _ same]
    rfl

theorem loosened_description (loosened : Schema.Loosened schema schema') :
    schemaDescription? schema = schemaDescription? schema' := by
  cases loosened <;> rfl

theorem loosened_refName (loosened : Schema.Loosened schema schema') : refName? schema = refName? schema' := by
  cases loosened <;> rfl

theorem loosened_ownProperties (loosened : Schema.Loosened (.inline k) (.inline k')) :
    ownProperties k = ownProperties k' := by
  cases loosened with
  | @inline sides type _ parts =>
    simp only [ownProperties, Keywords.map, List.map_map]
    apply List.map_congr_left
    rintro ⟨name, pair⟩ listed
    have loosened := parts pair (Api.part_of_property listed)
    simp only [Function.comp_apply, loosened_node loosened, loosened_description loosened]

theorem loosened_formParameters (loosened : Schema.Loosened (.inline k) (.inline k')) :
    formParameters k = formParameters k' := by
  cases loosened with
  | @inline sides type _ parts =>
    simp only [formParameters, Keywords.map, List.map_map]
    apply List.map_congr_left
    rintro ⟨name, pair⟩ listed
    simp only [Function.comp_apply, loosened_node (parts pair (Api.part_of_property listed))]

theorem loosened_partProperties (loosened : Schema.Loosened (.inline k) (.inline k')) :
    partProperties k = partProperties k' := by
  cases loosened with
  | @inline sides type _ parts =>
    simp only [partProperties, Keywords.map, List.flatMap_map]
    apply List.flatMap_congr
    rintro ⟨part, part'⟩ listed
    have loosened : Schema.Loosened part part' := parts _ (Api.part_of_allOf listed)
    cases part with
    | ref _ =>
      cases loosened
      rfl
    | inline _ =>
      cases part' with
      | ref _ => cases loosened
      | inline _ => exact loosened_ownProperties loosened

/-- Parts and branches stand side by side, and each pair has one name, if any, and one node. -/
theorem loosened_compositions (loosened : Schema.Loosened (.inline k) (.inline k')) :
    interfaces k = interfaces k' ∧ (branches k).map schemaNode = (branches k').map schemaNode := by
  cases loosened with
  | @inline sides type _ parts =>
    have choices : branches { sides.map Prod.snd with type } = (branches sides).map Prod.snd := branches_map _ sides
    constructor
    · have before : (sides.map Prod.fst).allOf ++ branches (sides.map Prod.fst) =
          (sides.allOf ++ branches sides).map Prod.fst := by
        rw [branches_map, List.map_append]
        rfl
      have after : (sides.map Prod.snd).allOf ++ branches { sides.map Prod.snd with type } =
          (sides.allOf ++ branches sides).map Prod.snd := by
        rw [choices, List.map_append]
        rfl
      rw [interfaces, interfaces, before, after, List.filterMap_map, List.filterMap_map]
      refine List.filterMap_congr fun pair listed => loosened_refName (parts pair ?_)
      rcases List.mem_append.mp listed with part | branch
      · exact Api.part_of_allOf part
      · exact read_part_is_part (.branch branch)
    · rw [branches_map, choices, List.map_map, List.map_map]
      exact List.map_congr_left fun pair listed => loosened_node (parts pair (read_part_is_part (.branch listed)))

theorem loosened_model (loosened : Schema.Loosened (.inline k) (.inline k')) (aliases : Table Node) (name : String) :
    keywordModel aliases name k = keywordModel aliases name k' := by
  have members : properties k = properties k' := by
    rw [properties_parts, properties_parts, loosened_partProperties loosened, loosened_ownProperties loosened]
  obtain ⟨composed, choices⟩ := loosened_compositions loosened
  have inlined : ((branches k).map fun schema => inlineAliases aliases (schemaNode schema)) =
      (branches k').map fun schema => inlineAliases aliases (schemaNode schema) := by
    have same := congrArg (List.map (inlineAliases aliases)) choices
    rwa [List.map_map, List.map_map] at same
  have description : k.description = k'.description := loosened_description loosened
  have values : k.values = k'.values := by cases loosened; rfl
  unfold keywordModel
  simp only [members, inlined, composed, description, values]

theorem loosened_alike ⦃schema schema' : Schema⦄ (loosened : Schema.Loosened schema schema') :
    Alike schema schema' := by
  cases schema with
  | ref _ =>
    cases loosened
    exact .ref _
  | inline k =>
    cases schema' with
    | ref _ => nomatch loosened
    | inline k' =>
      have values : k.values = k'.values := by cases loosened; rfl
      exact .inline (loosened_node loosened) values (loosened_formParameters loosened) (loosened_model loosened)

end

/-- A description comes to the same interface, or to the same error, when types in any of its schemas, at whatever
depth, are given in lists instead of alone. -/
theorem type_lists_change_nothing {document document' : Document}
    (loosened : Document.Rel Schema.Loosened document document') (naming : Naming) :
    ofDocument naming document' = ofDocument naming document :=
  (ofDocument_alike loosened_alike loosened naming).symm

def toyTags (tag : Option TypeSet) : Schema :=
  .inline { type := some (.single .array), items := some (.inline { type := tag }) }

def listToys (limit : Option TypeSet) : Api.Operation where
  operationId := some "listToys"
  parameters := [.inline { name := "limit", place := .query, schema := some (.inline { type := limit }) }]

/-- Toys have a maker and tags, and are listed up to a limit. -/
def toys (tag limit : Option TypeSet) : Document where
  openapi := "3.1.0"
  info := { title := "Toys", version := "1" }
  paths := ⟨[("/toys", { operation? := fun
    | .get => some (listToys limit)
    | _ => none })], List.nodup_singleton "/toys"⟩
  components := some { schemas := ⟨[
    ("Maker", .inline { type := some (.single .object) }),
    ("Toy", .inline { properties := [("maker", .ref "#/components/schemas/Maker"), ("tags", toyTags tag)] })],
    by simp⟩ }

theorem toys_loosened {tag tag' limit limit' : Option TypeSet} (ofTag : TypeSet.Loosened tag tag')
    (ofLimit : TypeSet.Loosened limit limit') :
    Document.Rel Schema.Loosened (toys tag limit) (toys tag' limit') := by
  have item : Schema.Loosened (.inline { type := tag }) (.inline { type := tag' }) := Api.loosened_type ofTag
  have ofTags : Schema.Loosened (toyTags tag) (toyTags tag') := by
    refine @Schema.Loosened.inline { type := some (.single .array), items := some (_, _) } _ (.same _) ?_
    exact List.forall_mem_singleton.mpr item
  have toy : Schema.Loosened
      (.inline { properties := [("maker", .ref "#/components/schemas/Maker"), ("tags", toyTags tag)] })
      (.inline { properties := [("maker", .ref "#/components/schemas/Maker"), ("tags", toyTags tag')] }) := by
    refine @Schema.Loosened.inline { properties := [("maker", _, _), ("tags", _, _)] } _ (.same _) ?_
    exact List.forall_mem_cons.mpr ⟨.ref _, List.forall_mem_singleton.mpr ofTags⟩
  have listing : Api.Operation.Rel Schema.Loosened (listToys limit) (listToys limit') :=
    .intro (.cons (.inline (.intro (.some (Api.loosened_type ofLimit)))) .nil) .none .nil
  refine ⟨rfl, rfl, .cons ⟨rfl, .nil, fun method => ?_⟩ .nil, .some ⟨?_, .nil, .nil⟩⟩
  · cases method with
    | get => exact .some listing
    | _ => exact .none
  · exact .cons ⟨rfl, Api.loosened_same _⟩ (.cons ⟨rfl, toy⟩ .nil)

theorem toys_with_type_lists :
    let before := toys (some (.single .string)) (some (.single .integer))
    let after := toys (some (.several [.null, .string])) (some (.several [.integer, .null]))
    Document.Rel Schema.Loosened before after ∧ ofDocument {} after = ofDocument {} before ∧
    ∃ result, ofDocument {} after = .ok result ∧ result.models.map (·.name) = ["Maker", "Toy"] := by
  intro before after
  have loosened : Document.Rel Schema.Loosened before after :=
    toys_loosened (.listed (by decide) 1 []) (.listed (by decide) 0 [.null])
  exact ⟨loosened, type_lists_change_nothing loosened {}, _, rfl, rfl⟩

end Interface

end ServerScaffold
