import ServerScaffold.Proofs.AliasClosure
import ServerScaffold.Proofs.Inlining

/-!
What a reference to an alias becomes. Bare references lead from an alias to one schema in place, which is an
alias by itself, and putting aliases in place goes the same way. So the reference becomes a node of the kind
of that schema; and if no alias on the way leads back to itself, it comes to the very node of the schema.
-/
namespace ServerScaffold.Interface

open Api (Keywords Schema)
open Relation (ReflTransGen TransGen)

/-- What a node is from outside: its kind, without its parts and its default. -/
inductive Outside where
  | leaf (kind : Leaf)
  | ref
  | holder (container : Container)
  | union
deriving DecidableEq, Repr

def Node.outside : Node → Outside
  | .leaf kind _ => .leaf kind
  | .ref _ _ => .ref
  | .holder container _ _ => .holder container
  | .union _ _ => .union

/-- Bare references lead from a name to a schema in place, called `last`. -/
structure ComesTo (schemas : Table Schema) (name last : String) (k : Keywords Schema) : Prop where
  walk : ReflTransGen (IsBare schemas) name last
  inPlace : (last, .inline k) ∈ schemas.entries

section Defaults

variable {aliases : Table Node} {path : List String} {node result : Node} {value : Option Literal}

@[simp] theorem default_setDefault (value : Option Literal) (node : Node) :
    (node.setDefault value).default? = value := by
  cases node <;> rfl

@[simp] theorem default_override (value : Option Literal) (node : Node) :
    (node.override value).default? = value.or node.default? := by
  cases value with
  | none => rfl
  | some value => exact default_setDefault (some value) node

@[simp] theorem outside_override (value : Option Literal) (node : Node) :
    (node.override value).outside = node.outside := by
  cases value with
  | none => rfl
  | some value => cases node <;> rfl

theorem plain_iff : node.isPlain = true ↔
    node.outside ∉ [.ref, .union, .leaf .any] ∧ ∀ values, node.outside ≠ .leaf (.enumeration values) := by
  cases node with
  | leaf kind value => cases kind <;> simp [Node.isPlain, Node.outside]
  | ref name value => simp [Node.isPlain, Node.outside]
  | holder container element value => simp [Node.isPlain, Node.outside]
  | union branches value => simp [Node.isPlain, Node.outside]

theorem plain_no_ref (plain : node.isPlain = true) : node.outside ≠ .ref := by
  intro same
  have kind := (plain_iff.mp plain).1
  simp [same] at kind

/-- Classification carries the default of the keywords. -/
theorem default_classify (k : Keywords Node) : (classify k).default? = k.default := by
  unfold classify typedNode arrayNode objectNode
  repeat' split
  all_goals first | rfl | exact default_setDefault _ _

theorem default_schemaNode (k : Keywords Schema) : (schemaNode (.inline k)).default? = k.default := by
  rw [node_of_keywords, default_classify]
  rfl

/-- Putting aliases in place changes only the inside of what is no reference. -/
theorem inlines_outside (inlines : Inlines aliases path node result) (noRef : node.outside ≠ .ref) :
    result.outside = node.outside ∧ result.default? = node.default? := by
  cases inlines with
  | leaf => exact ⟨rfl, rfl⟩
  | stays _ => exact absurd rfl noRef
  | enters _ _ _ => exact absurd rfl noRef
  | holder _ => exact ⟨rfl, rfl⟩
  | union _ => exact ⟨rfl, rfl⟩

theorem inlineAliases_outside (noRef : node.outside ≠ .ref) :
    (inlineAliases aliases node).outside = node.outside :=
  (inlines_outside (inlines_iff.mpr rfl) noRef).1

theorem inlines_override (inlines : Inlines aliases path node result) (noRef : node.outside ≠ .ref) :
    Inlines aliases path (node.override value) (result.override value) := by
  cases value with
  | none => exact inlines
  | some value =>
    cases inlines with
    | leaf => exact .leaf
    | stays _ => exact absurd rfl noRef
    | enters _ _ _ => exact absurd rfl noRef
    | holder inside => exact .holder inside
    | union each => exact .union each

theorem inlineAliases_override (noRef : node.outside ≠ .ref) (value : Option Literal) :
    inlineAliases aliases (node.override value) = (inlineAliases aliases node).override value :=
  (inlines_iff.mp (inlines_override (inlines_iff.mpr rfl) noRef)).symm

end Defaults

section Chains

variable {schemas : Table Schema} {name other last target : String} {k : Keywords Schema}

theorem alias_comes_to (known : Alias schemas name) :
    ∃ last, ReflTransGen (IsBare schemas) name last ∧ IsDirect schemas last := by
  induction known with
  | direct own => exact ⟨_, .refl, own⟩
  | bare reference _ ih =>
    obtain ⟨last, walk, own⟩ := ih
    exact ⟨last, .head reference walk, own⟩

theorem alias_has_definition (known : name ∈ (aliasTable schemas).keys) : ∃ last k, ComesTo schemas name last k := by
  obtain ⟨last, walk, k, inPlace, -⟩ := alias_comes_to (swept_is_alias (aliasTable_keys.mp known))
  exact ⟨last, k, walk, inPlace⟩

theorem inPlace_not_bare (inPlace : (name, .inline k) ∈ schemas.entries) : ¬ IsBare schemas name target := by
  rintro ⟨pointer, bare, -⟩
  have same := Table.entry_unique inPlace bare
  contradiction

/-- There is one way to go from a name, so it ends at one schema in place. -/
theorem comesTo_unique {other : String} {k' : Keywords Schema} (comes : ComesTo schemas name last k)
    (again : ComesTo schemas name other k') : other = last ∧ k' = k := by
  obtain ⟨walk, inPlace⟩ := comes
  obtain ⟨walk', inPlace'⟩ := again
  have met : other = last := by
    induction walk using ReflTransGen.head_induction_on with
    | refl =>
      rcases ReflTransGen.cases_head walk' with same | ⟨next, step, -⟩
      · exact same.symm
      · exact absurd step (inPlace_not_bare inPlace)
    | head step _ ih =>
      rcases ReflTransGen.cases_head walk' with rfl | ⟨next, step', rest⟩
      · exact absurd step (inPlace_not_bare inPlace')
      · obtain rfl := bare_unique step step'
        exact ih rest
  subst met
  exact ⟨rfl, Schema.inline.inj (Table.entry_unique inPlace' inPlace)⟩

/-- An alias is reached from a schema in place, one bare reference after the other, so no way leads around. -/
theorem alias_no_circle (known : Alias schemas name) : ¬ TransGen (IsBare schemas) name name := by
  induction known with
  | direct own =>
    intro circle
    obtain ⟨next, step, -⟩ := TransGen.head'_iff.mp circle
    exact direct_not_bare own step
  | @bare name target reference _ ih =>
    intro circle
    obtain ⟨next, step, rest⟩ := TransGen.head'_iff.mp circle
    obtain rfl := bare_unique reference step
    exact ih (TransGen.tail' rest reference)

theorem swept_target (known : name ∈ (aliasTable schemas).keys) (reference : IsBare schemas name target) :
    target ∈ (aliasTable schemas).keys := by
  rw [aliasTable_keys] at known ⊢
  cases known with
  | direct own => exact absurd reference (direct_not_bare own)
  | bare again known _ =>
    obtain rfl := bare_unique again reference
    exact known

theorem target_of_entry {schema : Schema} (known : name ∈ (aliasTable schemas).keys)
    (entry : (name, schema) ∈ schemas.entries) :
    (aliasTable schemas).get? name = some (schemaNode schema) := by
  obtain ⟨node, there⟩ := Table.key_has_entry known
  have found := Table.get_eq_some.mpr there
  obtain ⟨schema', entry', rfl⟩ := aliasTable_target found
  obtain rfl := Table.entry_unique entry entry'
  exact found

theorem target_of_bare (known : name ∈ (aliasTable schemas).keys) (reference : IsBare schemas name target) :
    (aliasTable schemas).get? name = some (.ref target none) := by
  obtain ⟨pointer, entry, rfl⟩ := reference
  rw [target_of_entry known entry, node_of_ref]

theorem override_ref (name : String) (value : Option Literal) :
    (Node.ref name none).override value = .ref name value := by
  cases value <;> rfl

/-- Putting aliases in place goes the way of the bare references: what a reference becomes is what the schema
in place becomes, below the names passed on the way. -/
theorem inlined_along (comes : ComesTo schemas name last k) {path : List String} {result : Node}
    {value : Option Literal} (known : name ∈ (aliasTable schemas).keys)
    (behind : ∀ passed ∈ path, TransGen (IsBare schemas) passed name)
    (inlines : Inlines (aliasTable schemas) path (.ref name value) result) :
    ∃ below, Inlines (aliasTable schemas) below ((schemaNode (.inline k)).override value) result := by
  obtain ⟨walk, inPlace⟩ := comes
  induction walk using ReflTransGen.head_induction_on generalizing path with
  | refl =>
    cases inlines with
    | stays kept =>
      rcases kept with inPath | absent
      · obtain ⟨next, step, -⟩ := TransGen.head'_iff.mp (behind _ inPath)
        exact absurd step (inPlace_not_bare inPlace)
      · exact absurd known absent
    | enters _ found below =>
      obtain rfl := Option.some.inj (found.symm.trans (target_of_entry known inPlace))
      exact ⟨_, below⟩
  | @head name target step _ ih =>
    cases inlines with
    | stays kept =>
      -- a name in the path leads here by bare references, and from an alias no such way leads back
      rcases kept with inPath | absent
      · exact absurd (behind _ inPath) (alias_no_circle (swept_is_alias (aliasTable_keys.mp known)))
      · exact absurd known absent
    | enters _ found below =>
      obtain rfl := Option.some.inj (found.symm.trans (target_of_bare known step))
      rw [override_ref] at below
      refine ih (swept_target known step) (fun passed listed => ?_) below
      rcases List.mem_cons.mp listed with rfl | earlier
      · exact .single step
      · exact .tail (behind passed earlier) step

/-- Where no alias on the way leads back to itself, the reference comes to the same as the schema in place. -/
theorem inlined_as_definition (comes : ComesTo schemas name last k) (value : Option Literal)
    (known : name ∈ (aliasTable schemas).keys)
    (noWayBack : ∀ passed, ReflTransGen (IsBare schemas) name passed →
      ¬ TransGen (Mentions (aliasTable schemas)) passed passed) :
    inlineAliases (aliasTable schemas) (.ref name value) =
      inlineAliases (aliasTable schemas) ((schemaNode (.inline k)).override value) := by
  obtain ⟨walk, inPlace⟩ := comes
  induction walk using ReflTransGen.head_induction_on with
  | refl => exact inlined_reference (target_of_entry known inPlace) (noWayBack last .refl) value
  | @head name target step _ ih =>
    have onwards := ih (swept_target known step) fun passed rest => noWayBack passed (.head step rest)
    rw [inlined_reference (target_of_bare known step) (noWayBack name .refl), override_ref, onwards]

/-- What bare references lead to from an alias is an alias by itself. -/
theorem comesTo_plain (comes : ComesTo schemas name last k) (known : name ∈ (aliasTable schemas).keys) :
    (schemaNode (.inline k)).isPlain = true := by
  obtain ⟨other, walk, k', inPlace, -, plain⟩ := alias_comes_to (swept_is_alias (aliasTable_keys.mp known))
  obtain ⟨rfl, rfl⟩ := comesTo_unique comes ⟨walk, inPlace⟩
  exact plain

/-- A reference to an alias becomes a node of the kind of the schema that it comes to, and a default of its own
wins. -/
theorem inlined_reference_outside (comes : ComesTo schemas name last k)
    (known : name ∈ (aliasTable schemas).keys) (value : Option Literal) :
    (inlineAliases (aliasTable schemas) (.ref name value)).outside = (schemaNode (.inline k)).outside ∧
      (inlineAliases (aliasTable schemas) (.ref name value)).default? = value.or k.default := by
  have noRef := plain_no_ref (comesTo_plain comes known)
  obtain ⟨below, inlines⟩ := inlined_along comes known (fun _ listed => absurd listed List.not_mem_nil)
    (inlines_iff.mpr rfl : Inlines (aliasTable schemas) [] (.ref name value) _)
  obtain ⟨outside, default⟩ := inlines_outside inlines (by rwa [outside_override])
  rw [outside, outside_override, default, default_override, default_schemaNode]
  exact ⟨rfl, rfl⟩

end Chains

/-- Bare references lead from an alias to just one schema in place. A reference to the alias becomes a node of
the kind of that schema, which is never a reference, a union, an enumeration or free-form, with the default
that it has itself or else that of the schema. If no alias on the way leads back to itself, it is but for the
default the node that the schema itself comes to. -/
theorem reference_becomes_definition (schemas : Table Schema) {name : String}
    (known : name ∈ (aliasTable schemas).keys) (value : Option Literal) :
    ∃ last k, ComesTo schemas name last k ∧
      (∀ other k', ComesTo schemas name other k' → other = last ∧ k' = k) ∧
      (inlineAliases (aliasTable schemas) (.ref name value)).outside = (schemaNode (.inline k)).outside ∧
      (schemaNode (.inline k)).outside ∉ [.ref, .union, .leaf .any] ∧
      (∀ values, (schemaNode (.inline k)).outside ≠ .leaf (.enumeration values)) ∧
      (inlineAliases (aliasTable schemas) (.ref name value)).default? = value.or k.default ∧
      ((∀ passed, ReflTransGen (IsBare schemas) name passed →
          ¬ TransGen (Mentions (aliasTable schemas)) passed passed) →
        inlineAliases (aliasTable schemas) (.ref name value) =
          (inlineAliases (aliasTable schemas) (schemaNode (.inline k))).override value) := by
  obtain ⟨last, walk, k, inPlace, -, plain⟩ := alias_comes_to (swept_is_alias (aliasTable_keys.mp known))
  have comes : ComesTo schemas name last k := ⟨walk, inPlace⟩
  obtain ⟨kind, noEnumeration⟩ := plain_iff.mp plain
  obtain ⟨outside, default⟩ := inlined_reference_outside comes known value
  refine ⟨last, k, comes, fun _ _ => comesTo_unique comes, outside, kind, noEnumeration, default, ?_⟩
  intro noWayBack
  rw [inlined_as_definition comes value known noWayBack, inlineAliases_override (plain_no_ref plain)]

/-- A name with a default, and a second and a third name for it. -/
def nicknames : Table Schema where
  entries := [
    ("Name", .inline { type := some (.single .string), default := some (.atom (.text "rex")) }),
    ("Short", .ref "#/components/schemas/Name"),
    ("Nick", .ref "#/components/schemas/Short")]
  distinct := by decide

theorem nick_becomes_name :
    "Nick" ∈ (aliasTable nicknames).keys ∧
    (∀ passed, ReflTransGen (IsBare nicknames) "Nick" passed →
      ¬ TransGen (Mentions (aliasTable nicknames)) passed passed) ∧
    ∀ value, inlineAliases (aliasTable nicknames) (.ref "Nick" value) =
      (Node.leaf .string (some (.atom (.text "rex")))).override value := by
  have known : "Nick" ∈ (aliasTable nicknames).keys := by decide
  let rank (name : String) : Nat := ["Name", "Short", "Nick"].idxOf name
  have falls : ∀ entry ∈ (aliasTable nicknames).entries, ∀ name ∈ entry.2.refs, rank name < rank entry.1 := by
    decide
  have first : IsBare nicknames "Nick" "Short" :=
    ⟨"#/components/schemas/Short", by simp [nicknames], by decide⟩
  have second : IsBare nicknames "Short" "Name" :=
    ⟨"#/components/schemas/Name", by simp [nicknames], by decide⟩
  have way : ComesTo nicknames "Nick" "Name"
      { type := some (.single .string), default := some (.atom (.text "rex")) } :=
    ⟨.head first (.head second .refl), by simp [nicknames]⟩
  refine ⟨known, fun passed _ => no_way_back rank falls passed, fun value => ?_⟩
  obtain ⟨last, k, -, unique, -, -, -, -, same⟩ := reference_becomes_definition nicknames known value
  obtain ⟨rfl, rfl⟩ := unique _ _ way
  exact same fun passed _ => no_way_back rank falls passed

/-- A pack is a list of packs, which are called kin there. From kin a way leads back, and the reference comes
to one list less than the definition. -/
def packs : Table Schema where
  entries := [
    ("Pack", .inline { type := some (.single .array), items := some (.ref "#/components/schemas/Kin") }),
    ("Kin", .ref "#/components/schemas/Pack")]
  distinct := by decide

example : inlineAliases (aliasTable packs) (.ref "Kin" none) = .holder .array (.ref "Kin" none) none ∧
    inlineAliases (aliasTable packs) (.holder .array (.ref "Kin" none) none) =
      .holder .array (.holder .array (.ref "Kin" none) none) none := ⟨rfl, rfl⟩

end ServerScaffold.Interface
