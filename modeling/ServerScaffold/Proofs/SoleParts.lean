import ServerScaffold.Proofs.Chains

/-!
A schema that holds one part and says nothing else. It comes to the node of the part but for the default: a
default that the part gives is dropped. One that an alias gives is kept, since it comes with the target when
the alias is put in place.
-/
namespace ServerScaffold.Interface

open Api (Keywords Schema)

/-- A schema whose only keyword is `allOf`, with one part. -/
def wrapped (part : Schema) : Schema := .inline { allOf := [part] }

/-- The default that a schema gives. A reference gives none. -/
def ownDefault? : Schema → Option Literal
  | .ref _ => none
  | .inline k => k.default

/-- A schema that comes to a reference to an alias and gives the very default of the schema that bare
references lead to from the alias. -/
def GivesAliasDefault (schemas : Table Schema) (schema : Schema) (value : Literal) : Prop :=
  ∃ name last k, schemaNode schema = .ref name (some value) ∧ name ∈ (aliasTable schemas).keys ∧
    ComesTo schemas name last k ∧ k.default = some value

section Defaults

variable {aliases : Table Node} {path : List String} {node result : Node}

theorem node_of_sole_part {k : Keywords Schema} {part : Schema} (noChoice : branches k = [])
    (sole : k.allOf = [part]) : schemaNode (.inline k) = (schemaNode part).setDefault k.default := by
  have parts : (k.map schemaNode).allOf = [schemaNode part] := congrArg (List.map schemaNode) sole
  have choice : branches (k.map schemaNode) = [] := by rw [branches_map, noChoice, List.map_nil]
  rw [node_of_keywords, classify, parts, choice]
  rfl

theorem node_default (schema : Schema) : (schemaNode schema).default? = ownDefault? schema := by
  cases schema with
  | ref pointer => rfl
  | inline k => exact default_schemaNode k

@[simp] theorem override_override (value : Literal) (first : Option Literal) (node : Node) :
    (node.override first).override (some value) = node.override (some value) := by
  cases first with
  | none => rfl
  | some first => cases node <;> rfl

theorem override_default (node : Node) : (node.setDefault none).override node.default? = node := by
  rcases node with ⟨_, value⟩ | ⟨_, value⟩ | ⟨_, _, value⟩ | ⟨_, value⟩
  all_goals cases value <;> rfl

theorem override_eq_self {value : Literal} :
    node.override (some value) = node ↔ node.default? = some value := by
  constructor
  · intro same
    rw [← same, default_override]
    rfl
  · intro same
    cases node <;> obtain rfl := same <;> rfl

/-- A default of the node wins over all that aliases bring, whichever of them are entered. -/
theorem inlines_override_all (inlines : Inlines aliases path node result) (value : Option Literal) :
    Inlines aliases path (node.override value) (result.override value) := by
  cases value with
  | none => exact inlines
  | some value =>
    induction inlines with
    | stays kept => exact .stays kept
    | enters fresh found _ ih => exact .enters fresh found (by rwa [override_override] at ih)
    | leaf => exact .leaf
    | holder inside _ => exact .holder inside
    | union each _ => exact .union each

theorem inlineAliases_override_all (node : Node) (value : Option Literal) :
    inlineAliases aliases (node.override value) = (inlineAliases aliases node).override value :=
  (inlines_iff.mp (inlines_override_all (inlines_iff.mpr rfl) value)).symm

end Defaults

section Wrapped

variable {schemas : Table Schema} {part : Schema}

theorem node_wrapped (part : Schema) : schemaNode (wrapped part) = (schemaNode part).setDefault none :=
  node_of_sole_part rfl rfl

theorem inlined_part (aliases : Table Node) (part : Schema) :
    inlineAliases aliases (schemaNode part) =
      (inlineAliases aliases (schemaNode (wrapped part))).override (ownDefault? part) := by
  rw [← inlineAliases_override_all, node_wrapped, ← node_default, override_default]

/-- Without a default a node that is no reference comes to none. -/
theorem inlined_without_default {node : Node} (noRef : node.outside ≠ .ref) (aliases : Table Node) :
    (inlineAliases aliases (node.setDefault none)).default? = none := by
  have noRef' : (node.setDefault none).outside ≠ .ref := by cases node <;> exact noRef
  rw [(inlines_outside (inlines_iff.mpr rfl) noRef').2, default_setDefault]

/-- A reference to an alias comes to the default of the schema that bare references lead to from it. -/
theorem reference_default_iff {name : String} {value : Literal} :
    (inlineAliases (aliasTable schemas) (.ref name none)).default? = some value ↔
      name ∈ (aliasTable schemas).keys ∧ ∃ last k, ComesTo schemas name last k ∧ k.default = some value := by
  constructor
  · intro given
    by_cases known : name ∈ (aliasTable schemas).keys
    · obtain ⟨last, k, comes⟩ := alias_has_definition known
      have default := (inlined_reference_outside comes known none).2
      exact ⟨known, last, k, comes, default.symm.trans given⟩
    · rw [reference_stays known] at given
      contradiction
  · rintro ⟨known, last, k, comes, given⟩
    exact (inlined_reference_outside comes known none).2.trans given

theorem wrapped_default_iff {value : Literal} (given : ownDefault? part = some value) :
    (inlineAliases (aliasTable schemas) (schemaNode (wrapped part))).default? = some value ↔
      GivesAliasDefault schemas part value := by
  rw [node_wrapped]
  rw [← node_default] at given
  cases node : schemaNode part with
  | ref name own =>
    obtain rfl : own = some value := by rwa [node] at given
    rw [Node.setDefault, reference_default_iff]
    constructor
    · rintro ⟨known, last, k, comes, default⟩
      exact ⟨name, last, k, node, known, comes, default⟩
    · rintro ⟨name', last, k, node', known, comes, default⟩
      obtain ⟨rfl, -⟩ := Node.ref.inj (node.symm.trans node')
      exact ⟨known, last, k, comes, default⟩
  | leaf _ _ | holder _ _ _ | union _ _ =>
    rw [inlined_without_default (by simp [Node.outside])]
    constructor
    · intro absent
      contradiction
    · rintro ⟨_, _, _, node', -⟩
      exact absurd (node.symm.trans node') (by simp)

end Wrapped

/-- A schema that only holds one part comes to the node of the part, if the default of the part is given to
that node. So the two come to the same just if the part gives no default, or is a reference to an alias
that comes to this default without it. -/
theorem sole_part_transparent_iff (schemas : Table Schema) (part : Schema) :
    inlineAliases (aliasTable schemas) (schemaNode part) =
      (inlineAliases (aliasTable schemas) (schemaNode (wrapped part))).override (ownDefault? part) ∧
    (inlineAliases (aliasTable schemas) (schemaNode (wrapped part)) =
        inlineAliases (aliasTable schemas) (schemaNode part) ↔
      ∀ value, ownDefault? part = some value → GivesAliasDefault schemas part value) := by
  refine ⟨inlined_part _ part, ?_⟩
  rw [inlined_part _ part]
  cases given : ownDefault? part with
  | none => exact iff_of_true rfl fun value absent => nomatch absent
  | some value =>
    rw [eq_comm, override_eq_self, wrapped_default_iff given]
    constructor
    · intro byName other same
      obtain rfl := Option.some.inj same
      exact byName
    · intro byName
      exact byName value rfl

/-- A word with a default, as a part: the default is dropped. By the name of an alias it is kept. -/
theorem wrapped_word_loses_default :
    let rex : Schema := .inline { type := some (.single .string), default := some (.atom (.text "rex")) }
    inlineAliases (aliasTable nicknames) (schemaNode (wrapped rex)) = .leaf .string none ∧
    inlineAliases (aliasTable nicknames) (schemaNode rex) = .leaf .string (some (.atom (.text "rex"))) ∧
    inlineAliases (aliasTable nicknames) (schemaNode (wrapped (.ref "#/components/schemas/Name"))) =
      .leaf .string (some (.atom (.text "rex"))) := by
  exact ⟨rfl, rfl, rfl⟩

end ServerScaffold.Interface
