import ServerScaffold.Proofs.Directives

/-!
What types nodes come to, whatever the options say. A type is made of tokens of the target, of classes in the
namespace of the models, and of containers of such types. Options can give other tokens for the names of types,
but they take no name away; so every node that is no container and no reference comes to the token that its
name stands for, as it is written there.
-/
namespace ServerScaffold.Cpp

open Interface (Leaf Node)

/-- The types inside a type, itself among them. -/
inductive Inside (part : TypeExpr) : TypeExpr → Prop where
  | here : Inside part part
  | arg {name : String} {args : List TypeExpr} {arg : TypeExpr} (listed : arg ∈ args)
      (inside : Inside part arg) : Inside part (.container name args)
  | optional {inner : TypeExpr} (inside : Inside part inner) : Inside part (.optional inner)
  | shared {inner : TypeExpr} (inside : Inside part inner) : Inside part (.shared inner)

/-- A type made of tokens, of classes in the namespace of the models, and of containers of such types. -/
inductive Regular (settings : Settings) : TypeExpr → Prop where
  | token {token : String} (known : settings.isKnownToken token = true) : Regular settings (.scalar token)
  | model {name : String} (unknown : settings.isKnownToken name = false) :
      Regular settings (.model settings.modelScope? name)
  | container {name : String} {args : List TypeExpr} (known : settings.isKnownToken name = true)
      (each : ∀ arg ∈ args, Regular settings arg) : Regular settings (.container name args)

/-- The name of the type of a node that is no container and no reference. -/
def plainTypeName? : Node → Option String
  | .leaf kind _ => some (leafName kind)
  | .union _ _ => some unionName
  | .ref _ _ | .holder _ _ _ => none

section

variable {settings : Settings} {config : Config} {type part : TypeExpr} {name : String}

theorem regular_inside (regular : Regular settings type) (inside : Inside part type) :
    Regular settings part := by
  induction inside with
  | here => exact regular
  | arg listed _ ih =>
    cases regular with
    | container _ each => exact ih (each _ listed)
  | optional _ _ => nomatch regular
  | shared _ _ => nomatch regular

theorem namedType_regular (settings : Settings) (name : String) : Regular settings (namedType settings name) := by
  unfold namedType
  simp only
  split
  · next known => exact .token known
  · next unknown => exact .model (Bool.eq_false_iff.mpr unknown)

theorem resolve_regular (config : Config) (node : Node) :
    Regular (.ofConfig config) (resolve (.ofConfig config) node) := by
  induction node using Node.induct with
  | leaf kind value => exact namedType_regular _ _
  | ref name value => exact namedType_regular _ _
  | union branches value => exact namedType_regular _ _
  | holder container element value ih =>
    have known := type_name_known config (container_name_listed container)
    have keys := type_name_known config (show "string" ∈ typeNames by simp [typeNames])
    cases container with
    | array | set => exact .container known (List.forall_mem_singleton.mpr ih)
    | map => exact .container known (List.forall_mem_cons.mpr ⟨.token keys, List.forall_mem_singleton.mpr ih⟩)

theorem plainTypeName_listed {node : Node} (plain : plainTypeName? node = some name) : name ∈ typeNames := by
  cases node with
  | leaf kind value =>
    obtain rfl := Option.some.inj plain
    exact leaf_name_listed kind
  | union branches value =>
    obtain rfl := Option.some.inj plain
    simp [typeNames]
  | ref _ _ | holder _ _ _ => contradiction

theorem resolve_plain {node : Node} (plain : plainTypeName? node = some name) :
    resolve settings node = namedType settings (settings.mapped name) := by
  cases node with
  | leaf _ _ | union _ _ =>
    obtain rfl := Option.some.inj plain
    rfl
  | ref _ _ | holder _ _ _ => contradiction

/-- Every name of a type has an entry: that of the options, or else the one that is built in. -/
theorem type_name_has_token (config : Config) (listed : name ∈ typeNames) :
    ∃ token, (Settings.ofConfig config).typeMapping.get? name = some token ∧
      (config.typeMappings.get? name).or (typeTokens.get? name) = some token := by
  have key : name ∈ (Settings.ofConfig config).typeMapping.keys :=
    (Table.keys_insertAll _).mpr (Or.inr (type_names_listed name listed))
  obtain ⟨token, entry⟩ := Table.key_has_entry key
  have found := Table.get_eq_some.mpr entry
  exact ⟨token, found, (Table.get_insertAll _ _ _).symm.trans found⟩

end

/-- Whatever the options say, there is no optional and no shared type in the type of a node, the classes in it
stand in the namespace of the models and are no tokens, and the rest are tokens. A node that is no container
and no reference is the token that the options or else the built-in table give for its name, unchanged. -/
theorem node_types_regular (config : Config) (node : Node) :
    (∀ part, Inside part (resolve (.ofConfig config) node) →
      (∀ inner, part ≠ .optional inner ∧ part ≠ .shared inner) ∧
      (∀ scope name, part = .model scope name →
        scope = (Settings.ofConfig config).modelScope? ∧ (Settings.ofConfig config).isKnownToken name = false) ∧
      (∀ token, part = .scalar token → (Settings.ofConfig config).isKnownToken token = true)) ∧
    (∀ name, plainTypeName? node = some name → ∃ token,
      (Settings.ofConfig config).typeMapping.get? name = some token ∧
      (config.typeMappings.get? name).or (typeTokens.get? name) = some token ∧
      resolve (.ofConfig config) node = .scalar token) := by
  constructor
  · intro part inside
    cases regular_inside (resolve_regular config node) inside with
    | token known =>
      refine ⟨fun inner => ⟨nofun, nofun⟩, nofun, fun token same => ?_⟩
      obtain rfl := TypeExpr.scalar.inj same
      exact known
    | model unknown =>
      refine ⟨fun inner => ⟨nofun, nofun⟩, fun scope name same => ?_, nofun⟩
      obtain ⟨rfl, rfl⟩ := TypeExpr.model.inj same
      exact ⟨rfl, unknown⟩
    | container _ _ => exact ⟨fun inner => ⟨nofun, nofun⟩, nofun, nofun⟩
  · intro name plain
    have listed := plainTypeName_listed plain
    obtain ⟨token, entry, given⟩ := type_name_has_token config listed
    have mapped : (Settings.ofConfig config).mapped name = token := by
      rw [Settings.mapped, entry]
      rfl
    refine ⟨token, entry, given, ?_⟩
    rw [resolve_plain plain, namedType_known (type_name_known config listed), mapped]

end ServerScaffold.Cpp
