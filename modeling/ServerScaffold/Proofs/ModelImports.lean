import ServerScaffold.Context.Server
import ServerScaffold.Proofs.Directives

/-!
Which symbols are taken for generated models: those for which there is neither a directive nor need of one. These
are the names of classes, and the tokens that the options name for types without saying how to include them.
Where the options name none, the flag for the include of a model agrees with the list of directives.
-/
namespace ServerScaffold

namespace Cpp

open Interface (Node)
open Text (isNamePart)

section Given

variable {config : Config} {token : String}

/-- The options name the token for a type, but neither they nor the built-in tables say how to include it. -/
def GivenAlone (config : Config) (token : String) : Prop :=
  token ∈ config.typeMappings.values ∧ token ∉ primitiveTokens ∧ token ∉ includeDirectives.keys ∧
    token ∉ config.importMappings.keys

instance (config : Config) (token : String) : Decidable (GivenAlone config token) :=
  inferInstanceAs (Decidable (_ ∧ _))

theorem built_in_types_covered :
    (∀ token ∈ typeTokens.values, token ∈ primitiveTokens ∨ token ∈ includeDirectives.keys) ∧
    ∀ token ∈ bareTokens, token ∈ includeDirectives.keys := by
  decide

theorem importMapping_contains :
    (Settings.ofConfig config).importMapping.contains token = true ↔
      token ∈ config.importMappings.keys ∨ token ∈ includeDirectives.keys :=
  Table.contains_iff.trans (Table.keys_insertAll _)

theorem given_type_known (given : token ∈ config.typeMappings.values) :
    (Settings.ofConfig config).isKnownToken token = true := by
  have listed : token ∈ (Settings.ofConfig config).typeMapping.values := Table.given_value_there given
  simp [Settings.isKnownToken, listed]

theorem needsHeader_iff :
    needsHeader (.ofConfig config) token = true ↔
      token ∉ primitiveTokens ∧ token ∉ includeDirectives.keys ∧ token ∉ config.importMappings.keys := by
  have primitive : (Settings.ofConfig config).isPrimitive token = true ↔ token ∈ primitiveTokens :=
    List.contains_iff_mem
  have directive : (Settings.ofConfig config).importMapping.contains token = true ↔
      token ∈ config.importMappings.keys ∨ token ∈ includeDirectives.keys := importMapping_contains
  rw [needsHeader, Bool.and_eq_true, Bool.not_eq_true', Bool.not_eq_true', ← Bool.not_eq_true,
    ← Bool.not_eq_true, directive, primitive]
  tauto

/-- Of the known tokens, a header of their own is looked for just for those that are given alone. -/
theorem known_needsHeader_iff (known : (Settings.ofConfig config).isKnownToken token = true) :
    needsHeader (.ofConfig config) token = true ↔ GivenAlone config token := by
  constructor
  · intro needed
    obtain ⟨noPrimitive, noLibrary, noDirective⟩ := needsHeader_iff.mp needed
    refine ⟨?_, noPrimitive, noLibrary, noDirective⟩
    simp only [Settings.isKnownToken, Bool.or_eq_true, List.contains_iff_mem] at known
    rcases known with ((primitive | exempt) | type) | directive
    · exact absurd (List.contains_iff_mem.mp primitive) noPrimitive
    · exact absurd (built_in_types_covered.2 token exempt) noLibrary
    · rcases Table.value_given_or_there type with given | builtIn
      · exact given
      · rcases built_in_types_covered.1 token builtIn with primitive | library
        · exact absurd primitive noPrimitive
        · exact absurd library noLibrary
    · rcases importMapping_contains.mp directive with given | library
      · exact absurd given noDirective
      · exact absurd library noLibrary
  · rintro ⟨-, rest⟩
    exact needsHeader_iff.mpr rest

theorem header_ne_self (symbol : String) : header symbol ≠ symbol := by
  intro same
  have lengths := congrArg (fun text => text.toList.length) same
  simp only [header_text, List.length_append] at lengths
  have longer : 0 < "#include \"".toList.length := by decide
  omega

/-- A symbol gets the header of its own name just where one is looked for, unless the options give that header. -/
theorem own_header_found {symbol : String}
    (found : directiveFor (.ofConfig config) symbol = some (header symbol)) :
    needsHeader (.ofConfig config) symbol = true ∨ header symbol ∈ config.importMappings.values := by
  unfold directiveFor directive? at found
  split at found
  · exact absurd (Option.some.inj found).symm (header_ne_self symbol)
  · simp only at found
    split at found
    · contradiction
    · next asked =>
      rw [Option.some.injEq] at found
      simp only [Bool.or_eq_true, decide_eq_true_eq, not_or, Bool.not_eq_true] at asked
      cases mapped : (Settings.ofConfig config).importMapping.get?
          (String.ofList (Text.trim symbol.toList)) with
      | none =>
        rw [mapped, Option.getD_none] at found
        have same := header_injective found
        rw [same] at mapped asked
        have absent := Table.not_contains_iff.mpr (Table.get_eq_none.mp mapped)
        left
        simp [needsHeader, absent, asked]
      | some value =>
        rw [mapped, Option.getD_some] at found
        subst found
        have listed : header symbol ∈ (Settings.ofConfig config).importMapping.values :=
          List.mem_map_of_mem (Table.get_eq_some.mp mapped)
        rcases Table.value_given_or_there listed with given | builtIn
        · exact Or.inr given
        · have library := library_values _ builtIn
          rw [header_isLocal] at library
          contradiction

theorem token_alone (value : Option Literal) (given : GivenAlone config token) :
    symbols (.ofConfig config) (resolve (.ofConfig config) (.ref token value)) = [token] := by
  have known := given_type_known given.1
  have noPrimitive : (Settings.ofConfig config).isPrimitive token = false := by
    rw [← Bool.not_eq_true]
    exact fun primitive => given.2.1 (List.contains_iff_mem.mp primitive)
  simp [resolve, namedType_known known, symbols, noPrimitive]

/-- Of the known tokens of a node, just those that are given alone are taken for generated models: they get a
header of their own name, if they are plain, and they set the flag. -/
theorem tokens_given_alone_taken_for_models (config : Config) (node : Node) :
    (∀ token ∈ symbols (.ofConfig config) (resolve (.ofConfig config) node),
      (Settings.ofConfig config).isKnownToken token = true →
      (directiveFor (.ofConfig config) token = some (header token) →
        GivenAlone config token ∨ header token ∈ config.importMappings.values) ∧
      (GivenAlone config token → Plain token →
        directiveFor (.ofConfig config) token = some (header token))) ∧
    ((∀ token ∈ symbols (.ofConfig config) (resolve (.ofConfig config) node),
        (Settings.ofConfig config).isKnownToken token = true) →
      (needsModel (.ofConfig config) (symbols (.ofConfig config) (resolve (.ofConfig config) node)) = true ↔
        ∃ token ∈ symbols (.ofConfig config) (resolve (.ofConfig config) node), GivenAlone config token)) ∧
    ∀ token value, GivenAlone config token →
      symbols (.ofConfig config) (resolve (.ofConfig config) (.ref token value)) = [token] := by
  refine ⟨?_, ?_, fun token value given => token_alone value given⟩
  · intro token listed known
    constructor
    · intro found
      exact (own_header_found found).imp_left (known_needsHeader_iff known).mp
    · intro given plain
      rw [plain_directive plain, if_pos ((known_needsHeader_iff known).mpr given)]
  · intro known
    rw [needsModel, List.any_eq_true]
    constructor
    · rintro ⟨token, listed, needed⟩
      exact ⟨token, listed, (known_needsHeader_iff (known token listed)).mp needed⟩
    · rintro ⟨token, listed, given⟩
      exact ⟨token, listed, (known_needsHeader_iff (known token listed)).mpr given⟩

/-- A time type of the options, with or without the directive that declares it. -/
def timed (directives : Table String) : Config where
  typeMappings := ⟨[("DateTime", "std::chrono::system_clock::time_point")], by decide⟩
  importMappings := directives

theorem declared_time_is_no_model :
    let config := timed ⟨[("std::chrono::system_clock::time_point", "#include <chrono>")], by decide⟩
    let listed := symbols (.ofConfig config) (resolve (.ofConfig config) (.leaf .dateTime none))
    listed = ["std::chrono::system_clock::time_point"] ∧
      (∀ token ∈ listed, directiveFor (.ofConfig config) token ≠ some (header token)) ∧
      needsModel (.ofConfig config) listed = false := by
  intro config listed
  have single : listed = ["std::chrono::system_clock::time_point"] := by decide
  have known : ∀ token ∈ listed, (Settings.ofConfig config).isKnownToken token = true := by decide
  have notAlone : ∀ token ∈ listed, ¬ GivenAlone config token := by decide
  have notGiven : ∀ token ∈ listed, header token ∉ config.importMappings.values := by decide
  obtain ⟨directives, flag, -⟩ := tokens_given_alone_taken_for_models config (.leaf .dateTime none)
  refine ⟨single, ?_, ?_⟩
  · intro token member found
    rcases (directives token member (known token member)).1 found with alone | given
    · exact notAlone token member alone
    · exact notGiven token member given
  · rw [← Bool.not_eq_true, flag known]
    rintro ⟨token, member, alone⟩
    exact notAlone token member alone

theorem undeclared_time_is_model :
    let settings := Settings.ofConfig (timed ∅)
    let listed := symbols settings (resolve settings (.leaf .dateTime none))
    (∀ token ∈ listed, settings.isKnownToken token = true) ∧
      directives settings listed = [header "std::chrono::system_clock::time_point"] ∧
      listed = ["std::chrono::system_clock::time_point"] ∧ needsModel settings listed = true := by
  decide

end Given

section BuiltIn

variable {config : Config}

theorem builtIn_of_empty (types : config.typeMappings = ∅) (directives : config.importMappings = ∅) :
    BuiltIn (.ofConfig config) := by
  refine ⟨?_, ?_, rfl, rfl⟩
  · rw [Settings.ofConfig, types]
    rfl
  · rw [Settings.ofConfig, directives]
    rfl

theorem node_symbol_plain (builtIn : BuiltIn (.ofConfig config))
    (spelled : ∀ c ∈ config.modelNamePrefix.toList, isNamePart c = true) (node : Node) :
    ∀ symbol ∈ symbols (.ofConfig config) (resolve (.ofConfig config) node), Plain symbol := by
  intro symbol member
  rcases node_symbols member with known | ⟨name, -, rfl⟩
  · exact tokens_plain symbol ((known_iff_target builtIn).mp known)
  · exact className_plain builtIn spelled name

theorem needsModel_iff_local {settings : Settings} (builtIn : BuiltIn settings) {listed : List String}
    (plain : ∀ symbol ∈ listed, Plain symbol) :
    needsModel settings listed = true ↔
      ∃ directive ∈ directives settings listed, isLocal directive = true := by
  rw [needsModel, List.any_eq_true]
  constructor
  · rintro ⟨symbol, member, needed⟩
    obtain ⟨directive, found, here⟩ := (local_iff_needsHeader builtIn (plain symbol member)).mpr needed
    exact ⟨directive, mem_directives.mpr ⟨symbol, member, found⟩, here⟩
  · rintro ⟨directive, member, here⟩
    obtain ⟨symbol, listed, found⟩ := mem_directives.mp member
    exact ⟨symbol, listed, (local_iff_needsHeader builtIn (plain symbol listed)).mp ⟨directive, found, here⟩⟩

end BuiltIn

end Cpp

namespace Context

open Cpp (BuiltIn Config Plain directives isLocal needsModel)
open Text (isNamePart)

variable {config : Config}

theorem operation_symbol_plain (builtIn : BuiltIn (.ofConfig config))
    (spelled : ∀ c ∈ config.modelNamePrefix.toList, isNamePart c = true)
    (operation : Interface.Operation) :
    ∀ symbol ∈ operationSymbols (.ofConfig config) operation, Plain symbol := by
  intro symbol member
  simp only [operationSymbols, List.mem_eraseDups, List.mem_append, List.mem_map,
    List.mem_flatMap] at member
  rcases member with (⟨name, -, rfl⟩ | ⟨parameter, -, ofNode⟩) | ⟨node, -, ofNode⟩
  · exact Cpp.className_plain builtIn spelled name
  · exact Cpp.node_symbol_plain builtIn spelled _ symbol ofNode
  · exact Cpp.node_symbol_plain builtIn spelled node symbol ofNode

/-- The flag of an operation is set just if one of its directives is for a generated header, and so is that of
its class, if the options leave the tables as they are and the prefix of models is a word. -/
theorem model_flags_agree_with_imports (types : config.typeMappings = ∅)
    (directives : config.importMappings = ∅)
    (word : ∀ c ∈ config.modelNamePrefix.toList, c.isAlphanum = true ∨ c = '_') :
    (∀ operation : Interface.Operation,
      (Operation.of (.ofConfig config) operation).requiresModelImport = true ↔
        ∃ directive ∈ (Operation.of (.ofConfig config) operation).imports, isLocal directive = true) ∧
    ∀ (operations : List Interface.Operation) (group : Interface.Group),
      (Api.of (.ofConfig config) operations group).hasModelImport = true ↔
        ∃ operation ∈ (Api.of (.ofConfig config) operations group).operations,
          ∃ directive ∈ operation.imports, isLocal directive = true := by
  have builtIn := Cpp.builtIn_of_empty types directives
  have spelled : ∀ c ∈ config.modelNamePrefix.toList, isNamePart c = true :=
    fun c member => Text.word_isNamePart (word c member)
  have each (operation : Interface.Operation) :
      (Operation.of (.ofConfig config) operation).requiresModelImport = true ↔
        ∃ directive ∈ (Operation.of (.ofConfig config) operation).imports, isLocal directive = true :=
    Cpp.needsModel_iff_local builtIn (operation_symbol_plain builtIn spelled operation)
  refine ⟨each, ?_⟩
  intro operations group
  have flag : (Api.of (.ofConfig config) operations group).hasModelImport =
      (Api.of (.ofConfig config) operations group).operations.any (·.requiresModelImport) := rfl
  have context : ∀ operation ∈ (Api.of (.ofConfig config) operations group).operations,
      ∃ given, Operation.of (.ofConfig config) given = operation := by
    intro operation member
    obtain ⟨given, -, same⟩ := List.mem_map.mp member
    exact ⟨given, same⟩
  rw [flag, List.any_eq_true]
  constructor
  · rintro ⟨operation, member, set⟩
    obtain ⟨given, rfl⟩ := context operation member
    exact ⟨_, member, (each given).mp set⟩
  · rintro ⟨operation, member, found⟩
    obtain ⟨given, rfl⟩ := context operation member
    exact ⟨_, member, (each given).mpr found⟩

/-- An operation that answers with some pets, and asks how many of them. -/
def listing : Interface.Operation where
  name := "listPets"
  method := .get
  path := "/pets"
  parameters := [{ name := "limit", location := .query, node := .leaf .integer none, required := false }]
  response := some (.holder .array (.ref "Pet" none) none)
  imports := ["Pet"]

theorem listing_flags_agree :
    let settings := Cpp.Settings.ofConfig { modelNamePrefix := "Shop_" }
    let api := Api.of settings [listing] ⟨"pets", [0]⟩
    (Operation.of settings listing).imports = ["#include \"Shop_Pet.h\"", "#include <vector>"] ∧
      (Operation.of settings listing).requiresModelImport = true ∧ api.hasModelImport = true := by
  intro settings api
  have types : ({ modelNamePrefix := "Shop_" } : Config).typeMappings = ∅ := rfl
  have directives : ({ modelNamePrefix := "Shop_" } : Config).importMappings = ∅ := rfl
  have word : ∀ c ∈ "Shop_".toList, c.isAlphanum = true ∨ c = '_' := by
    have letters : "Shop_".toList.all (fun c => c.isAlphanum || c == '_') = true := by decide
    intro c member
    simpa using List.all_eq_true.mp letters c member
  obtain ⟨ofOperation, ofApi⟩ := model_flags_agree_with_imports types directives word
  refine ⟨by decide, (ofOperation listing).mpr ?_, (ofApi [listing] ⟨"pets", [0]⟩).mpr ?_⟩
  · decide
  · decide

end Context

end ServerScaffold
