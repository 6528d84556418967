import ServerScaffold.Proofs.ClassNames
import ServerScaffold.Proofs.ModelImports
import ServerScaffold.Proofs.ResolvedTypes

/-!
Which operations answer with raw content. The type of a node is a class just if the node refers to a name that is no
token, and classes are told from each other by the pascal cases of their names. So neither the prefix of the models nor
their package has a part in it: an answer is raw content just if it refers to a schema that is spelled like it.
-/
namespace ServerScaffold

namespace Cpp

open Interface (Node)

variable {config : Config} {node : Node}

/-- With the built-in tables the type of a node is a class just if the node refers to a name that is no token. -/
theorem resolve_model_iff (builtIn : BuiltIn (.ofConfig config)) {scope : Option String} {class_ : String} :
    resolve (.ofConfig config) node = .model scope class_ ↔
      ∃ name value, node = .ref name value ∧ (Settings.ofConfig config).isKnownToken name = false ∧
        scope = (Settings.ofConfig config).modelScope? ∧ className (.ofConfig config) name = class_ := by
  constructor
  · intro same
    cases node with
    | leaf kind value =>
      have token : resolve (.ofConfig config) (.leaf kind value) = .scalar _ :=
        namedType_known (type_name_known config (leaf_name_listed kind))
      rw [token] at same
      contradiction
    | union branches value =>
      have token : resolve (.ofConfig config) (.union branches value) = .scalar _ :=
        namedType_known (type_name_known config (by simp [typeNames]))
      rw [token] at same
      contradiction
    | holder container element value => cases container <;> contradiction
    | ref name value =>
      cases known : (Settings.ofConfig config).isKnownToken name with
      | true =>
        have token : resolve (.ofConfig config) (.ref name value) = .scalar name := namedType_known known
        rw [token] at same
        contradiction
      | false =>
        have class_ : resolve (.ofConfig config) (.ref name value) = .model _ _ := namedType_unknown builtIn known
        rw [class_, TypeExpr.model.injEq] at same
        exact ⟨name, value, rfl, known, same.1.symm, same.2⟩
  · rintro ⟨name, value, rfl, unknown, rfl, rfl⟩
    exact namedType_unknown builtIn unknown

end Cpp

namespace Context

open Cpp (BuiltIn Config Settings className)
open Interface (Node pascalName)

variable {config : Config}

theorem isRawContent_iff_model {settings : Settings} {response : Option Node} :
    isRawContent settings response = true ↔ ∃ node ∈ response, ∃ scope,
      Cpp.resolve settings node = .model scope (className settings rawContentName) := by
  cases response with
  | none => simp [isRawContent]
  | some node => cases type : Cpp.resolve settings node <;> simp [isRawContent, type]

theorem isRawContent_iff (builtIn : BuiltIn (.ofConfig config)) {response : Option Node} :
    isRawContent (.ofConfig config) response = true ↔ ∃ name value, response = some (.ref name value) ∧
      (Settings.ofConfig config).isKnownToken name = false ∧ pascalName name = rawContentName := by
  have rawUnknown : (Settings.ofConfig config).isKnownToken rawContentName = false := by
    have free : rawContentName ∉ Cpp.targetTokens := by decide
    exact Bool.eq_false_iff.mpr fun known => free ((Cpp.known_iff_target builtIn).mp known)
  have raw : pascalName rawContentName = rawContentName := by decide
  rw [isRawContent_iff_model]
  constructor
  · rintro ⟨node, answered, scope, model⟩
    obtain ⟨name, value, rfl, unknown, -, same⟩ := (Cpp.resolve_model_iff builtIn).mp model
    exact ⟨name, value, answered, unknown, ((Cpp.className_eq_iff unknown rawUnknown).mp same).trans raw⟩
  · rintro ⟨name, value, answered, unknown, spelled⟩
    have same := (Cpp.className_eq_iff unknown rawUnknown).mpr (spelled.trans raw.symm)
    exact ⟨_, answered, _, (Cpp.resolve_model_iff builtIn).mpr ⟨name, value, rfl, unknown, rfl, same⟩⟩

/-- If the options leave the tables as they are, an operation answers with raw content just if its answer refers to a
name that is no token and has the pascal case `HttpContent`; so the other options make no difference to that. -/
theorem raw_content_iff_spelled (types : config.typeMappings = ∅) (directives : config.importMappings = ∅)
    (operation : Interface.Operation) :
    ((Operation.of (.ofConfig config) operation).responseIsHttpContent = true ↔
      ∃ name value, operation.response = some (.ref name value) ∧
        (Settings.ofConfig config).isKnownToken name = false ∧ pascalName name = "HttpContent") ∧
    ∀ other : Config, other.typeMappings = ∅ → other.importMappings = ∅ →
      (Operation.of (.ofConfig other) operation).responseIsHttpContent =
        (Operation.of (.ofConfig config) operation).responseIsHttpContent := by
  have builtIn := Cpp.builtIn_of_empty types directives
  refine ⟨isRawContent_iff builtIn, fun other types directives => ?_⟩
  have builtInToo := Cpp.builtIn_of_empty types directives
  have known (name : String) :
      (Settings.ofConfig other).isKnownToken name = (Settings.ofConfig config).isKnownToken name :=
    Bool.eq_iff_iff.mpr ((Cpp.known_iff_target builtInToo).trans (Cpp.known_iff_target builtIn).symm)
  refine Bool.eq_iff_iff.mpr ((isRawContent_iff builtInToo).trans ?_)
  simp only [known]
  exact (isRawContent_iff builtIn).symm

/-- An operation that answers with what a schema of some name is. -/
def answering (name : String) : Interface.Operation where
  name := "download"
  method := .get
  path := "/file"
  response := some (.ref name none)

/-- A prefix that is a numeral, and no package: both classes are set apart, and still they are told apart. -/
theorem numbered_raw_content :
    let config : Config := { modelNamePrefix := "2", modelPackage := "" }
    (config.typeMappings = ∅ ∧ config.importMappings = ∅) ∧
    (Operation.of (.ofConfig config) (answering "http_content")).responseIsHttpContent = true ∧
      (Operation.of (.ofConfig config) (answering "http_content")).response = some "_2HttpContent" ∧
      (Operation.of (.ofConfig config) (answering "2HttpContent")).responseIsHttpContent = false := by
  intro config
  have types : config.typeMappings = ∅ := rfl
  have directives : config.importMappings = ∅ := rfl
  have unknown : (Settings.ofConfig config).isKnownToken "http_content" = false := by decide
  have spelled : pascalName "http_content" = "HttpContent" := by decide
  have otherwise : pascalName "2HttpContent" ≠ "HttpContent" := by decide
  refine ⟨⟨types, directives⟩, ?_, by decide, ?_⟩
  · exact (raw_content_iff_spelled types directives _).1.mpr ⟨"http_content", none, rfl, unknown, spelled⟩
  · refine Bool.eq_false_iff.mpr fun raw => ?_
    obtain ⟨name, value, answered, -, same⟩ := (raw_content_iff_spelled types directives _).1.mp raw
    obtain ⟨rfl, -⟩ := Node.ref.inj (Option.some.inj answered)
    exact otherwise same

end Context

end ServerScaffold
