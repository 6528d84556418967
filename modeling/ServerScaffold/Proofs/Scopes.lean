import Mathlib.Data.List.Induction
import ServerScaffold.Proofs.Completeness
import ServerScaffold.Proofs.Directives
import ServerScaffold.Proofs.Outlines

/-!
Names that meet in one scope: the members of a model, the parameters of an operation, the methods of an API
class. Nothing keeps them apart but their spelling, so they clash just if they are spelled alike, and ASCII
names are spelled alike just if they have one outline.
-/
namespace ServerScaffold

namespace Cpp

open Interface (camelName isAsciiName outline)

/-- How a variable is spelled before its first letter is raised: reserved words stay as they are. -/
def variableSpelling (name : String) : String := if isReserved name then name else camelName name

/-- Two names come to one variable: they are spelled alike, or but for the case of the first letter. -/
def SameVariable (first second : String) : Prop :=
  variableSpelling first = variableSpelling second ∨
    isReserved (variableSpelling first) = false ∧ isReserved (variableSpelling second) = false ∧
      upperFirst (variableSpelling first) = upperFirst (variableSpelling second)

instance (first second : String) : Decidable (SameVariable first second) :=
  inferInstanceAs (Decidable (_ ∨ _))

variable {name first second : String}

theorem variableName_eq (settings : Settings) (name : String) :
    variableName settings name =
      if isReserved (variableSpelling name) then settings.reservedWordPrefix ++ variableSpelling name
      else if settings.variableNameFirstCharacterUppercase then upperFirst (variableSpelling name)
      else variableSpelling name := by
  unfold variableName variableSpelling
  cases reserved : isReserved name with
  | true => simp [reserved]
  | false => simp

theorem variableName_standard (name : String) :
    variableName standard name =
      if isReserved (variableSpelling name) then "r_" ++ variableSpelling name
      else upperFirst (variableSpelling name) :=
  variableName_eq standard name

theorem spelling_unreserved (free : isReserved (variableSpelling name) = false) :
    variableSpelling name = camelName name := by
  unfold variableSpelling at free ⊢
  split
  · next reserved =>
    rw [if_pos reserved, reserved] at free
    contradiction
  · rfl

theorem camelName_isSpelled (name : String) : ∀ c ∈ (camelName name).toList, Text.isSpelled c = true := by
  unfold camelName
  rw [String.toList_ofList]
  exact Text.camelCase_isSpelled _

theorem upperFirst_isSpelled (spelled : ∀ c ∈ name.toList, Text.isSpelled c = true) :
    ∀ c ∈ (upperFirst name).toList, Text.isSpelled c = true := by
  unfold upperFirst
  split
  · simp
  · next first rest letters =>
    rw [letters] at spelled
    obtain ⟨here, later⟩ := List.forall_mem_cons.mp spelled
    rw [String.toList_ofList]
    exact List.forall_mem_append.mpr ⟨Text.upperCase_isSpelled here, later⟩

theorem upperFirst_not_prefixed (word : String) (free : isReserved (variableSpelling name) = false) :
    upperFirst (variableSpelling name) ≠ "r_" ++ word := by
  intro same
  rw [spelling_unreserved free] at same
  have mark : '_' ∈ (upperFirst (camelName name)).toList := by simp [same]
  have spelled := upperFirst_isSpelled (camelName_isSpelled name) '_' mark
  exact absurd spelled (by decide)

theorem variableName_eq_iff :
    variableName standard first = variableName standard second ↔ SameVariable first second := by
  have apart {word other : String} (reserved : isReserved word = true) (free : isReserved other = false) :
      word ≠ other := by
    rintro rfl
    rw [reserved] at free
    contradiction
  rw [variableName_standard, variableName_standard]
  unfold SameVariable
  cases ofFirst : isReserved (variableSpelling first) with
  | true =>
    cases ofSecond : isReserved (variableSpelling second) with
    | true => simp [String.append_right_inj]
    | false => simp [(upperFirst_not_prefixed _ ofSecond).symm, apart ofFirst ofSecond]
  | false =>
    cases ofSecond : isReserved (variableSpelling second) with
    | true => simp [upperFirst_not_prefixed _ ofFirst, (apart ofSecond ofFirst).symm]
    | false =>
      simp only [Bool.false_eq_true, ↓reduceIte, true_and]
      constructor
      · exact Or.inr
      · rintro (same | same)
        · rw [same]
        · exact same

/-- The reserved words that camel case would change. -/
def keptWords : List String := reservedWords.filter fun word => camelName word ≠ word

theorem kept_words_listed : keptWords =
    ["and_eq", "char16_t", "char32_t", "const_cast", "dynamic_cast", "not_eq", "NULL", "or_eq",
      "reinterpret_cast", "static_assert", "static_cast", "thread_local", "wchar_t", "xor_eq"] := by
  decide

/-- They hold an underscore or begin with a capital, which camel case never does. -/
theorem kept_marks : keptWords.all (fun word =>
    word.toList.contains '_' || word.toList.head?.any Char.isUpper) = true := by
  rw [kept_words_listed]
  decide

theorem spelling_kept (kept : name ∈ keptWords) : variableSpelling name = name := by
  have reserved : isReserved name = true := by
    simpa [isReserved] using (List.mem_filter.mp kept).1
  rw [variableSpelling, if_pos reserved]

theorem spelling_free (free : name ∉ keptWords) : variableSpelling name = camelName name := by
  unfold variableSpelling
  split
  · next reserved =>
    by_contra different
    have listed : name ∈ reservedWords := by simpa [isReserved] using reserved
    exact free (List.mem_filter.mpr ⟨listed, by simpa using Ne.symm different⟩)
  · rfl

theorem camelName_not_kept (ascii : isAsciiName name = true) : camelName name ∉ keptWords := by
  intro kept
  have marks := List.all_eq_true.mp kept_marks _ kept
  rcases Bool.or_eq_true_iff.mp marks with underscore | capital
  · have spelled := camelName_isSpelled name '_' (by simpa using underscore)
    exact absurd spelled (by decide)
  · obtain ⟨c, marked, letter, -, camel, -⟩ := Interface.camelName_ascii ascii
    rw [camel] at capital
    simp [(Text.letter_cases letter).2.1] at capital

/-- In ASCII the first letter of a camel case can be read off its capital. -/
theorem upperFirst_camelName_injective (ofFirst : isAsciiName first = true)
    (ofSecond : isAsciiName second = true)
    (same : upperFirst (camelName first) = upperFirst (camelName second)) :
    camelName first = camelName second := by
  have raised {name : String} (ascii : isAsciiName name = true) :
      ∃ c rest, (camelName name).toList = c :: rest ∧
        (upperFirst (camelName name)).toList = c.toUpper :: rest ∧ c.toUpper.toLower = c := by
    obtain ⟨c, marked, letter, -, camel, -⟩ := Interface.camelName_ascii ascii
    have turned := Text.letter_cases letter
    have inAscii : Text.isAscii c.toLower = true := turned.2.2.2
    refine ⟨_, _, camel, ?_, turned.2.2.1⟩
    simp [upperFirst, camel, Text.upperCase, inAscii]
  obtain ⟨c, rest, camel, upper, back⟩ := raised ofFirst
  obtain ⟨d, others, camel', upper', back'⟩ := raised ofSecond
  rw [← String.toList_inj, upper, upper', List.cons.injEq] at same
  rw [← String.toList_inj, camel, camel', ← back, ← back', same.1, same.2]

/-- Two ASCII names come to one variable just if they are one name, or if they have one outline and camel case
applies to both. -/
theorem sameVariable_ascii (ofFirst : isAsciiName first = true) (ofSecond : isAsciiName second = true) :
    SameVariable first second ↔
      first = second ∨ first ∉ keptWords ∧ second ∉ keptWords ∧ outline first = outline second := by
  have spelled : SameVariable first second ↔ variableSpelling first = variableSpelling second := by
    constructor
    · rintro (same | ⟨freeFirst, freeSecond, same⟩)
      · exact same
      · rw [spelling_unreserved freeFirst, spelling_unreserved freeSecond] at same ⊢
        exact upperFirst_camelName_injective ofFirst ofSecond same
    · exact Or.inl
  rw [spelled]
  by_cases keptFirst : first ∈ keptWords
  · rw [spelling_kept keptFirst]
    by_cases keptSecond : second ∈ keptWords
    · simp [spelling_kept keptSecond, keptFirst]
    · have notCamel : first ≠ camelName second := fun same =>
        camelName_not_kept ofSecond (same ▸ keptFirst)
      have different : first ≠ second := fun same => keptSecond (same ▸ keptFirst)
      simp [spelling_free keptSecond, notCamel, different, keptFirst]
  · rw [spelling_free keptFirst]
    by_cases keptSecond : second ∈ keptWords
    · have notCamel : camelName first ≠ second := fun same =>
        camelName_not_kept ofFirst (same ▸ keptSecond)
      have different : first ≠ second := fun same => keptFirst (same ▸ keptSecond)
      simp [spelling_kept keptSecond, notCamel, different, keptSecond]
    · rw [spelling_free keptSecond, Interface.camelName_eq_iff ofFirst ofSecond]
      constructor
      · exact fun same => Or.inr ⟨keptFirst, keptSecond, same⟩
      · rintro (rfl | ⟨-, -, same⟩)
        · rfl
        · exact same

end Cpp

namespace Interface

open Api (Document)

/-- What an operation goes by: its own name, or else one made of its route. -/
def calledName (route : String × Api.PathItem × Api.Method × Api.Operation) : String :=
  route.2.2.2.operationId.getD (routeName route.2.2.1.upperName route.1)

def firstTag (route : String × Api.PathItem × Api.Method × Api.Operation) : String :=
  route.2.2.2.tags.headD "default"

/-- The names of the operations of one tag, in the order of the description. -/
def namesUnder (document : Document) (tag : String) : List String :=
  ((routes document.paths).filter fun route => firstTag route == tag).map calledName

theorem operation_called {components : Api.Components} {aliases : Table Node} {path : String}
    {item : Api.PathItem} {method : Api.Method} {given : Api.Operation} {result : Operation}
    (built : operation components aliases {} path item method given = .ok result) :
    result.name = calledName (path, item, method, given) ∧
      groupName result = firstTag (path, item, method, given) := by
  obtain ⟨found, body, ofBody, -, rfl⟩ := operation_ok.mp built
  exact ⟨rfl, rfl⟩

theorem operations_called {document : Document} {source : Interface}
    (assembled : Assembled {} document source) (tag : String) :
    (source.operations.filter fun operation => groupName operation == tag).map (·.name) =
      namesUnder document tag := by
  unfold namesUnder
  have pairs := assembled.operations
  generalize routes document.paths = listed, source.operations = results at pairs ⊢
  induction pairs with
  | nil => rfl
  | cons built _ ih =>
    obtain ⟨name, group⟩ := operation_called built
    rw [List.filter_cons, List.filter_cons, group]
    split
    · rw [List.map_cons, List.map_cons, name, ih]
    · exact ih

theorem filterMap_positions {α : Type} (list : List α) :
    (List.range list.length).filterMap (fun i => list[i]?) = list := by
  induction list using List.reverseRecOn with
  | nil => rfl
  | append_singleton list last ih =>
    have before : ∀ i ∈ List.range list.length, (list ++ [last])[i]? = list[i]? := fun i member =>
      List.getElem?_append_left (List.mem_range.mp member)
    rw [List.length_append, List.length_singleton, List.range_succ, List.filterMap_append,
      List.filterMap_congr before, ih]
    simp

/-- The operations at the positions of a group are those of its name. -/
theorem group_operations (operations : List Operation) (name : String) :
    (groupNamed operations name).members.filterMap (fun i => operations[i]?) =
      operations.filter fun operation => groupName operation == name := by
  have each (i : Nat) : (if (operations.map groupName)[i]? == some name then operations[i]? else none) =
      (operations[i]?).filter fun operation => groupName operation == name := by
    cases found : operations[i]? <;> simp [found, Option.filter]
  calc (groupNamed operations name).members.filterMap (fun i => operations[i]?)
      = (List.range operations.length).filterMap fun i =>
          (operations[i]?).filter fun operation => groupName operation == name := by
        simp only [groupNamed, List.filterMap_filter, each]
    _ = ((List.range operations.length).filterMap fun i => operations[i]?).filter
          fun operation => groupName operation == name := by
        rw [List.filter_filterMap]
    _ = operations.filter fun operation => groupName operation == name := by
        rw [filterMap_positions]

end Interface

namespace Context

open Cpp (SameVariable keptWords standard variableName)
open Interface (camelName isAsciiName namesUnder outline)
open ServerScaffold.Api (Document)

theorem parameter_name (parameter : Interface.Parameter) :
    (Parameter.of standard parameter).paramName =
      variableName standard (Parameter.of standard parameter).baseName := by
  unfold Parameter.of Parameter.adapt
  split <;> rfl

/-- The names of variables are pairwise different just if no two of the names that they come from clash. -/
theorem variables_distinct_iff (names : List String) :
    (names.map (variableName standard)).Nodup ↔
      names.Pairwise fun first second => ¬ SameVariable first second := by
  rw [List.Nodup, List.pairwise_map]
  simp only [ne_eq, Cpp.variableName_eq_iff]

theorem parameter_names_distinct_iff (operation : Interface.Operation) :
    ((Operation.of standard operation).params.map (·.paramName)).Nodup ↔
      ((Operation.of standard operation).params.map (·.baseName)).Pairwise
        fun first second => ¬ SameVariable first second := by
  have names : (Operation.of standard operation).params.map (·.paramName) =
      ((Operation.of standard operation).params.map (·.baseName)).map (variableName standard) := by
    simp only [Operation.of, List.map_map, List.map_inj_left, Function.comp_apply]
    exact fun parameter _ => parameter_name parameter
  rw [names, variables_distinct_iff]

theorem api_nicknames {document : Document} {source : Interface}
    (assembled : Interface.Assembled {} document source) {group : Interface.Group}
    (settings : Cpp.Settings) (listed : group ∈ source.groups) :
    (Api.of settings source.operations group).operations.map (·.nickname) =
      (namesUnder document group.name).map camelName := by
  rw [assembled.groups] at listed
  obtain ⟨_, _, rfl⟩ := Interface.mem_groups.mp listed
  rw [← Interface.operations_called assembled, Api.of, Interface.group_operations]
  simp [Interface.groupNamed, Operation.of, Function.comp_def]

/-- In no scope of a server do names clash but those that are spelled alike: for members and parameters the
names of the description, for methods the names that their operations go by. Of ASCII names only the outline
is spelled, but for the reserved words that stay as they are. -/
theorem names_clash_iff_spelled_alike {document : Document} {server : Server}
    (generated : Server.ofDocument {} document = .ok server) :
    (∀ model ∈ server.models, ∀ first ∈ model.vars, ∀ second ∈ model.vars,
      (first.name = second.name ↔ SameVariable first.baseName second.baseName)) ∧
    (∀ api ∈ server.apis, ∀ operation ∈ api.operations,
      ((operation.params.map (·.paramName)).Nodup ↔
        (operation.params.map (·.baseName)).Pairwise fun first second =>
          ¬ SameVariable first second)) ∧
    (∀ api ∈ server.apis, ∃ tag, api.classname = Cpp.apiName tag ∧
      api.operations.map (·.nickname) = (namesUnder document tag).map camelName ∧
      ((api.operations.map (·.nickname)).Nodup ↔
        (namesUnder document tag).Pairwise fun first second => camelName first ≠ camelName second)) ∧
    ∀ first second, isAsciiName first = true → isAsciiName second = true →
      (SameVariable first second ↔
        first = second ∨ first ∉ keptWords ∧ second ∉ keptWords ∧ outline first = outline second) ∧
      (camelName first = camelName second ↔ outline first = outline second) := by
  obtain ⟨source, built, rfl⟩ := server_ofDocument.mp generated
  obtain ⟨assembled, -⟩ := Interface.document_ok.mp built
  refine ⟨?_, ?_, ?_, ?_⟩
  · intro model listed first ofFirst second ofSecond
    obtain ⟨_, -, rfl⟩ := List.mem_map.mp listed
    obtain ⟨one, -, rfl⟩ := List.mem_map.mp ofFirst
    obtain ⟨other, -, rfl⟩ := List.mem_map.mp ofSecond
    exact Cpp.variableName_eq_iff
  · intro api listed operation member
    obtain ⟨group, -, rfl⟩ := List.mem_map.mp listed
    obtain ⟨result, -, rfl⟩ := api_operation member
    exact parameter_names_distinct_iff result
  · intro api listed
    obtain ⟨group, inSource, rfl⟩ := List.mem_map.mp listed
    have nicknames := api_nicknames assembled (.ofConfig {}) inSource
    refine ⟨group.name, rfl, nicknames, ?_⟩
    rw [nicknames, List.Nodup, List.pairwise_map]
  · intro first second ofFirst ofSecond
    exact ⟨Cpp.sameVariable_ascii ofFirst ofSecond, Interface.camelName_eq_iff ofFirst ofSecond⟩

/-- Two properties, two parameters and some operations, with and without names of their own. -/
def household (properties : List (String × ServerScaffold.Api.Schema)) (query first second : String)
    (paths : String × String) (different : ["/pets/\x7bid\x7d", paths.1, paths.2].Nodup) : Document where
  openapi := "3.0.3"
  info := { title := "Household", version := "1" }
  paths := ⟨[
    ("/pets/\x7bid\x7d", { operation? := fun
      | .get => some {
          operationId := some first
          tags := ["named"]
          parameters := [.inline { name := "id", place := .path }, .inline { name := query, place := .query }] }
      | .delete => some { operationId := some second, tags := ["named"] }
      | _ => none }),
    (paths.1, { operation? := fun
      | .get => some {}
      | _ => none }),
    (paths.2, { operation? := fun
      | .get => some {}
      | _ => none })], different⟩
  components := some { schemas := ⟨[("Pet", .inline { properties })], by simp⟩ }

/-- Names that are all spelled differently. -/
def tidyHousehold : Document :=
  household [("name", .inline {}), ("tag_line", .inline {})] "limit" "showPet" "removePet"
    ("/dogs", "/cats/\x7bid\x7d") (by decide)

/-- In every scope two names that differ, but are spelled alike. -/
def crowdedHousehold : Document :=
  household [("pet_id", .inline {}), ("petId", .inline {})] "id" "get_pet" "getPet"
    ("/cats/\x7bid\x7d", "/cat/\x7bid\x7d") (by decide)

theorem tidy_household_names : ∃ server, Server.ofDocument {} tidyHousehold = .ok server ∧
    (∀ model ∈ server.models, ∀ first ∈ model.vars, ∀ second ∈ model.vars,
      first.name = second.name → first.baseName = second.baseName) ∧
    (∀ api ∈ server.apis, ∀ operation ∈ api.operations, (operation.params.map (·.paramName)).Nodup) ∧
    ∀ api ∈ server.apis, (api.operations.map (·.nickname)).Nodup := by
  have done : ∃ server, Server.ofDocument {} tidyHousehold = .ok server ∧
      (∀ model ∈ server.models, ∀ first ∈ model.vars, ∀ second ∈ model.vars,
        SameVariable first.baseName second.baseName → first.baseName = second.baseName) ∧
      ∀ api ∈ server.apis, ∀ operation ∈ api.operations,
        (operation.params.map (·.baseName)).Pairwise fun first second => ¬ SameVariable first second :=
    ⟨_, rfl, by decide, by decide⟩
  have called : ((Interface.routes tidyHousehold.paths).map Interface.calledName).Pairwise
      fun first second => camelName first ≠ camelName second := by decide
  obtain ⟨server, generated, members, parameters⟩ := done
  obtain ⟨ofModels, ofOperations, ofApis, -⟩ := names_clash_iff_spelled_alike generated
  refine ⟨server, generated, ?_, ?_, ?_⟩
  · intro model listed first ofFirst second ofSecond same
    exact members model listed first ofFirst second ofSecond
      ((ofModels model listed first ofFirst second ofSecond).mp same)
  · intro api listed operation member
    exact (ofOperations api listed operation member).mpr (parameters api listed operation member)
  · intro api listed
    obtain ⟨tag, -, -, distinct⟩ := ofApis api listed
    exact distinct.mpr (called.sublist (List.filter_sublist.map _))

theorem crowded_household_clashes :
    ((Interface.routes crowdedHousehold.paths).filterMap (·.2.2.2.operationId)).Nodup ∧
    ∃ server, Server.ofDocument {} crowdedHousehold = .ok server ∧
      (∃ model ∈ server.models,
        (model.vars.map (·.baseName)).Nodup ∧ ¬ (model.vars.map (·.name)).Nodup) ∧
      (∃ api ∈ server.apis, ∃ operation ∈ api.operations,
        ¬ (operation.params.map (·.paramName)).Nodup) ∧
      ∀ api ∈ server.apis, ¬ (api.operations.map (·.nickname)).Nodup :=
  ⟨by decide, _, rfl, by decide, by decide, by decide⟩

end Context

end ServerScaffold
