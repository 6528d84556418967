import Mathlib.Data.List.Forall2
import Mathlib.Data.List.Nodup
import Mathlib.Data.String.Basic
import ServerScaffold.Context.Server
import ServerScaffold.Proofs.Assembly
import ServerScaffold.Proofs.Tables

/-!
Nothing is lost on the way from a description to its contexts and nothing comes twice. Models follow the
named schemas, operations the paths and methods, and the groups share out the operations by first tag.
-/
namespace ServerScaffold

namespace Interface

open Api (Document)

section

variable {names : List String} {name other : String}

theorem mem_insertName : other ∈ insertName name names ↔ other = name ∨ other ∈ names := by
  induction names with
  | nil => simp [insertName]
  | cons first rest ih =>
    unfold insertName
    split
    · simp
    · split
      · next same =>
        subst same
        simp
      · simp [ih, or_left_comm]

theorem insertName_sorted (sorted : names.Pairwise (· < ·)) :
    (insertName name names).Pairwise (· < ·) := by
  induction names with
  | nil => simp [insertName]
  | cons first rest ih =>
    obtain ⟨least, tail⟩ := List.pairwise_cons.mp sorted
    unfold insertName
    split
    · next before =>
      refine List.pairwise_cons.mpr ⟨?_, sorted⟩
      intro other member
      rcases List.mem_cons.mp member with rfl | later
      · exact before
      · exact lt_trans before (least other later)
    · next notBefore =>
      split
      · exact sorted
      · next different =>
        have after : first < name := lt_of_le_of_ne (not_lt.mp notBefore) (Ne.symm different)
        refine List.pairwise_cons.mpr ⟨?_, ih tail⟩
        intro other member
        rcases mem_insertName.mp member with rfl | later
        · exact after
        · exact least other later

/-- What holds of the names inserted so far holds of all of them in the end. -/
theorem sorted_names_from (names start : List String) (sorted : start.Pairwise (· < ·)) :
    (names.foldl (fun kept n => insertName n kept) start).Pairwise (· < ·) ∧
      ∀ other, other ∈ names.foldl (fun kept n => insertName n kept) start ↔
        other ∈ start ∨ other ∈ names := by
  induction names generalizing start with
  | nil => simpa using sorted
  | cons first rest ih =>
    obtain ⟨ordered, members⟩ := ih (insertName first start) (insertName_sorted sorted)
    refine ⟨ordered, fun other => ?_⟩
    rw [List.foldl_cons, members other, mem_insertName, List.mem_cons]
    tauto

theorem sortedNames_sorted (names : List String) : (sortedNames names).Pairwise (· < ·) :=
  (sorted_names_from names [] List.Pairwise.nil).1

theorem mem_sortedNames : other ∈ sortedNames names ↔ other ∈ names := by
  have members := (sorted_names_from names [] List.Pairwise.nil).2 other
  simpa [sortedNames] using members

end

/-- Groups that share out some operations: each is in one group only, which its first tag names. -/
structure Partition (operations : List Operation) (groups : List Group) : Prop where
  covered : ∀ i, i < operations.length → ∃! group, group ∈ groups ∧ i ∈ group.members
  named : ∀ group ∈ groups, ∀ i ∈ group.members,
    ∃ operation, operations[i]? = some operation ∧ operation.tags.headD "default" = group.name
  inhabited : ∀ group ∈ groups, group.members ≠ []
  increasing : ∀ group ∈ groups, group.members.Pairwise (· < ·)
  sorted : (groups.map (·.name)).Pairwise (· < ·)

section

variable {operations : List Operation} {group : Group} {i : Nat}

def groupNamed (operations : List Operation) (name : String) : Group :=
  ⟨name, (List.range operations.length).filter fun i =>
    (operations.map groupName)[i]? == some name⟩

theorem groups_named (operations : List Operation) :
    groupsOf operations = (sortedNames (operations.map groupName)).map (groupNamed operations) := by
  simp [groupsOf, groupNamed]

theorem mem_groups : group ∈ groupsOf operations ↔
    ∃ operation ∈ operations, group = groupNamed operations (groupName operation) := by
  simp only [groups_named, List.mem_map, mem_sortedNames]
  constructor
  · rintro ⟨_, ⟨operation, member, rfl⟩, rfl⟩
    exact ⟨operation, member, rfl⟩
  · rintro ⟨operation, member, rfl⟩
    exact ⟨_, ⟨operation, member, rfl⟩, rfl⟩

theorem mem_members {name : String} : i ∈ (groupNamed operations name).members ↔
    ∃ operation, operations[i]? = some operation ∧ groupName operation = name := by
  simp only [groupNamed, List.mem_filter, List.mem_range, List.getElem?_map, beq_iff_eq,
    Option.map_eq_some_iff]
  constructor
  · exact fun member => member.2
  · rintro ⟨operation, found, named⟩
    exact ⟨(List.getElem?_eq_some_iff.mp found).1, operation, found, named⟩

theorem groups_partition (operations : List Operation) :
    Partition operations (groupsOf operations) where
  covered := by
    intro i bound
    have found : operations[i]? = some operations[i] := List.getElem?_eq_getElem bound
    refine ⟨groupNamed operations (groupName operations[i]), ⟨?_, ?_⟩, ?_⟩
    · exact mem_groups.mpr ⟨operations[i], List.getElem_mem bound, rfl⟩
    · exact mem_members.mpr ⟨operations[i], found, rfl⟩
    · rintro group ⟨listed, member⟩
      obtain ⟨_, _, rfl⟩ := mem_groups.mp listed
      obtain ⟨operation, found', named⟩ := mem_members.mp member
      obtain rfl := Option.some.inj (found.symm.trans found')
      rw [named]
  named := by
    intro group listed i member
    obtain ⟨_, _, rfl⟩ := mem_groups.mp listed
    exact mem_members.mp member
  inhabited := by
    intro group listed
    obtain ⟨operation, member, rfl⟩ := mem_groups.mp listed
    obtain ⟨i, found⟩ := List.mem_iff_getElem?.mp member
    exact List.ne_nil_of_mem (mem_members.mpr ⟨operation, found, rfl⟩)
  increasing := by
    intro group listed
    obtain ⟨_, _, rfl⟩ := mem_groups.mp listed
    exact List.pairwise_lt_range.filter _
  sorted := by
    have names : (groupsOf operations).map (·.name) = sortedNames (operations.map groupName) := by
      simp [groups_named, Function.comp_def, groupNamed]
    rw [names]
    exact sortedNames_sorted _

end

theorem model_name (aliases : Table Node) (name : String) (schema : Api.Schema) :
    (model aliases name schema).name = name := by
  cases schema <;> rfl

theorem models_names (components : Api.Components) (aliases : Table Node) :
    (modelsOf components aliases).map (·.name) =
      components.schemas.keys.filter fun name => !aliases.contains name := by
  unfold modelsOf Table.keys
  induction components.schemas.entries with
  | nil => rfl
  | cons entry rest ih =>
    cases known : aliases.contains entry.1 with
    | true => simp [known, ih]
    | false => simp [known, ih, model_name]

theorem methods_listed (item : Api.PathItem) :
    item.operations.map Prod.fst =
      Api.Method.all.filter fun method => (item.operation? method).isSome := by
  unfold Api.PathItem.operations
  -- Nothing here depends on which methods there are, only on the list being passed in order.
  induction Api.Method.all with
  | nil => rfl
  | cons method rest ih => cases found : item.operation? method <;> simp [found, ih]

theorem routes_distinct (paths : Table Api.PathItem) :
    ((routes paths).map fun route => (route.1, route.2.2.1)).Nodup := by
  have listed : ((routes paths).map fun route => (route.1, route.2.2.1)) =
      paths.entries.flatMap fun entry =>
        (entry.2.operations.map Prod.fst).map fun method => (entry.1, method) := by
    simp [routes, List.map_flatMap, Function.comp_def]
  rw [listed, List.nodup_flatMap]
  constructor
  · intro entry _
    have once : (entry.2.operations.map Prod.fst).Nodup := by
      rw [methods_listed]
      exact List.Nodup.filter _ (by decide)
    exact once.map fun _ _ same => (Prod.ext_iff.mp same).2
  · have keys := List.pairwise_map.mp paths.distinct
    refine keys.imp ?_
    intro first second different pair inFirst inSecond
    obtain ⟨_, _, rfl⟩ := List.mem_map.mp inFirst
    obtain ⟨_, _, same⟩ := List.mem_map.mp inSecond
    exact different (Prod.ext_iff.mp same).1.symm

/-- Every part of a description is in its interface, once and in order. -/
structure Keeps (document : Document) (source : Interface) : Prop where
  models : source.models.map (·.name) =
    (namedParts document).schemas.keys.filter fun name => !(aliasesOf document).contains name
  models_once : (source.models.map (·.name)).Nodup
  operations : source.operations.map (fun operation =>
      (operation.path, operation.method, operation.tags)) =
    document.paths.entries.flatMap fun (path, item) =>
      [.get, .put, .post, .delete, .options, .head, .patch, .trace].filterMap fun method =>
        (item.operation? method).map fun found => (path, method, found.tags)
  operations_once : (source.operations.map fun operation =>
    (operation.path, operation.method)).Nodup
  groups : Partition source.operations source.groups

theorem routes_kept {naming : Naming} {document : Document} {source : Interface}
    (assembled : Assembled naming document source) :
    (routes document.paths).map (fun route => (route.1, route.2.2.1, route.2.2.2.tags)) =
      source.operations.map fun operation =>
        (operation.path, operation.method, operation.tags) := by
  rw [← List.forall₂_eq_eq_eq, List.forall₂_map_left_iff, List.forall₂_map_right_iff]
  refine assembled.operations.imp fun route result built => ?_
  obtain ⟨path, method, tags⟩ := operation_route built
  rw [path, method, tags]

theorem interface_keeps {naming : Naming} {document : Document} {source : Interface}
    (assembled : Assembled naming document source) : Keeps document source where
  models := by rw [assembled.models, models_names]
  models_once := by
    rw [assembled.models, models_names]
    exact (namedParts document).schemas.distinct.filter _
  operations := by
    rw [← routes_kept assembled]
    simp only [routes, Api.PathItem.operations, List.map_flatMap, List.map_filterMap]
    refine List.flatMap_congr fun entry _ => List.filterMap_congr fun method _ => ?_
    cases entry.2.operation? method <;> rfl
  operations_once := by
    have distinct := routes_distinct document.paths
    have same := congrArg (List.map fun part : String × Api.Method × List String =>
      (part.1, part.2.1)) (routes_kept assembled)
    rw [List.map_map, List.map_map] at same
    exact same ▸ distinct
  groups := assembled.groups ▸ groups_partition source.operations

end Interface

namespace Context

/-- The contexts of an interface: one for each model, and one for each group with the operations of the
group. -/
structure Carries (settings : Cpp.Settings) (source : Interface) (server : Server) : Prop where
  models : List.Forall₂ (fun model context => context = Model.of settings model)
    source.models server.models
  apis : List.Forall₂ (fun (group : Interface.Group) api =>
      api.classname = Cpp.apiName group.name ∧
      List.Forall₂ (fun i context => ∃ operation, source.operations[i]? = some operation ∧
        context = Operation.of settings operation) group.members api.operations)
    source.groups server.apis

theorem filterMap_pairs {α β : Type} {find : α → Option β} {inputs : List α}
    (found : ∀ a ∈ inputs, ∃ b, find a = some b) :
    List.Forall₂ (fun a b => find a = some b) inputs (inputs.filterMap find) := by
  induction inputs with
  | nil => exact .nil
  | cons input rest ih =>
    obtain ⟨here, later⟩ := List.forall_mem_cons.mp found
    obtain ⟨value, same⟩ := here
    rw [List.filterMap_cons_some same]
    exact .cons same (ih later)

theorem server_carries (config : Cpp.Config) {source : Interface}
    (partition : Interface.Partition source.operations source.groups) :
    Carries (.ofConfig config) source (Server.of config source) where
  models := by
    rw [Server.of, List.forall₂_map_right_iff, List.forall₂_same]
    exact fun _ _ => rfl
  apis := by
    rw [Server.of, List.forall₂_map_right_iff, List.forall₂_same]
    intro group listed
    refine ⟨rfl, ?_⟩
    have found : ∀ i ∈ group.members, ∃ operation, source.operations[i]? = some operation := by
      intro i member
      obtain ⟨operation, found, _⟩ := partition.named group listed i member
      exact ⟨operation, found⟩
    rw [Api.of, List.forall₂_map_right_iff]
    exact (filterMap_pairs found).imp fun _ operation here => ⟨operation, here, rfl⟩

/-- Nothing is lost and nothing comes twice, from the description to the contexts. -/
theorem document_is_kept {naming : Interface.Naming} {document : ServerScaffold.Api.Document}
    {source : Interface} (built : Interface.ofDocument naming document = .ok source) :
    Interface.Keeps document source ∧
      ∀ config, Carries (.ofConfig config) source (Server.of config source) := by
  obtain ⟨assembled, _⟩ := Interface.document_ok.mp built
  have kept := Interface.interface_keeps assembled
  exact ⟨kept, fun config => server_carries config kept.groups⟩

/-- Three paths, an operation without tags, one with two tags, and groups that cross the paths. -/
def catalogue : ServerScaffold.Api.Document where
  openapi := "3.0.3"
  info := { title := "Catalogue", version := "1" }
  paths := ⟨[
    ("/pets", { operation? := fun
      | .post => some { operationId := some "addPet", tags := ["pets", "admin"] }
      | .get => some { operationId := some "listPets", tags := ["pets"] }
      | _ => none }),
    ("/health", { operation? := fun
      | .get => some { operationId := some "health" }
      | _ => none }),
    ("/cats", { operation? := fun
      | .trace => some { operationId := some "traceCats", tags := ["cats"] }
      | .delete => some { operationId := some "dropCats", tags := ["pets"] }
      | _ => none })], by decide⟩
  components := some { schemas := ⟨[
    ("Pet", .inline { type := some (.single .object) }),
    ("Name", .inline { type := some (.single .string) }),
    ("Cat", .ref "#/components/schemas/Pet")], by decide⟩ }

theorem catalogue_is_kept : ∃ source, Interface.ofDocument {} catalogue = .ok source ∧
    source.models.map (·.name) = ["Pet", "Cat"] ∧
    source.groups = [⟨"cats", [4]⟩, ⟨"default", [2]⟩, ⟨"pets", [0, 1, 3]⟩] ∧
    Interface.Keeps catalogue source ∧
    ∀ config, Carries (.ofConfig config) source (Server.of config source) := by
  have built : ∃ source, Interface.ofDocument {} catalogue = .ok source := ⟨_, rfl⟩
  have listed : (Interface.ofDocument {} catalogue).toOption.map (fun source =>
      (source.models.map (·.name), source.groups)) =
      some (["Pet", "Cat"], [⟨"cats", [4]⟩, ⟨"default", [2]⟩, ⟨"pets", [0, 1, 3]⟩]) := by
    decide
  obtain ⟨source, built⟩ := built
  rw [built] at listed
  obtain ⟨models, groups⟩ := Prod.ext_iff.mp (Option.some.inj listed)
  exact ⟨source, built, models, groups, document_is_kept built⟩

end Context

end ServerScaffold
