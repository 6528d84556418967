import Mathlib.Data.List.Nodup
import ServerScaffold.Context.Server
import ServerScaffold.Proofs.Searches

/-!
Where the generated files go. Most files come in pairs, a header and a source of one stem, and the folder
that a stem begins with keeps models, API classes and their implementations apart. So a path of an API class tells the
class and the kind of the file, and of all files two have one path just if two classes have one name, or if a model
takes the name of a file that is always there.
-/
namespace ServerScaffold

namespace Cpp

/-- The header and the source of a stem. -/
def filePair (stem : String) : List String := [stem ++ ".h", stem ++ ".cpp"]

def modelStem (class_ : String) : String := "model/" ++ class_

def apiStems (class_ : String) : List String := ["api/" ++ class_, "impl/" ++ class_ ++ "Impl"]

/-- The stems of all models, all API classes and the helpers. -/
def serverStems (models apis : List String) (start : String) : List String :=
  models.map modelStem ++ apis.flatMap apiStems ++ [modelStem (start ++ "Helpers")]

/-- The files that have no partner. -/
def singleFiles (start : String) : List String :=
  ["api/ApiBase" ++ ".h", start ++ "main-api-server" ++ ".cpp", "CMakeLists.txt", "README.md"]

section Folder

theorem within_injective (folder : String) : Function.Injective (within folder) := by
  intro path other same
  unfold within at same
  split at same
  · exact same
  · exact (String.append_right_inj _).mp same

theorem within_append (folder path rest : String) :
    within folder path ++ rest = within folder (path ++ rest) := by
  unfold within
  split
  · rfl
  · rw [String.append_assoc]

/-- The mark comes before the suffix, and of the folders that lead to the file only its own is replaced. -/
theorem implPath_within (folder class_ : String) {suffix : String} {rest : List Char}
    (dot : suffix.toList = '.' :: rest) (last : '.' ∉ rest) :
    implPath (within folder (apiFolder ++ "/" ++ class_ ++ suffix)) folder =
      within folder (implFolder ++ "/" ++ class_ ++ "Impl" ++ suffix) := by
  have inFolder (name tail : String) : within folder (name ++ tail) = within folder name ++ tail :=
    (within_append folder name tail).symm
  have cut : Text.cutAtLast? '.' (within folder (apiFolder ++ "/" ++ class_ ++ suffix)).toList =
      some ((within folder (apiFolder ++ "/" ++ class_)).toList, suffix.toList) := by
    rw [inFolder, String.toList_append, dot, Text.cutAtLast_append _ last]
  have marked : (within folder (apiFolder ++ "/" ++ class_)).toList ++ "Impl".toList ++ suffix.toList =
      (within folder apiFolder).toList ++ ("/" ++ class_ ++ "Impl" ++ suffix).toList := by
    rw [String.append_assoc, inFolder]
    simp only [String.toList_append, List.append_assoc]
  unfold implPath
  rw [cut]
  simp only
  rw [marked, Text.replaceFirst_start, ← String.toList_append, String.ofList_toList, within_append]
  simp only [String.append_assoc]

end Folder

section Clashes

variable {stem other class_ name start : String} {models apis : List String}

theorem ne_of_toList (different : stem.toList ≠ other.toList) : stem ≠ other :=
  fun same => different (same ▸ rfl)

theorem ne_of_reverse (different : stem.toList.reverse ≠ other.toList.reverse) : stem ≠ other :=
  fun same => different (same ▸ rfl)

theorem nodup_pairs {first second : String → String} (one : first.Injective) (two : second.Injective)
    (apart : ∀ x y, first x ≠ second y) {entries : List String} :
    (entries.flatMap fun x => [first x, second x]).Nodup ↔ entries.Nodup := by
  have disjoint (x y : String) : List.Disjoint [first x, second x] [first y, second y] ↔ x ≠ y := by
    constructor
    · rintro none rfl
      exact none List.mem_cons_self List.mem_cons_self
    · intro different path ofX ofY
      simp only [List.mem_cons, List.not_mem_nil, or_false] at ofX ofY
      rcases ofX with rfl | rfl
      · rcases ofY with same | same
        · exact different (one same)
        · exact apart x y same
      · rcases ofY with same | same
        · exact apart y x same.symm
        · exact different (two same)
  rw [List.nodup_flatMap]
  constructor
  · rintro ⟨-, distinct⟩
    exact distinct.imp fun apart => (disjoint _ _).mp apart
  · intro distinct
    refine ⟨fun x _ => ?_, distinct.imp fun different => (disjoint _ _).mpr different⟩
    simp [apart]

theorem header_ne_source (stem other : String) : stem ++ ".h" ≠ other ++ ".cpp" :=
  ne_of_reverse (by simp)

theorem filePairs_nodup {stems : List String} : (stems.flatMap filePair).Nodup ↔ stems.Nodup :=
  nodup_pairs (fun x y same => by simpa using same) (fun x y same => by simpa using same) header_ne_source

theorem apiStems_nodup : (apis.flatMap apiStems).Nodup ↔ apis.Nodup :=
  nodup_pairs (fun x y same => by simpa using same) (fun x y same => by simpa using same)
    fun x y => ne_of_toList (by simp)

theorem modelStem_not_api (class_ other : String) : modelStem class_ ∉ apiStems other := by
  have notApi : "model/" ++ class_ ≠ "api/" ++ other := ne_of_toList (by simp)
  have notImpl : "model/" ++ class_ ≠ "impl/" ++ other ++ "Impl" := ne_of_toList (by simp)
  simp [modelStem, apiStems, notApi, notImpl]

theorem modelStem_injective : Function.Injective modelStem := by
  intro class_ other same
  exact (String.append_right_inj _).mp same

theorem stems_nodup :
    (serverStems models apis start).Nodup ↔
      models.Nodup ∧ apis.Nodup ∧ start ++ "Helpers" ∉ models := by
  have models_apis : ∀ stem ∈ models.map modelStem, ∀ other ∈ apis.flatMap apiStems, stem ≠ other := by
    rintro stem ofModel other ofApi rfl
    obtain ⟨class_, -, rfl⟩ := List.mem_map.mp ofModel
    obtain ⟨api, -, inside⟩ := List.mem_flatMap.mp ofApi
    exact modelStem_not_api class_ api inside
  have apis_helpers : modelStem (start ++ "Helpers") ∉ apis.flatMap apiStems := by
    intro listed
    obtain ⟨api, -, inside⟩ := List.mem_flatMap.mp listed
    exact modelStem_not_api _ api inside
  have models_helpers : modelStem (start ++ "Helpers") ∈ models.map modelStem ↔
      start ++ "Helpers" ∈ models := List.mem_map_of_injective modelStem_injective
  rw [serverStems, ← List.concat_eq_append, List.nodup_concat, List.mem_append, models_helpers, List.nodup_append,
    List.nodup_map_iff modelStem_injective, apiStems_nodup]
  constructor
  · rintro ⟨free, ofModels, ofApis, -⟩
    exact ⟨ofModels, ofApis, fun listed => free (Or.inl listed)⟩
  · rintro ⟨ofModels, ofApis, free⟩
    exact ⟨fun listed => listed.elim free apis_helpers, ofModels, ofApis, models_apis⟩

theorem singleFiles_nodup (start : String) : (singleFiles start).Nodup := by
  have base : "api/ApiBase.h" ≠ start ++ "main-api-server" ++ ".cpp" := ne_of_reverse (by simp)
  have cmake : start ++ "main-api-server" ++ ".cpp" ≠ "CMakeLists.txt" := ne_of_reverse (by simp)
  have readme : start ++ "main-api-server" ++ ".cpp" ≠ "README.md" := ne_of_reverse (by simp)
  simp [singleFiles, base, cmake, readme]

theorem filePair_singles :
    (∀ path ∈ filePair stem, path ∉ singleFiles start) ↔
      stem ≠ "api/ApiBase" ∧ stem ≠ start ++ "main-api-server" := by
  have header : stem ++ ".h" ∉ singleFiles start ↔ stem ≠ "api/ApiBase" := by
    have cmake : stem ++ ".h" ≠ "CMakeLists.txt" := ne_of_reverse (by simp)
    have readme : stem ++ ".h" ≠ "README.md" := ne_of_reverse (by simp)
    simp only [singleFiles, List.mem_cons, header_ne_source, cmake, readme, String.append_left_inj,
      List.not_mem_nil, or_false]
  have source : stem ++ ".cpp" ∉ singleFiles start ↔ stem ≠ start ++ "main-api-server" := by
    have cmake : stem ++ ".cpp" ≠ "CMakeLists.txt" := ne_of_reverse (by simp)
    have readme : stem ++ ".cpp" ≠ "README.md" := ne_of_reverse (by simp)
    simp only [singleFiles, List.mem_cons, (header_ne_source _ _).symm, cmake, readme,
      String.append_left_inj, List.not_mem_nil, or_false, false_or]
  rw [filePair, List.forall_mem_cons, List.forall_mem_singleton, header, source]

theorem apiStem_no_single (listed : stem ∈ apiStems (name ++ "Api")) :
    stem ≠ "api/ApiBase" ∧ stem ≠ start ++ "main-api-server" := by
  -- Such a stem ends in the last letter of `Api` or of `Impl`, and neither of the two names does.
  simp only [apiStems, List.mem_cons, List.not_mem_nil, or_false] at listed
  rcases listed with rfl | rfl
  · exact ⟨ne_of_reverse (by simp), ne_of_reverse (by simp)⟩
  · exact ⟨ne_of_reverse (by simp), ne_of_reverse (by simp)⟩

theorem modelStem_not_base (class_ : String) : modelStem class_ ≠ "api/ApiBase" :=
  ne_of_toList (by simp [modelStem])

/-- Of all files below the output folder no two have one path just if the classes have different names and no
model is called like the helpers or leads to the main file. -/
theorem files_nodup (named : ∀ api ∈ apis, ∃ name, api = name ++ "Api") :
    ((serverStems models apis start).flatMap filePair ++ singleFiles start).Nodup ↔
      models.Nodup ∧ apis.Nodup ∧ ∀ class_ ∈ models, class_ ≠ start ++ "Helpers" ∧
        modelStem class_ ≠ start ++ "main-api-server" := by
  have helpers : modelStem (start ++ "Helpers") ≠ start ++ "main-api-server" :=
    ne_of_reverse (by simp [modelStem])
  have apart : ((serverStems models apis start).flatMap filePair).Disjoint (singleFiles start) ↔
      ∀ class_ ∈ models, modelStem class_ ≠ start ++ "main-api-server" := by
    simp only [List.Disjoint, List.forall_mem_flatMap, filePair_singles]
    constructor
    · intro free class_ listed
      have stem : modelStem class_ ∈ serverStems models apis start :=
        List.mem_append_left _ (List.mem_append_left _ (List.mem_map_of_mem listed))
      exact (free _ stem).2
    · intro free stem listed
      simp only [serverStems, List.mem_append, List.mem_singleton] at listed
      rcases listed with (ofModel | ofApi) | rfl
      · obtain ⟨class_, member, rfl⟩ := List.mem_map.mp ofModel
        exact ⟨modelStem_not_base class_, free class_ member⟩
      · obtain ⟨api, member, inside⟩ := List.mem_flatMap.mp ofApi
        obtain ⟨name, rfl⟩ := named api member
        exact apiStem_no_single inside
      · exact ⟨modelStem_not_base _, helpers⟩
  rw [List.nodup_append', filePairs_nodup, stems_nodup, apart]
  constructor
  · rintro ⟨⟨ofModels, ofApis, free⟩, -, main⟩
    exact ⟨ofModels, ofApis, fun class_ listed => ⟨fun same => free (same ▸ listed), main class_ listed⟩⟩
  · rintro ⟨ofModels, ofApis, free⟩
    exact ⟨⟨ofModels, ofApis, fun listed => (free _ listed).1 rfl⟩, singleFiles_nodup start,
      fun class_ listed => (free class_ listed).2⟩

end Clashes

section ApiFiles

variable {file other : ApiFile} {class_ name : String}

/-- The path of an API file below the output folder, without its suffix. -/
def ApiFile.stem (file : ApiFile) (class_ : String) : String :=
  if file.isImpl then "impl/" ++ class_ ++ "Impl" else "api/" ++ class_

theorem apiPath_within (settings : Settings) (file : ApiFile) (class_ : String) :
    apiPath settings file class_ = within settings.outputFolder (file.stem class_ ++ file.suffix) := by
  have api : apiFolder ++ "/" = "api/" := by decide
  have impl : implFolder ++ "/" = "impl/" := by decide
  have moved {suffix : String} {rest : List Char} (dot : suffix.toList = '.' :: rest) (last : '.' ∉ rest) :=
    implPath_within settings.outputFolder class_ dot last
  simp only [impl] at moved
  cases file with
  | header | source => simp only [apiPath, api, ApiFile.isImpl, Bool.false_eq_true, ↓reduceIte, ApiFile.stem]
  | implHeader | implSource => exact moved rfl (by decide)

/-- The first letter of such a path, which is that of its folder, and its last one, which is that of its suffix. -/
def ApiFile.ends : ApiFile → Char × Char
  | .header => ('a', 'h')
  | .source => ('a', 'p')
  | .implHeader => ('i', 'h')
  | .implSource => ('i', 'p')

theorem ends_injective : Function.Injective ApiFile.ends := by
  intro file other same
  cases file <;> cases other <;> simp [ApiFile.ends] at same ⊢

theorem path_ends (file : ApiFile) (class_ : String) :
    (file.stem class_ ++ file.suffix).toList.head? = some file.ends.1 ∧
      (file.stem class_ ++ file.suffix).toList.reverse.head? = some file.ends.2 := by
  cases file <;> simp [ApiFile.stem, ApiFile.isImpl, ApiFile.suffix, ApiFile.ends]

theorem apiFile_told (same : file.stem class_ ++ file.suffix = other.stem name ++ other.suffix) :
    file = other ∧ class_ = name := by
  obtain ⟨first, last⟩ := path_ends file class_
  rw [same, (path_ends other name).1, Option.some.injEq] at first
  rw [same, (path_ends other name).2, Option.some.injEq] at last
  obtain rfl : file = other := ends_injective (Prod.ext first.symm last.symm)
  have stems : file.stem class_ = file.stem name := (String.append_left_inj _).mp same
  refine ⟨rfl, ?_⟩
  unfold ApiFile.stem at stems
  split at stems
  · exact (String.append_right_inj _).mp ((String.append_left_inj _).mp stems)
  · exact (String.append_right_inj _).mp stems

/-- What is dropped from a path is all slashes at its end, and nothing else. -/
theorem dropSlashes_cut (path : String) : ∃ slashes : String, path = Settings.dropSlashes path ++ slashes ∧
    (∀ c ∈ slashes.toList, c = '/') ∧ (Settings.dropSlashes path).toList.reverse.head? ≠ some '/' := by
  refine ⟨String.ofList (path.toList.reverse.takeWhile (· == '/')).reverse, ?_, ?_, ?_⟩
  · rw [← String.toList_inj, String.toList_append, Settings.dropSlashes, String.toList_ofList,
      String.toList_ofList, ← List.reverse_append, List.takeWhile_append_dropWhile, List.reverse_reverse]
  · intro c member
    rw [String.toList_ofList, List.mem_reverse] at member
    simpa using List.all_eq_true.mp List.all_takeWhile c member
  · rw [Settings.dropSlashes, String.toList_ofList, List.reverse_reverse]
    intro slash
    have stopped := List.head?_dropWhile_not (· == '/') path.toList.reverse
    rw [slash] at stopped
    contradiction

/-- Whatever the options say, the four files of an API class go to the folders for the API and for its implementations,
below the output folder if there is one, be there dots, slashes or names of folders in the class or in that folder. So
a path tells the class and the kind of the file. -/
theorem api_paths_tell_class_and_file (config : Config) :
    let settings := Settings.ofConfig config
    let folder := if settings.outputFolder = "" then "" else settings.outputFolder ++ "/"
    (∃ slashes : String, config.outputFolder = settings.outputFolder ++ slashes ∧
      (∀ c ∈ slashes.toList, c = '/') ∧ settings.outputFolder.toList.reverse.head? ≠ some '/') ∧
    (∀ class_, apiPath settings .header class_ = folder ++ "api/" ++ class_ ++ ".h" ∧
      apiPath settings .source class_ = folder ++ "api/" ++ class_ ++ ".cpp" ∧
      apiPath settings .implHeader class_ = folder ++ "impl/" ++ class_ ++ "Impl.h" ∧
      apiPath settings .implSource class_ = folder ++ "impl/" ++ class_ ++ "Impl.cpp") ∧
    Function.Injective fun written : String × ApiFile => apiPath settings written.2 written.1 := by
  intro settings folder
  have joined (path : String) : within settings.outputFolder path = folder ++ path := by
    unfold within folder
    split
    · exact String.empty_append.symm
    · rfl
  refine ⟨dropSlashes_cut config.outputFolder, fun class_ => ?_, ?_⟩
  · simp only [apiPath_within, joined, ApiFile.stem, ApiFile.isImpl, ApiFile.suffix, Bool.false_eq_true, ↓reduceIte]
    simp [String.append_assoc]
  · rintro ⟨class_, file⟩ ⟨name, other⟩ same
    simp only [apiPath_within] at same
    obtain ⟨rfl, rfl⟩ := apiFile_told (within_injective _ same)
    rfl

example : apiPath (.ofConfig { outputFolder := "gen.x/api//" }) .implSource "api/v1.Pets" =
    "gen.x/api/impl/api/v1.PetsImpl.cpp" := by
  decide

end ApiFiles

theorem modelPaths_within (settings : Settings) (class_ : String) :
    [(modelPaths settings class_).1, (modelPaths settings class_).2] =
      (filePair (modelStem class_)).map (within settings.outputFolder) := by
  have folder : modelFolder ++ "/" = "model/" := by decide
  simp only [modelPaths, filePair, modelStem, within_append, folder, List.map]

theorem apiPaths_within (settings : Settings) (class_ : String) :
    [ApiFile.header, .source, .implHeader, .implSource].map (apiPath settings · class_) =
      ((apiStems class_).flatMap filePair).map (within settings.outputFolder) := by
  simp only [List.map, apiPath_within, apiStems, filePair, List.flatMap_cons, List.flatMap_nil]
  rfl

theorem supportingFiles_within (settings : Settings) :
    ((supportingFiles settings).map (·.destination)).Perm
      ((filePair (modelStem (settings.modelNamePrefix ++ "Helpers")) ++
        singleFiles settings.modelNamePrefix).map (within settings.outputFolder)) := by
  have base : apiFolder ++ "/ApiBase.h" = "api/ApiBase" ++ ".h" := by decide
  have folder : modelFolder ++ "/" = "model/" := by decide
  have inOrder : (supportingFiles settings).map (·.destination) =
      (("api/ApiBase" ++ ".h") :: (filePair (modelStem (settings.modelNamePrefix ++ "Helpers")) ++
        (singleFiles settings.modelNamePrefix).tail)).map (within settings.outputFolder) := by
    simp [supportingFiles, filePair, modelStem, singleFiles, base, folder, String.append_assoc]
  -- The pair of the helpers comes after the base header, and goes before all single files.
  rw [inOrder]
  exact List.perm_middle.symm.map _

end Cpp

namespace Context

open Cpp (Config Settings apiStems filePair modelStem serverStems singleFiles within)

def Model.destinations (model : Model) : List String := [model.headerFile, model.sourceFile]

def Api.destinations (api : Api) : List String :=
  [api.header, api.source, api.implHeader, api.implSource]

/-- All paths of a server to which something is generated. -/
def Server.destinations (server : Server) : List String :=
  server.models.flatMap Model.destinations ++ server.apis.flatMap Api.destinations ++
    server.supportingFiles.map (·.destination)

theorem model_destinations (settings : Settings) (model : Interface.Model) :
    (Model.of settings model).destinations =
      (filePair (modelStem (Model.of settings model).classname)).map (within settings.outputFolder) :=
  Cpp.modelPaths_within settings _

theorem api_destinations (settings : Settings) (operations : List Interface.Operation)
    (group : Interface.Group) :
    (Api.of settings operations group).destinations =
      ((apiStems (Api.of settings operations group).classname).flatMap filePair).map
        (within settings.outputFolder) :=
  Cpp.apiPaths_within settings _

/-- The paths of a server are those of its stems and of the single files, all in the output folder. -/
theorem destinations_within (config : Config) (source : Interface) :
    (Server.of config source).destinations.Perm
      (((serverStems ((Server.of config source).models.map (·.classname))
          ((Server.of config source).apis.map (·.classname)) config.modelNamePrefix).flatMap filePair ++
        singleFiles config.modelNamePrefix).map (within (Settings.ofConfig config).outputFolder)) := by
  have models : (Server.of config source).models.flatMap Model.destinations =
      ((((Server.of config source).models.map (·.classname)).map modelStem).flatMap filePair).map
        (within (Settings.ofConfig config).outputFolder) := by
    simp only [Server.of, List.map_map, List.flatMap_map, List.map_flatMap, Function.comp_def,
      model_destinations]
  have apis : (Server.of config source).apis.flatMap Api.destinations =
      ((((Server.of config source).apis.map (·.classname)).flatMap apiStems).flatMap filePair).map
        (within (Settings.ofConfig config).outputFolder) := by
    simp only [Server.of, List.flatMap_map, List.map_flatMap, List.flatMap_assoc, api_destinations]
  have once := Cpp.supportingFiles_within (Settings.ofConfig config)
  rw [Server.destinations, models, apis, serverStems, List.flatMap_append, List.flatMap_append,
    List.flatMap_singleton, List.append_assoc _ _ (singleFiles _), List.map_append, List.map_append]
  exact once.append_left _

/-- Two generated files have one path just if two models or two API classes have one name, or if a model is
called like the helpers or leads to the main file. -/
theorem destinations_distinct_iff {config : Config} {document : ServerScaffold.Api.Document}
    {server : Server} (generated : Server.ofDocument config document = .ok server) :
    server.destinations.Nodup ↔
      (server.models.map (·.classname)).Nodup ∧ (server.apis.map (·.classname)).Nodup ∧
        ∀ model ∈ server.models, model.classname ≠ config.modelNamePrefix ++ "Helpers" ∧
          "model/" ++ model.classname ≠ config.modelNamePrefix ++ "main-api-server" := by
  obtain ⟨source, -, rfl⟩ := server_ofDocument.mp generated
  have named : ∀ api ∈ (Server.of config source).apis.map (·.classname), ∃ name, api = name ++ "Api" := by
    intro api listed
    obtain ⟨_, member, rfl⟩ := List.mem_map.mp listed
    obtain ⟨group, -, rfl⟩ := List.mem_map.mp member
    exact ⟨Interface.pascalName group.name, rfl⟩
  rw [(destinations_within config source).nodup_iff, List.nodup_map_iff (Cpp.within_injective _),
    Cpp.files_nodup named]
  simp only [List.forall_mem_map, modelStem]

/-- Two tags and some schemas. -/
def twoTags (tag : String) (schemas : Table ServerScaffold.Api.Schema) :
    ServerScaffold.Api.Document where
  openapi := "3.0.3"
  info := { title := "Catalogue", version := "1" }
  paths := ⟨[("/pets", { operation? := fun
    | .get => some { operationId := some "listPets", tags := ["cats"] }
    | .post => some { operationId := some "addPet", tags := [tag] }
    | _ => none })], List.nodup_singleton "/pets"⟩
  components := some { schemas }

/-- Schemas whose names differ, but whose classes do not, and one that is called like the helpers. -/
def clashing : ServerScaffold.Api.Document :=
  twoTags "Cats" ⟨[("pet_store", .inline {}), ("PetStore", .inline {}), ("Helpers", .inline {})], by decide⟩

/-- A prefix and a token by which a model gets the path of the main file. -/
def mainToken : Config where
  modelNamePrefix := "model/"
  typeMappings := ⟨[("main", "main-api-server")], by decide⟩

theorem two_tags_distinct : ∃ server,
    Server.ofDocument {} (twoTags "dogs" ⟨[("Cat", .inline {}), ("Dog", .inline {})], by decide⟩) =
      .ok server ∧
    server.models.map (·.classname) = ["Cat", "Dog"] ∧ server.destinations.Nodup := by
  have done : ∃ server,
      Server.ofDocument {} (twoTags "dogs" ⟨[("Cat", .inline {}), ("Dog", .inline {})], by decide⟩) =
        .ok server ∧
      server.models.map (·.classname) = ["Cat", "Dog"] ∧
      server.apis.map (·.classname) = ["CatsApi", "DogsApi"] :=
    ⟨_, rfl, by decide, by decide⟩
  obtain ⟨server, generated, models, apis⟩ := done
  refine ⟨server, generated, models, (destinations_distinct_iff generated).mpr ⟨?_, ?_, ?_⟩⟩
  · rw [models]
    decide
  · rw [apis]
    decide
  · have free : ∀ class_ ∈ ["Cat", "Dog"], class_ ≠ "" ++ "Helpers" ∧
        "model/" ++ class_ ≠ "" ++ "main-api-server" := by decide
    rw [← models] at free
    exact List.forall_mem_map.mp free

theorem clashing_destinations :
    (∃ server, Server.ofDocument {} clashing = .ok server ∧ ¬ server.destinations.Nodup ∧
      ∀ path ∈ ["model/PetStore.h", "api/CatsApi.h", "model/Helpers.h"],
        server.destinations.count path = 2) ∧
    ∃ server, Server.ofDocument mainToken (twoTags "dogs" ⟨[("main-api-server", .inline {})], by decide⟩) =
        .ok server ∧
      ¬ server.destinations.Nodup ∧ server.destinations.count "model/main-api-server.cpp" = 2 := by
  have clash : ∃ server, Server.ofDocument {} clashing = .ok server ∧
      ∀ path ∈ ["model/PetStore.h", "api/CatsApi.h", "model/Helpers.h"],
        server.destinations.count path = 2 :=
    ⟨_, rfl, by decide⟩
  obtain ⟨server, generated, twice⟩ := clash
  refine ⟨⟨server, generated, ?_, twice⟩, ⟨_, rfl, by decide, by decide⟩⟩
  -- by the count: to decide it would compare every path with all that follow it
  intro distinct
  have once := List.nodup_iff_count_le_one.mp distinct "model/PetStore.h"
  rw [twice _ (by simp)] at once
  omega

end Context

end ServerScaffold
