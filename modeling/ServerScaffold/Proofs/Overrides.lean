import Mathlib.Data.List.Pairwise
import ServerScaffold.Proofs.Forms
import ServerScaffold.Proofs.Readings

/-!
Which parameters an operation has. Of those declared for its path and for itself there is one for each name
and place, which stands where the first one stood and says what the last one says. What the body comes to
stands behind them, at places that no declared parameter has.
-/
namespace ServerScaffold.Interface

open Api (Components Document Keywords Schema)

section Merging

variable {α κ : Type} [DecidableEq κ] {key : α → κ} {given : List α} {entries : List (κ × α)}

/-- One item is kept for each key: it stands where the first item with the key stands, and is the last one. -/
structure Merges (key : α → κ) (given kept : List α) : Prop where
  distinct : (kept.map key).Nodup
  keys : ∀ name, name ∈ kept.map key ↔ name ∈ given.map key
  order : (kept.map key).Pairwise fun first second =>
    (given.map key).idxOf first < (given.map key).idxOf second
  last : ∀ item ∈ kept, ∃ before after, given = before ++ item :: after ∧ key item ∉ after.map key

/-- The same of entries under their keys. -/
structure Gathers (key : α → κ) (given : List α) (entries : List (κ × α)) : Prop where
  keyed : ∀ entry ∈ entries, key entry.2 = entry.1
  distinct : (entries.map Prod.fst).Nodup
  keys : ∀ name, name ∈ entries.map Prod.fst ↔ name ∈ given.map key
  order : (entries.map Prod.fst).Pairwise fun first second =>
    (given.map key).idxOf first < (given.map key).idxOf second
  last : ∀ entry ∈ entries, ∃ before after, given = before ++ entry.2 :: after ∧ entry.1 ∉ after.map key

theorem gathers_nothing : Gathers key [] [] where
  keyed := List.forall_mem_nil _
  distinct := List.nodup_nil
  keys _ := Iff.rfl
  order := List.Pairwise.nil
  last := List.forall_mem_nil _

theorem put_order (gathers : Gathers key given entries) (item : α) :
    ((putEntry (key item) item entries).map Prod.fst).Pairwise fun first second =>
      ((given ++ [item]).map key).idxOf first < ((given ++ [item]).map key).idxOf second := by
  have kept {name : κ} (listed : name ∈ entries.map Prod.fst) :
      ((given ++ [item]).map key).idxOf name = (given.map key).idxOf name := by
    rw [List.map_append]
    exact List.idxOf_append_of_mem ((gathers.keys name).mp listed)
  have old : (entries.map Prod.fst).Pairwise fun first second =>
      ((given ++ [item]).map key).idxOf first < ((given ++ [item]).map key).idxOf second := by
    refine gathers.order.imp_of_mem fun first second before => ?_
    rw [kept first, kept second]
    exact before
  rw [names_putEntry]
  split
  · exact old
  · next absent =>
    -- a new key stands last in both, behind every key that is there
    refine List.pairwise_append.mpr ⟨old, List.pairwise_singleton _ _, ?_⟩
    intro name listed new same
    obtain rfl := List.mem_singleton.mp same
    have outside : key item ∉ given.map key := fun there => absent ((gathers.keys _).mpr there)
    have atEnd : ((given ++ [item]).map key).idxOf (key item) = (given.map key).length := by
      rw [List.map_append, List.idxOf_append_of_notMem outside]
      simp
    rw [kept listed, atEnd]
    exact List.idxOf_lt_length_of_mem ((gathers.keys name).mp listed)

theorem put_last (gathers : Gathers key given entries) (item : α) :
    ∀ entry ∈ putEntry (key item) item entries,
      ∃ before after, given ++ [item] = before ++ entry.2 :: after ∧ entry.1 ∉ after.map key := by
  intro entry written
  by_cases same : entry.1 = key item
  -- under the key of the item nothing is left but the item, since no key stands there twice
  · have new := put_mem_putEntry (key item) item entries
    have distinct := distinct_putEntry (key item) item gathers.distinct
    obtain rfl := List.inj_on_of_nodup_map distinct written new same
    exact ⟨given, [], rfl, List.not_mem_nil⟩
  · rcases mem_putEntry written with rfl | old
    · exact absurd rfl same
    · obtain ⟨before, after, split, absent⟩ := gathers.last entry old
      refine ⟨before, after ++ [item], by simp [split], ?_⟩
      simp only [List.map_append, List.mem_append, not_or]
      exact ⟨absent, by simpa using same⟩

/-- One more item is put where its key stands, or at the end. -/
theorem gathers_put (gathers : Gathers key given entries) (item : α) :
    Gathers key (given ++ [item]) (putEntry (key item) item entries) where
  keyed entry written := by
    rcases mem_putEntry written with rfl | old
    · rfl
    · exact gathers.keyed entry old
  distinct := distinct_putEntry (key item) item gathers.distinct
  keys name := by
    rw [names_putEntry, List.map_append, List.mem_append, ← gathers.keys name]
    split
    · next there =>
      constructor
      · exact Or.inl
      · rintro (old | new)
        · exact old
        · obtain rfl := List.mem_singleton.mp new
          exact there
    · exact List.mem_append
  order := put_order gathers item
  last := put_last gathers item

theorem gathers_rest (rest : List α) (gathers : Gathers key given entries) :
    Gathers key (given ++ rest)
      (rest.foldl (fun entries item => putEntry (key item) item entries) entries) := by
  induction rest generalizing given entries with
  | nil => simpa using gathers
  | cons item rest ih =>
    have step := ih (gathers_put gathers item)
    rw [List.append_assoc] at step
    exact step

theorem merges_of_gathers (gathers : Gathers key given entries) :
    Merges key given (entries.map Prod.snd) := by
  have same : (entries.map Prod.snd).map key = entries.map Prod.fst := by
    rw [List.map_map]
    exact List.map_congr_left gathers.keyed
  refine ⟨same ▸ gathers.distinct, same ▸ gathers.keys, same ▸ gathers.order, ?_⟩
  rw [List.forall_mem_map]
  intro entry listed
  rw [gathers.keyed entry listed]
  exact gathers.last entry listed

theorem idxOf_renamed {κ' : Type} [DecidableEq κ'] {rename : κ → κ'} (injective : Function.Injective rename)
    (name : κ) (names : List κ) : (names.map rename).idxOf (rename name) = names.idxOf name := by
  induction names with
  | nil => rfl
  | cons first rest ih =>
    by_cases same : first = name
    · simp [same]
    · have different : rename first ≠ rename name := fun equal => same (injective equal)
      simp [same, different, ih]

/-- Items that are given in another form are merged alike, if the new keys tell the same items apart. -/
theorem merges_map {β κ' : Type} [DecidableEq κ'] {form : α → β} {key' : β → κ'} {rename : κ → κ'}
    {kept : List α} (injective : Function.Injective rename)
    (agrees : ∀ item, key' (form item) = rename (key item)) (merges : Merges key given kept) :
    Merges key' (given.map form) (kept.map form) := by
  have renamed (items : List α) : (items.map form).map key' = (items.map key).map rename := by
    simp only [List.map_map, Function.comp_def, agrees]
  constructor
  · rw [renamed]
    exact merges.distinct.map injective
  · intro name
    rw [renamed, renamed, List.mem_map, List.mem_map]
    simp only [merges.keys]
  · rw [renamed, renamed, List.pairwise_map]
    refine merges.order.imp fun before => ?_
    rw [idxOf_renamed injective, idxOf_renamed injective]
    exact before
  · rw [List.forall_mem_map]
    intro item listed
    obtain ⟨before, after, split, absent⟩ := merges.last item listed
    refine ⟨before.map form, after.map form, by simp [split], ?_⟩
    rw [renamed, agrees]
    exact fun there => absent ((List.mem_map_of_injective injective).mp there)

theorem merged_merges (given : List Api.Parameter) :
    Merges (fun parameter => (parameter.name, parameter.place)) given (merged given) := by
  have gathers : Gathers (fun parameter : Api.Parameter => (parameter.name, parameter.place)) given _ :=
    gathers_rest given gathers_nothing
  exact merges_of_gathers gathers

end Merging

section Parameters

variable {components : Components} {item : Api.PathItem} {source : Api.Operation}
  {found : List Api.Parameter} {body : Option Api.RequestBody} {ofBody : List Parameter}
  {aliases : Table Node}

/-- What a parameter is told apart by. -/
def Parameter.key (parameter : Parameter) : String × Location := (parameter.name, parameter.location)

theorem location_declared (place : Api.Place) : location place ∈ [.path, .query, .header, .cookie] := by
  cases place <;> decide

theorem location_injective : Function.Injective location := by
  intro first second
  cases first <;> cases second <;> decide

theorem parameters_merged (aliases : Table Node) (given : List Api.Parameter) :
    Merges Parameter.key (given.map fun parameter => inlinedParameter aliases (declared parameter))
      ((merged given).map fun parameter => inlinedParameter aliases (declared parameter)) :=
  merges_map (Function.injective_id.prodMap location_injective) (fun _ => rfl) (merged_merges given)

/-- A body comes to nothing, to one parameter for the whole, or to the fields of a form. -/
theorem looked_up_parts (looked : LookedUp components item source found body ofBody) :
    ofBody = [] ∨ (∃ whole, whole.location = .body ∧ ofBody = [whole]) ∨
      ∃ schema k, TakesForm components source schema ∧ Spelled components schema k ∧
        ofBody = formParameters k := by
  cases body with
  | none => exact Or.inl (Except.ok.inj looked.parts).symm
  | some body =>
    cases body_parts looked.parts with
    | noContent _ | noSchema _ _ => exact Or.inl rfl
    | whole _ _ _ => exact Or.inr (Or.inl ⟨_, rfl, rfl⟩)
    | form content isForm given spelled =>
      exact Or.inr (Or.inr ⟨_, _, .intro looked.request content isForm given, spelled, rfl⟩)

theorem form_keys_distinct {k : Keywords Schema} (once : (k.properties.map Prod.fst).Nodup) :
    ((formParameters k).map Parameter.key).Nodup := by
  refine List.Nodup.of_map Prod.fst ?_
  have names : ((formParameters k).map Parameter.key).map Prod.fst = k.properties.map Prod.fst := by
    rw [form_parameters, List.map_map, List.map_map]
    rfl
  rw [names]
  exact once

theorem parts_behind (looked : LookedUp components item source found body ofBody) :
    ∀ parameter ∈ ofBody, parameter.location ∈ [.body, .form, .file] := by
  rcases looked_up_parts looked with rfl | ⟨whole, place, rfl⟩ | ⟨schema, k, -, -, rfl⟩
  · exact List.forall_mem_nil _
  · simp [place]
  · intro parameter listed
    have inForm := form_is_field listed
    revert inForm
    cases parameter.location <;> decide

theorem parts_distinct (looked : LookedUp components item source found body ofBody)
    (once : ∀ schema k, TakesForm components source schema → Spelled components schema k →
      (k.properties.map Prod.fst).Nodup) : (ofBody.map Parameter.key).Nodup := by
  rcases looked_up_parts looked with rfl | ⟨whole, place, rfl⟩ | ⟨schema, k, takes, spelled, rfl⟩
  · exact List.nodup_nil
  · exact List.nodup_singleton _
  · exact form_keys_distinct (once schema k takes spelled)

/-- What is declared and what the body comes to stand at different places. -/
theorem keys_apart {own behind : List Parameter}
    (ownPlaces : ∀ parameter ∈ own, parameter.location ∈ [.path, .query, .header, .cookie])
    (behindPlaces : ∀ parameter ∈ behind, parameter.location ∈ [.body, .form, .file])
    (ownDistinct : (own.map Parameter.key).Nodup) (behindDistinct : (behind.map Parameter.key).Nodup) :
    ((own ++ behind).map Parameter.key).Nodup := by
  rw [List.map_append, List.nodup_append]
  refine ⟨ownDistinct, behindDistinct, ?_⟩
  intro key ofOwn other ofBehind same
  obtain ⟨parameter, listed, rfl⟩ := List.mem_map.mp ofOwn
  obtain ⟨part, listed', rfl⟩ := List.mem_map.mp ofBehind
  have place : parameter.location = part.location := (Prod.mk.inj same).2
  have first := ownPlaces parameter listed
  have second := behindPlaces part listed'
  rw [place] at first
  revert first second
  cases part.location <;> decide

theorem composed_parameters (aliases : Table Node) (naming : Naming) (path : String) (method : Api.Method) :
    (composed aliases naming path method source found body ofBody).parameters =
      (merged found).map (fun given => inlinedParameter aliases (declared given)) ++
        ofBody.map (inlinedParameter aliases) := by
  simp [composed, Function.comp_def]

theorem declared_places (aliases : Table Node) :
    ∀ parameter ∈ (merged found).map (fun given => inlinedParameter aliases (declared given)),
      parameter.location ∈ [.path, .query, .header, .cookie] :=
  List.forall_mem_map.mpr fun given _ => location_declared given.place

theorem composed_keys_distinct (aliases : Table Node) (naming : Naming) (path : String) (method : Api.Method)
    (looked : LookedUp components item source found body ofBody)
    (once : ∀ schema k, TakesForm components source schema → Spelled components schema k →
      (k.properties.map Prod.fst).Nodup) :
    ((composed aliases naming path method source found body ofBody).parameters.map Parameter.key).Nodup := by
  rw [composed_parameters]
  refine keys_apart (declared_places aliases) (List.forall_mem_map.mpr (parts_behind looked))
    (parameters_merged aliases found).distinct ?_
  have keys : (ofBody.map (inlinedParameter aliases)).map Parameter.key = ofBody.map Parameter.key := by
    rw [List.map_map]
    rfl
  rw [keys]
  exact parts_distinct looked once

/-- An operation of a description that has been read, with the components that are named there. -/
inductive IsRead (components : Components) (item : Api.PathItem) (source : Api.Operation) : Prop where
  | intro {format : Source.Format} {text path : String} {method : Api.Method} {document : Document}
      (read : Document.read format text = .ok document)
      (route : (path, item, method, source) ∈ routes document.paths)
      (parts : namedParts document = components)

/-- In what has been read a form names no field twice, wherever its schema stands. -/
theorem form_names_once (isRead : IsRead components item source) (schema : Schema) (k : Keywords Schema)
    (takes : TakesForm components source schema) (spelled : Spelled components schema k) :
    (k.properties.map Prod.fst).Nodup := by
  obtain ⟨read, route, rfl⟩ := isRead
  have once := Api.read_namesOnce read
  obtain ⟨request, content, -, given⟩ := takes
  have inBody := stands_namesOnce once (content_stands route request (content ▸ List.mem_cons_self) given)
  cases spelled with
  | inPlace => exact inBody.properties_distinct
  | named entry => exact (stands_namesOnce once (.component entry)).properties_distinct

end Parameters

/-- An operation whose parameters can be looked up is built unless its body cannot be. It has one parameter for
each name and place of those declared for its path and then for itself, which stands where the first of them
stands and is the last of them; what the body comes to stands behind, at other places. No name and place comes
twice if no form names a field twice, and none does in a description that has been read. -/
theorem declared_parameters_merged {components : Components} {aliases : Table Node} {naming : Naming}
    {path : String} {item : Api.PathItem} {method : Api.Method} {source : Api.Operation}
    {found : List Api.Parameter}
    (resolved : (item.parameters ++ source.parameters).mapM (followed parameterStart components.parameters) =
      .ok found) :
    (∀ result, operation components aliases naming path item method source = .ok result →
      ∃ own behind, result.parameters = own ++ behind ∧
        Merges Parameter.key (found.map fun parameter => inlinedParameter aliases (declared parameter)) own ∧
        (∀ parameter ∈ own, parameter.location ∈ [.path, .query, .header, .cookie]) ∧
        (∀ parameter ∈ behind, parameter.location ∈ [.body, .form, .file]) ∧
        ((∀ schema k, TakesForm components source schema → Spelled components schema k →
            (k.properties.map Prod.fst).Nodup) → (result.parameters.map Parameter.key).Nodup) ∧
        (IsRead components item source → (result.parameters.map Parameter.key).Nodup)) ∧
    ∀ error, operation components aliases naming path item method source = .error error →
      (∃ given, source.requestBody = some given ∧
        followed requestBodyStart components.requestBodies given = .error error) ∨
      ∃ body, source.requestBody.mapM (followed requestBodyStart components.requestBodies) =
        .ok (some body) ∧ bodyParameters components body = .error error := by
  constructor
  · intro result built
    obtain ⟨found', body, ofBody, looked, rfl⟩ := operation_ok.mp built
    obtain rfl := Except.ok.inj (resolved.symm.trans looked.parameters)
    have distinct := composed_keys_distinct aliases naming path method looked
    exact ⟨_, _, composed_parameters aliases naming path method, parameters_merged aliases found,
      declared_places aliases, List.forall_mem_map.mpr (parts_behind looked), distinct,
      fun read => distinct (form_names_once read)⟩
  · intro error failed
    rcases operation_error failed with ⟨given, listed, stopped⟩ | ofBody
    · obtain ⟨value, -, done⟩ := pair_of_left (mapM_ok.mp resolved) listed
      rw [done] at stopped
      contradiction
    · exact ofBody

/-- A limit with a name of its own. -/
def limits : Components where
  parameters := ⟨[("Limit", .inline { name := "limit", place := .query, required := true })],
    List.nodup_singleton _⟩

def pages : Api.PathItem where
  parameters := [.inline { name := "limit", place := .query }, .inline { name := "id", place := .path }]

/-- The limit by name takes the place of that of all pages; those in the header and the form are others. -/
def addPage : Api.Operation where
  operationId := some "addPage"
  parameters := [.ref "#/components/parameters/Limit", .inline { name := "limit", place := .header }]
  requestBody := some (.inline { content :=
    ⟨[("multipart/form-data", ⟨some (.inline { properties := [("limit", .inline {})] })⟩)],
      List.nodup_singleton _⟩ })

theorem page_parameters_merged : ∃ found,
    (pages.parameters ++ addPage.parameters).mapM (followed parameterStart limits.parameters) = .ok found ∧
    ∃ result, operation limits ∅ {} "/pages/\x7bid\x7d" pages .post addPage = .ok result ∧
      result.parameters.map (fun parameter => (parameter.key, parameter.required)) =
        [(("limit", .query), true), (("id", .path), true), (("limit", .header), false),
          (("limit", .form), false)] ∧
      (result.parameters.map Parameter.key).Nodup := by
  have resolved : ∃ found, (pages.parameters ++ addPage.parameters).mapM
      (followed parameterStart limits.parameters) = .ok found := ⟨_, rfl⟩
  have built : ∃ result, operation limits ∅ {} "/pages/\x7bid\x7d" pages .post addPage = .ok result ∧
      result.parameters.map (fun parameter => (parameter.key, parameter.required)) =
        [(("limit", .query), true), (("id", .path), true), (("limit", .header), false),
          (("limit", .form), false)] := ⟨_, rfl, rfl⟩
  obtain ⟨found, resolved⟩ := resolved
  obtain ⟨result, built, keys⟩ := built
  obtain ⟨_, _, -, -, -, -, distinct, -⟩ := (declared_parameters_merged resolved).1 result built
  refine ⟨found, resolved, result, built, keys, distinct ?_⟩
  rintro schema k ⟨request, content, -, given⟩ spelled
  obtain rfl := Option.some.inj (Except.ok.inj request)
  obtain ⟨-, rfl⟩ := Prod.mk.inj (List.cons.inj content).1
  obtain rfl := Option.some.inj given
  cases spelled
  decide

end ServerScaffold.Interface
