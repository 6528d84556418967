import Mathlib.Data.String.Basic
import ServerScaffold.Proofs.References

/-!
What an operation answers with. Of the responses with a code of success it is the one with the least code, and
only where there is none it is the default one; what the others hold is not looked at. Codes are distinct, so
the order in which the responses are listed makes no difference.
-/
namespace ServerScaffold.Interface

open Api (Components Schema)

/-- Codes of success begin with a two. -/
def Succeeds (code : String) : Prop := code.toList.head? = some '2'

/-- The response with the least code of success; else the default one; else nothing. -/
inductive Answers (responses : Table Api.Response) : Option Api.Response → Prop where
  | success {code : String} {response : Api.Response} (entry : (code, response) ∈ responses.entries)
      (succeeds : Succeeds code) (least : ∀ other ∈ responses.keys, Succeeds other → code ≤ other) :
      Answers responses (some response)
  | default {response : Api.Response} (failed : ∀ code ∈ responses.keys, ¬ Succeeds code)
      (entry : ("default", response) ∈ responses.entries) : Answers responses (some response)
  | nothing (failed : ∀ code ∈ responses.keys, ¬ Succeeds code) (absent : "default" ∉ responses.keys) :
      Answers responses none

section

variable {α : Type} {entries : List (String × α)} {least : String × α}

theorem leastEntry_none : leastEntry? entries = none ↔ entries = [] := by
  cases entries with
  | nil => exact iff_of_true rfl rfl
  | cons entry rest =>
    unfold leastEntry?
    split
    · simp
    · split <;> simp

theorem leastEntry_least (found : leastEntry? entries = some least) : ∀ entry ∈ entries, least.1 ≤ entry.1 := by
  induction entries generalizing least with
  | nil => contradiction
  | cons entry rest ih =>
    unfold leastEntry? at found
    split at found
    · next none =>
      obtain rfl := Option.some.inj found
      rw [leastEntry_none.mp none]
      exact List.forall_mem_singleton.mpr le_rfl
    · next other there =>
      split at found
      · next before =>
        obtain rfl := Option.some.inj found
        exact List.forall_mem_cons.mpr ⟨before.le, ih there⟩
      · next notBefore =>
        obtain rfl := Option.some.inj found
        have first := not_lt.mp notBefore
        exact List.forall_mem_cons.mpr ⟨le_rfl, fun later listed => first.trans (ih there later listed)⟩

end

section

variable {responses others : Table Api.Response} {answer answer' : Option Api.Response} {code : String}

theorem succeeds_iff : Succeeds code ↔ isSuccess code = true := by
  simp [Succeeds, isSuccess]

theorem mem_successes {entry : String × Api.Response} :
    entry ∈ responses.entries.filter (fun entry => isSuccess entry.1) ↔
      entry ∈ responses.entries ∧ Succeeds entry.1 := by
  rw [List.mem_filter, succeeds_iff]

theorem successResponse_answers (responses : Table Api.Response) :
    Answers responses (successResponse? responses) := by
  unfold successResponse?
  split
  · next code response found =>
    obtain ⟨entry, succeeds⟩ := mem_successes.mp (leastEntry_mem found)
    refine .success entry succeeds fun other key success => ?_
    obtain ⟨response', there⟩ := Table.key_has_entry key
    exact leastEntry_least found (other, response') (mem_successes.mpr ⟨there, success⟩)
  · next none =>
    have failed : ∀ code ∈ responses.keys, ¬ Succeeds code := by
      intro code key success
      obtain ⟨response, there⟩ := Table.key_has_entry key
      have listed := mem_successes.mpr ⟨there, success⟩
      rw [leastEntry_none.mp none] at listed
      exact List.not_mem_nil listed
    cases found : responses.get? "default" with
    | some response => exact .default failed (Table.get_eq_some.mp found)
    | none => exact .nothing failed (Table.get_eq_none.mp found)

theorem answers_unique (answers : Answers responses answer) (again : Answers responses answer') :
    answer = answer' := by
  cases answers with
  | success entry succeeds least =>
    cases again with
    | success entry' succeeds' least' =>
      obtain rfl := le_antisymm (least _ (Table.key_of_entry entry') succeeds')
        (least' _ (Table.key_of_entry entry) succeeds)
      rw [Table.entry_unique entry entry']
    | default failed _ | nothing failed _ => exact absurd succeeds (failed _ (Table.key_of_entry entry))
  | default failed entry =>
    cases again with
    | success entry' succeeds _ => exact absurd succeeds (failed _ (Table.key_of_entry entry'))
    | default _ entry' => rw [Table.entry_unique entry entry']
    | nothing _ absent => exact absurd (Table.key_of_entry entry) absent
  | nothing failed absent =>
    cases again with
    | success entry succeeds _ => exact absurd succeeds (failed _ (Table.key_of_entry entry))
    | default _ entry => exact absurd (Table.key_of_entry entry) absent
    | nothing _ _ => rfl

/-- The answer only hangs on which responses there are. -/
theorem answers_perm (same : responses.entries.Perm others.entries) (answers : Answers responses answer) :
    Answers others answer := by
  have keys {code : String} : code ∈ others.keys ↔ code ∈ responses.keys := (same.map Prod.fst).mem_iff.symm
  cases answers with
  | success entry succeeds least =>
    exact .success (same.mem_iff.mp entry) succeeds fun other key => least other (keys.mp key)
  | default failed entry =>
    exact .default (fun code key => failed code (keys.mp key)) (same.mem_iff.mp entry)
  | nothing failed absent =>
    exact .nothing (fun code key => failed code (keys.mp key)) fun key => absent (keys.mp key)

theorem successResponse_perm (same : responses.entries.Perm others.entries) :
    successResponse? responses = successResponse? others :=
  answers_unique (answers_perm same (successResponse_answers responses)) (successResponse_answers others)

end

/-- The schema of the first content of a response. -/
def firstSchema? (response : Api.Response) : Option Schema := response.content.entries.head?.bind (·.2.schema)

theorem responseSchema_eq (response : Api.Response) : responseSchema? response = firstSchema? response := by
  rw [responseSchema?, firstSchema?, Table.values, List.head?_map, Option.bind_map]
  rfl

/-- An operation, or the error in its place, is the same in whatever order its responses are listed. It answers
with the first content of the response with the least code of success, or of the default one where there is no
such code; and if that has no content or its content no schema, with nothing. -/
theorem answer_in_every_order {components : Components} {aliases : Table Node} {naming : Naming} {path : String}
    {item : Api.PathItem} {method : Api.Method} {source : Api.Operation} {responses : Table Api.Response}
    (same : responses.entries.Perm source.responses.entries) :
    operation components aliases naming path item method { source with responses } =
      operation components aliases naming path item method source ∧
    ∃ answer, Answers source.responses answer ∧
      ∀ result, operation components aliases naming path item method source = .ok result →
        result.response = (answer.bind firstSchema?).map fun schema =>
          inlineAliases aliases (schemaNode schema) := by
  constructor
  · unfold operation rawName
    simp only [successResponse_perm same]
  · refine ⟨_, successResponse_answers _, fun result built => ?_⟩
    obtain ⟨found, body, ofBody, -, rfl⟩ := operation_ok.mp built
    have schemas : responseSchema? = firstSchema? := funext responseSchema_eq
    rw [← schemas]
    rfl

/-- Responses that hold one schema each. -/
def answering (schemas : List (String × Schema)) (distinct : (schemas.map Prod.fst).Nodup) : Table Api.Response where
  entries := schemas.map fun (code, schema) =>
    (code, { content := ⟨[("application/json", ⟨some schema⟩)], List.nodup_singleton _⟩ })
  distinct := by simpa [Function.comp_def] using distinct

/-- What is said of adding a pet: the default and a later success stand before the least one. -/
def adding : Api.Operation where
  responses := answering [
    ("default", .ref "#/components/schemas/Error"),
    ("202", .ref "#/components/schemas/Job"),
    ("201", .ref "#/components/schemas/Pet")] (by decide)

theorem added_pet_in_either_order :
    let turned := answering [
      ("201", .ref "#/components/schemas/Pet"),
      ("202", .ref "#/components/schemas/Job"),
      ("default", .ref "#/components/schemas/Error")] (by decide)
    turned.entries.Perm adding.responses.entries ∧
    operation {} ∅ {} "/pets" {} .post { adding with responses := turned } =
      operation {} ∅ {} "/pets" {} .post adding ∧
    ∃ result, operation {} ∅ {} "/pets" {} .post adding = .ok result ∧
      result.response = some (.ref "Pet" none) := by
  intro turned
  have same : turned.entries.Perm adding.responses.entries := List.reverse_perm adding.responses.entries
  obtain ⟨kept, -⟩ := answer_in_every_order same
  exact ⟨same, kept, _, rfl, rfl⟩

end ServerScaffold.Interface
