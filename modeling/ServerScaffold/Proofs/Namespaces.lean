import ServerScaffold.Proofs.ResolvedTypes

/-!
What namespaces mean for a type. A type without its namespaces, and one whose bare class is put into one, differ from the
type in namespaces alone; and of types that differ in nothing else, neither the base type, nor the symbols, nor whether it
is a token tells which is which.
-/
namespace ServerScaffold.Cpp

/-- Two types that differ in nothing but the namespaces of their classes. The pairs are the arguments of both sides. -/
inductive Rescoped : TypeExpr → TypeExpr → Prop where
  | scalar (token : String) : Rescoped (.scalar token) (.scalar token)
  | model (scope other : Option String) (name : String) : Rescoped (.model scope name) (.model other name)
  | container (name : String) {pairs : List (TypeExpr × TypeExpr)} (each : ∀ pair ∈ pairs, Rescoped pair.1 pair.2) :
      Rescoped (.container name (pairs.map Prod.fst)) (.container name (pairs.map Prod.snd))
  | optional {inner other : TypeExpr} (inside : Rescoped inner other) : Rescoped (.optional inner) (.optional other)
  | shared {inner other : TypeExpr} (inside : Rescoped inner other) : Rescoped (.shared inner) (.shared other)

/-- No class in the type stands in a namespace. -/
def Bare (type : TypeExpr) : Prop := ∀ ⦃scope name⦄, Inside (.model scope name) type → scope = none

namespace TypeExpr

/-- Induction over types; the arguments of a container come as members of their list. -/
theorem induct {motive : TypeExpr → Prop} (scalar : ∀ token, motive (.scalar token))
    (container : ∀ name args, (∀ arg ∈ args, motive arg) → motive (.container name args))
    (model : ∀ scope name, motive (.model scope name))
    (optional : ∀ inner, motive inner → motive (.optional inner))
    (shared : ∀ inner, motive inner → motive (.shared inner))
    (type : TypeExpr) : motive type :=
  @TypeExpr.rec motive (fun args => ∀ arg ∈ args, motive arg) scalar container model optional shared
    (fun _ member => absurd member List.not_mem_nil)
    (fun _ _ first rest => List.forall_mem_cons.mpr ⟨first, rest⟩) type

theorem unqualified_args (args : List TypeExpr) : unqualifiedArgs args = args.map unqualified := by
  induction args with
  | nil => rfl
  | cons arg rest ih => exact congrArg (arg.unqualified :: ·) ih

theorem unqualified_container (name : String) (args : List TypeExpr) :
    (TypeExpr.container name args).unqualified = .container name (args.map unqualified) :=
  congrArg (TypeExpr.container name) (unqualified_args args)

theorem last_baseType (args : List TypeExpr) : lastBaseType? args = (args.map baseType).getLast? := by
  induction args with
  | nil => rfl
  | cons arg rest ih =>
    cases rest with
    | nil => rfl
    | cons next rest =>
      calc lastBaseType? (arg :: next :: rest)
          = lastBaseType? (next :: rest) := rfl
        _ = ((next :: rest).map baseType).getLast? := ih
        _ = ((arg :: next :: rest).map baseType).getLast? := List.getLast?_cons_cons.symm

end TypeExpr

section Rescoping

variable {type other : TypeExpr} {args : List TypeExpr} {form : TypeExpr → TypeExpr}

theorem rescoped_args (name : String) (each : ∀ arg ∈ args, Rescoped arg (form arg)) :
    Rescoped (.container name args) (.container name (args.map form)) := by
  have beside : ∀ pair ∈ args.map fun arg => (arg, form arg), Rescoped pair.1 pair.2 :=
    List.forall_mem_map.mpr each
  simpa [Function.comp_def] using Rescoped.container name beside

theorem rescoped_same (type : TypeExpr) : Rescoped type type := by
  induction type using TypeExpr.induct with
  | scalar token => exact .scalar token
  | container name args ih =>
    have each : ∀ arg ∈ args, Rescoped arg (id arg) := ih
    simpa using rescoped_args name each
  | model scope name => exact .model scope scope name
  | optional inner ih => exact .optional ih
  | shared inner ih => exact .shared ih

theorem rescoped_unqualified (type : TypeExpr) : Rescoped type type.unqualified := by
  induction type using TypeExpr.induct with
  | scalar token => exact .scalar token
  | container name args ih =>
    rw [TypeExpr.unqualified_container]
    exact rescoped_args name ih
  | model scope name => exact .model scope none name
  | optional inner ih => exact .optional ih
  | shared inner ih => exact .shared ih

/-- A class that is the whole type and has no namespace is put into one, and all other types stay as they are. -/
theorem qualified_cases (scope : Option String) (type : TypeExpr) :
    (∃ name, type = .model none name ∧ type.qualified scope = .model scope name) ∨
      (∀ name, type ≠ .model none name) ∧ type.qualified scope = type := by
  cases type with
  | model own name =>
    cases own with
    | none => exact Or.inl ⟨name, rfl, rfl⟩
    | some own => exact Or.inr ⟨nofun, rfl⟩
  | scalar _ | container _ _ | optional _ | shared _ => exact Or.inr ⟨nofun, rfl⟩

theorem qualified_twice (scope : Option String) (type : TypeExpr) :
    (type.qualified scope).qualified scope = type.qualified scope := by
  rcases qualified_cases scope type with ⟨name, -, put⟩ | ⟨-, kept⟩
  · rw [put]
    cases scope <;> rfl
  · rw [kept, kept]

theorem rescoped_qualified (scope : Option String) (type : TypeExpr) : Rescoped type (type.qualified scope) := by
  rcases qualified_cases scope type with ⟨name, rfl, put⟩ | ⟨-, kept⟩
  · rw [put]
    exact .model none scope name
  · rw [kept]
    exact rescoped_same type

/-- What is the same of all pairs of arguments is the same of the arguments on both sides. -/
theorem sides_same {α : Type} {pairs : List (TypeExpr × TypeExpr)} {shown : TypeExpr → α}
    (each : ∀ pair ∈ pairs, shown pair.1 = shown pair.2) :
    (pairs.map Prod.fst).map shown = (pairs.map Prod.snd).map shown := by
  rw [List.map_map, List.map_map]
  exact List.map_congr_left each

theorem unqualified_rescoped (rescoped : Rescoped type other) : type.unqualified = other.unqualified := by
  induction rescoped with
  | scalar _ | model _ _ _ => rfl
  | container name _ ih =>
    rw [TypeExpr.unqualified_container, TypeExpr.unqualified_container, sides_same ih]
  | optional _ ih => exact congrArg TypeExpr.optional ih
  | shared _ ih => exact congrArg TypeExpr.shared ih

theorem isScalar_rescoped (rescoped : Rescoped type other) : type.isScalar = other.isScalar := by
  cases rescoped <;> rfl

/-- The base type is that of the last argument. Without arguments it is the text of the container, which has no
namespace. -/
theorem baseType_rescoped (rescoped : Rescoped type other) : type.baseType = other.baseType := by
  induction rescoped with
  | scalar _ | model _ _ _ => rfl
  | container name _ ih =>
    rw [TypeExpr.baseType, TypeExpr.baseType, TypeExpr.last_baseType, TypeExpr.last_baseType, sides_same ih]
  | optional _ ih | shared _ ih => exact ih

theorem symbols_rescoped (settings : Settings) (rescoped : Rescoped type other) :
    symbols settings type = symbols settings other := by
  induction rescoped with
  | scalar _ | model _ _ _ => rfl
  | container name _ ih =>
    rw [symbols, symbols, arg_symbols, arg_symbols, List.flatMap_def, List.flatMap_def, sides_same ih]
  | optional _ ih | shared _ ih => exact ih

end Rescoping

section Bare

variable {type other : TypeExpr}

theorem unqualified_bare (type : TypeExpr) : Bare type.unqualified := by
  induction type using TypeExpr.induct with
  | scalar token => exact fun _ _ inside => nomatch inside
  | container name args ih =>
    rw [TypeExpr.unqualified_container]
    intro scope own inside
    cases inside with
    | arg listed inside =>
      obtain ⟨arg, inArgs, rfl⟩ := List.mem_map.mp listed
      exact ih arg inArgs inside
  | model scope name =>
    intro scope own inside
    cases inside with
    | here => rfl
  | optional inner ih =>
    intro scope own inside
    cases inside with
    | optional inside => exact ih inside
  | shared inner ih =>
    intro scope own inside
    cases inside with
    | shared inside => exact ih inside

theorem unqualified_of_bare (bare : Bare type) : type.unqualified = type := by
  induction type using TypeExpr.induct with
  | scalar token => rfl
  | container name args ih =>
    have each : ∀ arg ∈ args, arg.unqualified = arg :=
      fun arg listed => ih arg listed fun _ _ inside => bare (.arg listed inside)
    rw [TypeExpr.unqualified_container, List.map_congr_left each, List.map_id']
  | model scope name => rw [TypeExpr.unqualified, bare .here]
  | optional inner ih => exact congrArg TypeExpr.optional (ih fun _ _ inside => bare (.optional inside))
  | shared inner ih => exact congrArg TypeExpr.shared (ih fun _ _ inside => bare (.shared inside))

/-- Of the types that differ in namespaces alone, one has none. -/
theorem unqualified_unique (rescoped : Rescoped type other) (bare : Bare other) : other = type.unqualified := by
  rw [unqualified_rescoped rescoped, unqualified_of_bare bare]

end Bare

/-- To qualify a type or to take its namespaces out changes namespaces and nothing else, so neither shows in the base
type, in the symbols or in whether the type is a token, and to do it twice is to do it once. Without namespaces there is
one type for all that differ in these alone; and qualified is a class that is the whole type, if it has no namespace. -/
theorem only_namespaces_change (settings : Settings) (type : TypeExpr) (scope : Option String) :
    type.unqualified.unqualified = type.unqualified ∧
    (type.qualified scope).qualified scope = type.qualified scope ∧
    (type.qualified scope).unqualified = type.unqualified ∧
    (∀ other ∈ [type.unqualified, type.qualified scope],
      Rescoped type other ∧ other.baseType = type.baseType ∧ other.isScalar = type.isScalar ∧
        symbols settings other = symbols settings type) ∧
    (∀ other, Rescoped type other ∧ Bare other ↔ other = type.unqualified) ∧
    ((∃ name, type = .model none name ∧ type.qualified scope = .model scope name) ∨
      (∀ name, type ≠ .model none name) ∧ type.qualified scope = type) := by
  have without := rescoped_unqualified type
  have within := rescoped_qualified scope type
  refine ⟨(unqualified_rescoped without).symm, qualified_twice scope type, (unqualified_rescoped within).symm, ?_, ?_,
    qualified_cases scope type⟩
  · intro other listed
    have rescoped : Rescoped type other := by
      rcases List.mem_pair.mp listed with rfl | rfl
      · exact without
      · exact within
    exact ⟨rescoped, (baseType_rescoped rescoped).symm, (isScalar_rescoped rescoped).symm,
      (symbols_rescoped settings rescoped).symm⟩
  · intro other
    constructor
    · rintro ⟨rescoped, bare⟩
      exact unqualified_unique rescoped bare
    · rintro rfl
      exact ⟨without, unqualified_bare type⟩

example :
    let type : TypeExpr := .optional (.container "std::map" [.container "std::set" [], .model (some "shop") "Pet"])
    (type.qualified (some "pets")).text = "std::optional<std::map<std::set<>, shop::Pet>>" ∧
      type.unqualified.text = "std::optional<std::map<std::set<>, Pet>>" := by
  decide

end ServerScaffold.Cpp
