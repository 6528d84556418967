import ServerScaffold.Literal
import ServerScaffold.Text.Search

/-!
Schemas of an API description. A schema is a reference to a named schema or a set of keywords, and the
keywords hold schemas again.
-/
namespace ServerScaffold.Api

inductive TypeName where
  | string | number | integer | boolean | array | object | null
deriving DecidableEq, Repr

inductive TypeSet where
  | single (type : TypeName)
  | several (types : List TypeName)
deriving DecidableEq, Repr

/-- The first type that is not null, and if all are null the first. -/
def TypeSet.primary? : TypeSet → Option TypeName
  | .single type => some type
  | .several types =>
    match types.find? (· ≠ .null) with
    | some type => some type
    | none => types.head?

inductive Additional (σ : Type) where
  | flag (allowed : Bool)
  | schema (value : σ)
deriving Repr

/-- The keywords of a schema whose parts are schemas of type `σ`. -/
structure Keywords (σ : Type) where
  type : Option TypeSet := none
  format : Option String := none
  description : Option String := none
  default : Option Literal := none
  properties : List (String × σ) := []
  required : List String := []
  additional : Option (Additional σ) := none
  items : Option σ := none
  uniqueItems : Option Bool := none
  allOf : List σ := []
  oneOf : List σ := []
  anyOf : List σ := []
  values : List Literal := []
deriving Repr

inductive Schema where
  | ref (pointer : String)
  | inline (keywords : Keywords Schema)

instance : Inhabited Schema := ⟨.inline {}⟩

def Additional.map {σ τ : Type} (f : σ → τ) : Additional σ → Additional τ
  | .flag allowed => .flag allowed
  | .schema value => .schema (f value)

def Keywords.map {σ τ : Type} (f : σ → τ) (k : Keywords σ) : Keywords τ where
  type := k.type
  format := k.format
  description := k.description
  default := k.default
  properties := k.properties.map fun (name, part) => (name, f part)
  required := k.required
  additional := k.additional.map (Additional.map f)
  items := k.items.map f
  uniqueItems := k.uniqueItems
  allOf := k.allOf.map f
  oneOf := k.oneOf.map f
  anyOf := k.anyOf.map f
  values := k.values

namespace Schema

variable {α : Type} (onRef : String → α) (onInline : Keywords α → α)

mutual

/-- Replaces each reference and, from the inside outwards, each set of keywords. -/
def fold : Schema → α
  | .ref pointer => onRef pointer
  | .inline keywords => onInline (foldKeywords keywords)

def foldKeywords : Keywords Schema → Keywords α
  | ⟨type, format, description, default, properties, required, additional, items, uniqueItems, allOf,
      oneOf, anyOf, values⟩ =>
    ⟨type, format, description, default, foldProperties properties, required,
      foldAdditional additional, foldItems items, uniqueItems, foldList allOf, foldList oneOf,
      foldList anyOf, values⟩

def foldList : List Schema → List α
  | [] => []
  | part :: rest => fold part :: foldList rest

def foldProperties : List (String × Schema) → List (String × α)
  | [] => []
  | (name, part) :: rest => (name, fold part) :: foldProperties rest

def foldItems : Option Schema → Option α
  | none => none
  | some part => some (fold part)

def foldAdditional : Option (Additional Schema) → Option (Additional α)
  | none => none
  | some (.flag allowed) => some (.flag allowed)
  | some (.schema part) => some (.schema (fold part))

end

theorem fold_list (parts : List Schema) :
    foldList onRef onInline parts = parts.map (fold onRef onInline) := by
  induction parts with
  | nil => rfl
  | cons part rest ih => simp [foldList, ih]

theorem fold_properties (parts : List (String × Schema)) :
    foldProperties onRef onInline parts =
      parts.map fun (name, part) => (name, fold onRef onInline part) := by
  induction parts with
  | nil => rfl
  | cons entry rest ih => simp [foldProperties, ih]

theorem fold_keywords (k : Keywords Schema) :
    foldKeywords onRef onInline k = k.map (fold onRef onInline) := by
  obtain ⟨_, _, _, _, _, _, additional, items, _, _, _, _, _⟩ := k
  simp only [foldKeywords, Keywords.map, fold_list, fold_properties]
  congr
  · rcases additional with _ | _ | _ <;> rfl
  · cases items <;> rfl

theorem fold_ref (pointer : String) : fold onRef onInline (.ref pointer) = onRef pointer := rfl

theorem fold_inline (k : Keywords Schema) :
    fold onRef onInline (.inline k) = onInline (k.map (fold onRef onInline)) := by
  rw [← fold_keywords]
  rfl

end Schema

/-- The name that a pointer ends with: its last segment. -/
def pointerName (pointer : String) : String :=
  String.ofList (Text.afterLast '/' pointer.toList)

end ServerScaffold.Api
