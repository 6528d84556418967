import ServerScaffold.Literal
import ServerScaffold.Table

/-!
Fitting a value that has already been read to what is expected of it. Where several alternatives are
allowed they are tried on the same value, so nothing is said about why one does not fit.
-/
namespace ServerScaffold.Source

abbrev Fit (α : Type) := Value → Option α

namespace Fit

variable {α σ : Type}

def text : Fit String
  | .atom (.text value) => some value
  | _ => none

def bool : Fit Bool
  | .atom (.bool value) => some value
  | _ => none

def optional (fit : Fit α) : Fit (Option α)
  | .atom .null => some none
  | value => (fit value).map some

def list (fit : Fit α) : Fit (List α)
  | .list items => items.mapM fit
  | _ => none

def entries (fit : Fit α) : Fit (List (String × α))
  | .map found => found.mapM fun (key, value) => do return (← text key, ← fit value)
  | _ => none

def table (fit : Fit α) : Fit (Table α) := fun value => (entries fit value).map .ofList

def orElse (first second : Fit α) : Fit α := fun value => first value <|> second value

/-- A field of a record: how its value changes the record fitted so far. -/
structure Field (σ : Type) where
  name : String
  required : Bool
  fit : Fit (σ → σ)

def field (name : String) (fit : Fit α) (put : α → σ → σ) : Field σ :=
  ⟨name, false, fun value => (fit value).map put⟩

def needed (name : String) (fit : Fit α) (put : α → σ → σ) : Field σ :=
  { field name fit put with required := true }

/-- Which of some names a key means: a text means the name itself, a number without a minus sign its
position. -/
def nameAt? (names : List String) : Fit (Option String)
  | .atom (.text name) => some (if names.contains name then some name else none)
  | .atom (.number (.natural position)) => some names[position]?
  | _ => none

/-- Fits the entries of a record. A field may come once; what is no field is passed over. -/
def fieldEntries (fields : List (Field σ)) :
    List (Value × Value) → List String → σ → Option (List String × σ)
  | [], seen, record => some (seen, record)
  | (key, value) :: rest, seen, record => do
    match ← nameAt? (fields.map (·.name)) key with
    | none => fieldEntries fields rest seen record
    | some name =>
      let found ← fields.find? (·.name == name)
      if seen.contains name then none
      else fieldEntries fields rest (name :: seen) ((← found.fit value) record)

def mapRecord (fields : List (Field σ)) (start : σ) : Fit σ
  | .map found => do
    let (seen, record) ← fieldEntries fields found [] start
    if fields.all fun field => !field.required || seen.contains field.name then some record else none
  | _ => none

def fieldItems : List (Field σ) → List Value → σ → Option σ
  | [], [], record => some record
  | [], _ :: _, _ => none
  | fields, [], record => if fields.any (·.required) then none else some record
  | field :: fields, item :: rest, record => do fieldItems fields rest ((← field.fit item) record)

def listRecord (fields : List (Field σ)) (start : σ) : Fit σ
  | .list items => fieldItems fields items start
  | _ => none

/-- A record, given by its entries or by its fields in order. -/
def record (fields : List (Field σ)) (start : σ) : Fit σ :=
  orElse (mapRecord fields start) (listRecord fields start)

/-- One of several names, alone or as the only key of a map, with a null. -/
def choice (choices : List (String × α)) : Fit α
  | .atom (.text name) => choices.lookup name
  | .map [(key, .atom .null)] => do choices.lookup (← ← nameAt? (choices.map (·.1)) key)
  | _ => none

end Fit

end ServerScaffold.Source
