import ServerScaffold.Source.Json
import ServerScaffold.Source.Typing
import ServerScaffold.Source.Yaml.Compose

/-!
Readers of trees: what is expected of a document, and what comes out of it. The two formats differ
in a few rules, which are kept here: in JSON a list may stand for a record, in YAML every scalar may
be taken as a text and nothing at all may stand for an empty collection.
-/
namespace ServerScaffold.Source

inductive Format where
  | json | yaml
deriving DecidableEq, Repr

structure Origin where
  format : Format
  anchors : List (Nat × Tree) := []
  aliasLimit : Nat := 0

/-- Counts the aliases that have been followed. -/
abbrev Reading := StateT Nat (Except Fault)

/-- Reads a tree of a document, with a bound on the nesting of collections. -/
abbrev Reader (α : Type) := Origin → Nat → Tree → Reading α

namespace Reader

def resolve (from_ : Origin) : Tree → Reading Tree
  | .alias anchor => do
    let followed := (← get) + 1
    set followed
    if from_.aliasLimit < followed then throw .tooDeep
    match from_.anchors.lookup anchor with
    | some tree => return tree
    | none => throw .unreadable
  | tree => return tree

/-- The tree with its alias followed and its own tag dropped. -/
def untagged (from_ : Origin) (tree : Tree) : Reading Tree := do
  match ← resolve from_ tree with
  | .tagged collection => return collection
  | tree => return tree

def unexpected (expected : String) : Tree → Fault
  | .atom value => .mismatch (.atom value) expected
  | .list _ _ => .mismatch .list expected
  | .map _ _ => .mismatch .map expected
  | .broken _ fault _ => fault
  | _ => .unreadable

def raise : Option Fault → Reading Unit
  | none => return ()
  | some fault => throw fault

def inner : Nat → Reading Nat
  | 0 => throw .tooDeep
  | depth + 1 => return depth

def text : Reader String := fun from_ _ tree => do
  match ← untagged from_ tree with
  | .atom (.text value) => return value
  | .scalar s => return s.text
  | tree => throw (unexpected "a string" tree)

def bool : Reader Bool := fun from_ _ tree => do
  match ← untagged from_ tree with
  | .atom (.bool value) => return value
  | .scalar s =>
    match s.bool? with
    | some value => return value
    | none => throw .unreadable
  | tree => throw (unexpected "a boolean" tree)

def optional {α : Type} (read : Reader α) : Reader (Option α) := fun from_ depth tree => do
  let tree ← resolve from_ tree
  match tree with
  | .absent | .atom .null => return none
  | .scalar s =>
    match s.isAbsent? with
    | some true => return none
    | some false => return some (← read from_ depth tree)
    | none => throw .unreadable
  | tree => return some (← read from_ depth tree)

def list {α : Type} (read : Reader α) : Reader (List α) := fun from_ depth tree => do
  match ← untagged from_ tree with
  | .absent => return []
  | .scalar s => if s.isBlank then return [] else throw .unreadable
  | .list items stop =>
    let depth ← inner depth
    let values ← items.mapM (read from_ depth)
    raise stop
    return values
  | tree => throw (unexpected "a sequence" tree)

def key : Reader String := fun from_ depth tree =>
  match from_.format, tree with
  | .json, .atom (.text value) => return value
  | .json, .broken .quote fault _ => throw fault
  | .json, _ => throw .keyNotText
  | .yaml, tree => text from_ depth tree

/-- The entries of a map in their order, repeated keys included. -/
def entries {α : Type} (read : Reader α) : Reader (List (String × α)) :=
  fun from_ depth tree => do
    match ← untagged from_ tree with
    | .absent => return []
    | .scalar s => if s.isBlank then return [] else throw .unreadable
    | .map found stop =>
      let depth ← inner depth
      let values ← found.mapM fun (k, value) => do
        return (← key from_ depth k, ← read from_ depth value)
      raise stop
      return values
    | tree => throw (unexpected "a map" tree)

/-- Passes over a tree. A tree of YAML is known to be whole. -/
def skip (from_ : Origin) (tree : Tree) : Reading Unit :=
  match from_.format with
  | .json => raise tree.skipFault
  | .yaml => return ()

/-- A field of a record: how its value changes the record read so far. A required field may not be
missing; a counted one may be missing from a map, but not from a list. -/
structure Field (σ : Type) where
  name : String
  required : Bool
  counted : Bool
  read : Reader (σ → σ)

def field {σ α : Type} (name : String) (read : Reader α) (put : α → σ → σ) : Field σ :=
  ⟨name, false, false, fun from_ depth tree => return put (← read from_ depth tree)⟩

def counted {σ α : Type} (name : String) (read : Reader α) (put : α → σ → σ) : Field σ :=
  { field name read put with counted := true }

def needed {σ α : Type} (name : String) (read : Reader α) (put : α → σ → σ) : Field σ :=
  { field name read put with required := true, counted := true }

/-- Reads the entries of a record. A field may come once; what is no field is passed over. -/
def fieldEntries {σ : Type} (fields : List (Field σ)) (from_ : Origin) (depth : Nat) :
    List (Tree × Tree) → List String → σ → Reading (List String × σ)
  | [], seen, record => return (seen, record)
  | (k, value) :: rest, seen, record => do
    let name ← key from_ depth k
    match fields.find? (·.name == name) with
    | none =>
      skip from_ value
      fieldEntries fields from_ depth rest seen record
    | some found =>
      if seen.contains name then throw (.duplicateField name)
      let put ← found.read from_ depth value
      fieldEntries fields from_ depth rest (name :: seen) (put record)

/-- What is wrong with a list that stands for a record, after its last field. -/
def afterFields (rest : List Tree) (stop : Option Fault) : Option Fault :=
  match rest, stop with
  | [], none => none
  | [], some .endInList => some .endInList
  | [], some .trailingComma => some .trailingComma
  | _, _ => some .trailingText

def countOf (label : String) (fields : Nat) : String :=
  label ++ " with " ++ String.ofList (Number.natText fields) ++
    if fields = 1 then " element" else " elements"

/-- Reads a list that stands for a record, field by field. Fields that are not counted may be missing
at its end. -/
def fieldItems {σ : Type} (expected : String) (from_ : Origin) (depth : Nat)
    (stop : Option Fault) : Nat → List (Field σ) → List Tree → σ → Reading σ
  | _, [], rest, record => do
    raise (afterFields rest stop)
    return record
  | length, fields@(_ :: _), [], record => do
    raise stop
    match fields.findIdx? (·.counted) with
    | some more => throw (.wrongLength (length + more) expected)
    | none => return record
  | length, found :: fields, item :: rest, record => do
    let put ← found.read from_ depth item
    fieldItems expected from_ depth stop (length + 1) fields rest (put record)

/-- Reads a record. `start` holds what the fields are when they are missing. -/
def record {σ : Type} (label : String) (fields : List (Field σ)) (start : σ) : Reader σ :=
  fun from_ depth tree => do
    let readMap (found : List (Tree × Tree)) (stop : Option Fault) (depth : Nat) : Reading σ := do
      let (seen, record) ← fieldEntries fields from_ depth found [] start
      raise stop
      match fields.find? fun field => field.required && !seen.contains field.name with
      | some missing => throw (.missingField missing.name)
      | none => return record
    match ← untagged from_ tree with
    | .absent => readMap [] none depth
    | .scalar s => if s.isBlank then readMap [] none depth else throw .unreadable
    | .map found stop => readMap found stop (← inner depth)
    | .list items stop =>
      match from_.format with
      | .json =>
        let depth ← inner depth
        fieldItems (countOf label fields.length) from_ depth stop 0 fields items start
      | .yaml => throw .unreadable
    | tree => throw (unexpected label tree)

def chosen {α : Type} (choices : List (String × α)) (name : String) : Reading α :=
  match choices.lookup name with
  | some value => return value
  | none => throw (.unknownChoice name (choices.map (·.1)))

/-- Reads one of several names. In JSON the name may stand as the only key of a map, with a null. -/
def choice {α : Type} (choices : List (String × α)) : Reader α := fun from_ depth tree => do
  match ← resolve from_ tree with
  | .scalar s =>
    match s.choice? with
    | some name => chosen choices name
    | none => throw .unreadable
  | .atom (.text name) => chosen choices name
  | .map found stop =>
    match from_.format with
    | .yaml => throw .unreadable
    | .json =>
      let _ ← inner depth
      match found with
      | [] => throw (if stop = some .endInMap then .endInValue else .expectedValue)
      | (k, value) :: rest =>
        let choice ← chosen choices (← key from_ depth k)
        match value with
        | .atom .null =>
          match rest, stop with
          | [], none => return choice
          | [], some .endInMap => throw .endInMap
          | _, _ => throw .expectedValue
        | value => throw (unexpected "unit" value)
  | .broken .quote fault _ | .broken .nothing fault _ => throw fault
  | .atom _ | .broken .other _ _ | .list _ _ => throw .expectedValue
  | _ => throw .unreadable

/-- Reads a value without expecting anything of it. -/
def value (from_ : Origin) : Nat → Tree → Reading Value
  | depth, tree => do
    match ← resolve from_ tree with
    | .absent => return .atom .null
    | .atom value => return .atom value
    | .scalar s =>
      match s.atom? with
      | some value => return .atom value
      | none => throw .unreadable
    | .list items stop =>
      match depth with
      | 0 => throw .tooDeep
      | depth + 1 =>
        let values ← items.mapM (value from_ depth)
        raise stop
        return .list values
    | .map found stop =>
      match depth with
      | 0 => throw .tooDeep
      | depth + 1 =>
        let values ← found.mapM fun (k, item) => do
          let k : Value ← match from_.format with
            | .json => (Value.atom ∘ Atom.text) <$> key from_ depth k
            | .yaml => value from_ depth k
          return (k, ← value from_ depth item)
        raise stop
        return .map values
    | .broken _ fault _ => throw fault
    | _ => throw .unreadable

/-- Reads a value and takes it for the first alternative that it fits. -/
def alternative {α : Type} (kind : String) (take? : Value → Option α) : Reader α :=
  fun from_ depth tree => do
    match take? (← value from_ depth tree) with
    | some found => return found
    | none => throw (.noAlternative kind)

end Reader

/-- Reads a JSON text. Nothing but white space may follow the document. -/
def fromJson {α : Type} (read : Reader α) (text : String) : Except Fault α := do
  let (tree, rest) := Json.read text
  let (found, _) ← (read { format := .json } 127 tree).run 0
  match rest with
  | some rest => if (Json.skipSpace rest).isEmpty then return found else throw .trailingText
  | none => throw .endInValue

/-- Reads a YAML text, which must hold one document. -/
def fromYaml {α : Type} (read : Reader α) (text : String) : Except Fault α := do
  match Yaml.read? text with
  | none => throw .unreadable
  | some found =>
    let origin : Origin := ⟨.yaml, found.anchors, found.size * 100⟩
    let (found, _) ← (read origin 128 found.root).run 0
    return found

end ServerScaffold.Source
