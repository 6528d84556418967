import ServerScaffold.Source.Fault

/-!
A document as it stands in its text, before anything is expected of it. A text that breaks off, or
that goes wrong somewhere, still has a tree up to that place; the fault stands in the tree, so that
whoever reads the tree in order meets the first thing that is wrong, be it the text or its shape.
-/
namespace ServerScaffold.Source

inductive Style where
  | plain | quoted | literal | folded
deriving DecidableEq, Repr

/-- A scalar as written, whose type depends on what is expected. The tag is kept in bytes. -/
structure Scalar where
  text : String
  style : Style
  tag : Option (List UInt8)
deriving DecidableEq, Repr

/-- What a value that cannot be read begins with. -/
inductive Lead where
  | nothing | quote | other
deriving DecidableEq, Repr

inductive Tree where
  | absent
  | atom (value : Atom)
  | scalar (written : Scalar)
  /-- `stop` is the fault that stands where the list should go on or end. -/
  | list (items : List Tree) (stop : Option Fault)
  | map (entries : List (Tree × Tree)) (stop : Option Fault)
  | tagged (collection : Tree)
  | alias (anchor : Nat)
  /-- A value that gives `reading` to whoever reads it and `skipping` to whoever passes over it. -/
  | broken (lead : Lead) (reading : Fault) (skipping : Option Fault)

/-- A value read without anything being expected of it. -/
inductive Value where
  | atom (value : Atom)
  | list (items : List Value)
  | map (entries : List (Value × Value))
deriving Repr

mutual

def Value.height : Value → Nat
  | .atom _ => 1
  | .list items => Value.listHeight items + 1
  | .map entries => Value.entriesHeight entries + 1

def Value.listHeight : List Value → Nat
  | [] => 0
  | item :: rest => max item.height (Value.listHeight rest)

def Value.entriesHeight : List (Value × Value) → Nat
  | [] => 0
  | (key, value) :: rest => max (max key.height value.height) (Value.entriesHeight rest)

end

/-- In a list passed over, a comma must be followed by a value. -/
def Fault.skippingList : Fault → Fault
  | .trailingComma => .expectedValue
  | fault => fault

/-- In a map passed over, a comma must be followed by a key. -/
def Fault.skippingMap : Fault → Fault
  | .trailingComma => .keyNotText
  | .endInValue => .endInMap
  | fault => fault

mutual

/-- The fault met by passing over a tree of JSON. -/
def Tree.skipFault : Tree → Option Fault
  | .list items stop => Tree.skipItems items <|> stop.map Fault.skippingList
  | .map entries stop => Tree.skipEntries entries <|> stop.map Fault.skippingMap
  | .broken _ _ skipping => skipping
  | _ => none

def Tree.skipItems : List Tree → Option Fault
  | [] => none
  | item :: rest => item.skipFault <|> Tree.skipItems rest

def Tree.skipEntries : List (Tree × Tree) → Option Fault
  | [] => none
  | (.atom (.text _), value) :: rest => value.skipFault <|> Tree.skipEntries rest
  | (.broken .quote _ skipping, value) :: rest =>
    skipping <|> value.skipFault <|> Tree.skipEntries rest
  | _ :: _ => some .keyNotText

end

end ServerScaffold.Source
