import ServerScaffold.Source.Tree

/-!
Literals: the values that a document gives as defaults and as members of an enumeration, and their
text. The text is JSON without blanks, the names of an object in the order of their characters.
-/
namespace ServerScaffold

open Source (Atom Value)

inductive Literal where
  | atom (value : Atom)
  | list (items : List Literal)
  | object (entries : List (String × Literal))
deriving Repr

namespace Literal

instance : Inhabited Literal := ⟨.atom .null⟩

def escaped (c : Char) : List Char :=
  if c = '"' ∨ c = '\\' then ['\\', c]
  else if c = '\x08' then ['\\', 'b']
  else if c = '\x0c' then ['\\', 'f']
  else if c = '\n' then ['\\', 'n']
  else if c = '\r' then ['\\', 'r']
  else if c = '\t' then ['\\', 't']
  else if c.toNat < 0x20 then
    ['\\', 'u', '0', '0', Nat.digitChar (c.toNat / 16), Nat.digitChar (c.toNat % 16)]
  else [c]

def quotedText (text : List Char) : List Char := '"' :: text.flatMap escaped ++ ['"']

def atomText : Atom → List Char
  | .null => "null".toList
  | .bool true => "true".toList
  | .bool false => "false".toList
  | .number value => value.text
  | .text value => quotedText value.toList

mutual

def chars : Literal → List Char
  | .atom value => atomText value
  | .list items => '[' :: itemChars items ++ [']']
  | .object entries => '\x7b' :: entryChars entries ++ ['\x7d']

def itemChars : List Literal → List Char
  | [] => []
  | [item] => item.chars
  | item :: rest => item.chars ++ ',' :: itemChars rest

def entryChars : List (String × Literal) → List Char
  | [] => []
  | [(name, value)] => quotedText name.toList ++ ':' :: value.chars
  | (name, value) :: rest =>
    quotedText name.toList ++ ':' :: value.chars ++ ',' :: entryChars rest

end

def text (literal : Literal) : String := String.ofList literal.chars

/-- Puts an entry into an object whose names are in order; a name that is there loses its value. -/
def insertSorted (name : String) (value : Literal) :
    List (String × Literal) → List (String × Literal)
  | [] => [(name, value)]
  | entry :: rest =>
    if name < entry.1 then (name, value) :: entry :: rest
    else if name = entry.1 then (name, value) :: rest
    else entry :: insertSorted name value rest

/-- A value that stands alone. Numbers that are not finite are lost, and so is the sign of the integer
zero. -/
def ofAtom : Atom → Literal
  | .number (.negated 0) => .atom (.number (.natural 0))
  | .number (.double bits) =>
    if Number.isFinite bits then .atom (.number (.double bits)) else .atom .null
  | value => .atom value

mutual

/-- The literal of a value; none if a name in it is no text. -/
def ofValue? : Value → Option Literal
  | .atom value => some (ofAtom value)
  | .list items => (ofItems? items).map .list
  | .map entries => (ofEntries? [] entries).map .object

def ofItems? : List Value → Option (List Literal)
  | [] => some []
  | item :: rest => do return (← ofValue? item) :: (← ofItems? rest)

def ofEntries? (sorted : List (String × Literal)) :
    List (Value × Value) → Option (List (String × Literal))
  | [] => some sorted
  | (.atom (.text name), value) :: rest => do
    ofEntries? (insertSorted name (← ofValue? value) sorted) rest
  | _ :: _ => none

end

end Literal

end ServerScaffold
