import ServerScaffold.Number.Basic
import ServerScaffold.Text.Letter

/-!
Why a document cannot be read, and what is said about it. Only JSON documents are told apart by
their fault; of a YAML document it is only said that it cannot be read.
-/
namespace ServerScaffold.Source

inductive Atom where
  | null
  | bool (value : Bool)
  | number (value : Number)
  | text (value : String)
deriving DecidableEq, Repr

/-- What stood where something else was expected. -/
inductive Found where
  | atom (value : Atom)
  | list
  | map
deriving DecidableEq, Repr

inductive Fault where
  | endInList | endInMap | endInText | endInValue
  | expectedColon | expectedListComma | expectedMapComma | expectedWord | expectedValue
  | invalidEscape | invalidNumber | numberOutOfRange | controlCharacter | keyNotText
  | loneSurrogate | unfinishedSurrogate
  | trailingComma | trailingText | tooDeep
  | mismatch (found : Found) (expected : String)
  | missingField (name : String)
  | duplicateField (name : String)
  | wrongLength (length : Nat) (expected : String)
  | unknownChoice (name : String) (choices : List String)
  | noAlternative (kind : String)
  | unreadable
deriving DecidableEq, Repr

def hexDigits (n : Nat) : List Char := Nat.toDigits 16 n

/-- A text in quotes, with everything escaped that has no glyph of its own. -/
def quoted (text : String) : String :=
  let shown (c : Char) : List Char :=
    if c = '"' ∨ c = '\\' then ['\\', c]
    else if c = '\x00' then ['\\', '0']
    else if c = '\t' then ['\\', 't']
    else if c = '\r' then ['\\', 'r']
    else if c = '\n' then ['\\', 'n']
    else if Text.isPrintable c then [c]
    else "\\u\x7b".toList ++ hexDigits c.toNat ++ ['\x7d']
  String.ofList ('"' :: text.toList.flatMap shown ++ ['"'])

def Atom.describe : Atom → String
  | .null => "null"
  | .bool true => "boolean \x60true\x60"
  | .bool false => "boolean \x60false\x60"
  | .number (.double bits) =>
    "floating point \x60" ++ String.ofList (Number.doubleText bits) ++ "\x60"
  | .number integer => "integer \x60" ++ String.ofList integer.text ++ "\x60"
  | .text value => "string " ++ quoted value

def Found.describe : Found → String
  | .atom value => value.describe
  | .list => "sequence"
  | .map => "map"

def inTicks (name : String) : String := "\x60" ++ name ++ "\x60"

def Fault.message : Fault → String
  | .endInList => "EOF while parsing a list"
  | .endInMap => "EOF while parsing an object"
  | .endInText => "EOF while parsing a string"
  | .endInValue => "EOF while parsing a value"
  | .expectedColon => "expected " ++ inTicks ":"
  | .expectedListComma => "expected " ++ inTicks "," ++ " or " ++ inTicks "]"
  | .expectedMapComma => "expected " ++ inTicks "," ++ " or " ++ inTicks "\x7d"
  | .expectedWord => "expected ident"
  | .expectedValue => "expected value"
  | .invalidEscape => "invalid escape"
  | .invalidNumber => "invalid number"
  | .numberOutOfRange => "number out of range"
  | .controlCharacter => "control character (\\u0000-\\u001F) found while parsing a string"
  | .keyNotText => "key must be a string"
  | .loneSurrogate => "lone leading surrogate in hex escape"
  | .unfinishedSurrogate => "unexpected end of hex escape"
  | .trailingComma => "trailing comma"
  | .trailingText => "trailing characters"
  | .tooDeep => "recursion limit exceeded"
  | .mismatch found expected => "invalid type: " ++ found.describe ++ ", expected " ++ expected
  | .missingField name => "missing field " ++ inTicks name
  | .duplicateField name => "duplicate field " ++ inTicks name
  | .wrongLength length expected =>
    "invalid length " ++ String.ofList (Number.natText length) ++ ", expected " ++ expected
  | .unknownChoice name choices =>
    "unknown variant " ++ inTicks name ++ ", expected " ++
      String.intercalate " or " (choices.map inTicks)
  | .noAlternative kind => "data did not match any variant of untagged enum " ++ kind
  | .unreadable => "unreadable"

end ServerScaffold.Source
