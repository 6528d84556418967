import ServerScaffold.Source.Typing

/-!
The tree of a JSON text. Reading never fails: where the text goes wrong, the fault is put into the
tree and nothing after it is read.
-/
namespace ServerScaffold.Source.Json

def isSpace (c : Char) : Bool := c == ' ' || c == '\n' || c == '\t' || c == '\r'

def skipSpace (text : List Char) : List Char := text.dropWhile isSpace

def hexCode? (a b c d : Char) : Option Nat :=
  [a, b, c, d].foldlM (fun n digit => (digitIn? 16 digit).map (16 * n + ·)) 0

def escape? (c : Char) : Option Char :=
  if c = '"' ∨ c = '\\' ∨ c = '/' then some c
  else if c = 'b' then some '\x08'
  else if c = 'f' then some '\x0c'
  else if c = 'n' then some '\n'
  else if c = 'r' then some '\r'
  else if c = 't' then some '\t'
  else none

/-- A piece of a quoted text: a character, or a code unit of UTF-16. -/
inductive Piece where
  | char (c : Char)
  | unit (code : Nat)

inductive Ending where
  | closed | textEnd | badCode | badEscape | control
deriving DecidableEq

def Ending.fault? : Ending → Option Fault
  | .closed => none
  | .textEnd => some .endInText
  | .badCode | .badEscape => some .invalidEscape
  | .control => some .controlCharacter

/-- The pieces of a quoted text after its opening quote, its ending, and what follows it. -/
def pieces : List Char → List Piece × Ending × List Char
  | [] => ([], .textEnd, [])
  | '\\' :: 'u' :: a :: b :: c :: d :: rest =>
    match hexCode? a b c d with
    | some code =>
      let (more, ending, after) := pieces rest
      (.unit code :: more, ending, after)
    | none => ([], .badCode, [])
  | '\\' :: 'u' :: rest =>
    ([], if (rest.map Char.utf8Size).sum < 4 then .textEnd else .badCode, [])
  | '\\' :: c :: rest =>
    match escape? c with
    | some c =>
      let (more, ending, after) := pieces rest
      (.char c :: more, ending, after)
    | none => ([], .badEscape, [])
  | c :: rest =>
    if c = '"' then ([], .closed, rest)
    else if c = '\\' then ([], .textEnd, [])
    else if c.toNat < 0x20 then ([], .control, [])
    else
      let (more, ending, after) := pieces rest
      (.char c :: more, ending, after)

def isHighSurrogate (code : Nat) : Bool := 0xD800 ≤ code && code < 0xDC00

def isLowSurrogate (code : Nat) : Bool := 0xDC00 ≤ code && code < 0xE000

/-- The characters of a quoted text; `high` is a surrogate that waits for its other half. -/
def joinPieces (ending : Ending) : Option Nat → List Piece → Except Fault (List Char)
  | none, [] =>
    match ending.fault? with
    | none => .ok []
    | some fault => .error fault
  | some _, [] =>
    match ending with
    | .textEnd => .error .endInText
    | .badCode => .error .invalidEscape
    | _ => .error .unfinishedSurrogate
  | none, .char c :: rest => (joinPieces ending none rest).map (c :: ·)
  | some _, .char _ :: _ => .error .unfinishedSurrogate
  | none, .unit code :: rest =>
    if isLowSurrogate code then .error .loneSurrogate
    else if isHighSurrogate code then joinPieces ending (some code) rest
    else (joinPieces ending none rest).map (Char.ofNat code :: ·)
  | some high, .unit code :: rest =>
    if isLowSurrogate code then
      let joined := (high - 0xD800) * 0x400 + (code - 0xDC00) + 0x10000
      (joinPieces ending none rest).map (Char.ofNat joined :: ·)
    else .error .loneSurrogate

def quoted (text : List Char) : Tree × Option (List Char) :=
  let (found, ending, after) := pieces text
  let rest := if ending = .closed then some after else none
  match joinPieces ending none found with
  | .ok chars => (.atom (.text (String.ofList chars)), rest)
  | .error fault => (.broken .quote fault ending.fault?, rest)

/-- What remains of a word after its first character. -/
def word (value : Atom) : List Char → List Char → Tree × Option (List Char)
  | [], rest => (.atom value, some rest)
  | _ :: _, [] => (.broken .other .endInValue (some .endInValue), none)
  | w :: more, c :: rest =>
    if w = c then word value more rest
    else (.broken .other .expectedWord (some .expectedWord), none)

def numeral (negative : Bool) (text : List Char) : Tree × Option (List Char) :=
  match scanNumeral negative text with
  | .error bad => (.broken .other bad.reading (some bad.skipping), none)
  | .ok (found, rest) =>
    match found.number? with
    | some number => (.atom (.number number), some rest)
    | none => (.broken .other .numberOutOfRange none, some rest)

/-- A fault at which the text is given up. -/
def giveUp (lead : Lead) (fault : Fault) : Tree := .broken lead fault (some fault)

mutual

def value : Nat → List Char → Tree × Option (List Char)
  | 0, _ => (giveUp .nothing .endInValue, none)
  | steps + 1, text =>
    match skipSpace text with
    | [] => (giveUp .nothing .endInValue, none)
    | c :: rest =>
      if c = 'n' then word .null ['u', 'l', 'l'] rest
      else if c = 't' then word (.bool true) ['r', 'u', 'e'] rest
      else if c = 'f' then word (.bool false) ['a', 'l', 's', 'e'] rest
      else if c = '-' then numeral true rest
      else if isDigit c then numeral false (c :: rest)
      else if c = '"' then quoted rest
      else if c = '[' then
        let (found, stop, after) := items steps true rest
        (.list found stop, after)
      else if c = '\x7b' then
        let (found, stop, after) := entries steps true rest
        (.map found stop, after)
      else (giveUp .other .expectedValue, none)

def items : Nat → Bool → List Char → List Tree × Option Fault × Option (List Char)
  | 0, _, _ => ([], some .endInList, none)
  | steps + 1, first, text =>
    match skipSpace text with
    | [] => ([], some .endInList, none)
    | c :: rest =>
      if c = ']' then ([], none, some rest)
      else if first then item steps (c :: rest)
      else if c = ',' then
        match skipSpace rest with
        | [] => ([], some .endInValue, none)
        | c :: rest => if c = ']' then ([], some .trailingComma, none) else item steps (c :: rest)
      else ([], some .expectedListComma, none)

def item : Nat → List Char → List Tree × Option Fault × Option (List Char)
  | 0, _ => ([], some .endInList, none)
  | steps + 1, text =>
    match value steps text with
    | (found, none) => ([found], none, none)
    | (found, some rest) =>
      let (more, stop, after) := items steps false rest
      (found :: more, stop, after)

def entries : Nat → Bool → List Char → List (Tree × Tree) × Option Fault × Option (List Char)
  | 0, _, _ => ([], some .endInMap, none)
  | steps + 1, first, text =>
    match skipSpace text with
    | [] => ([], some .endInMap, none)
    | c :: rest =>
      if c = '\x7d' then ([], none, some rest)
      else if first then entry steps (c :: rest)
      else if c = ',' then
        match skipSpace rest with
        | [] => ([], some .endInValue, none)
        | c :: rest =>
          if c = '\x7d' then ([], some .trailingComma, none) else entry steps (c :: rest)
      else ([], some .expectedMapComma, none)

/-- One entry and those after it. At a key that is no text the text is given up. -/
def entry : Nat → List Char → List (Tree × Tree) × Option Fault × Option (List Char)
  | 0, _ => ([], some .endInMap, none)
  | steps + 1, text =>
    match text with
    | '"' :: rest =>
      match quoted rest with
      | (key, none) => ([(key, giveUp .nothing .endInText)], none, none)
      | (key, some rest) =>
        match skipSpace rest with
        | [] => ([(key, giveUp .nothing .endInMap)], none, none)
        | c :: rest =>
          if c = ':' then
            match value steps rest with
            | (found, none) => ([(key, found)], none, none)
            | (found, some rest) =>
              let (more, stop, after) := entries steps false rest
              ((key, found) :: more, stop, after)
          else ([(key, giveUp .nothing .expectedColon)], none, none)
    | _ => ([(giveUp .other .keyNotText, giveUp .nothing .keyNotText)], none, none)

end

/-- The tree of a text, and what stands after it. -/
def read (text : String) : Tree × Option (List Char) :=
  value (3 * text.length + 3) text.toList

end ServerScaffold.Source.Json
