import ServerScaffold.Source.Yaml.Scalar

/-!
The tokens of a YAML text. Indentation turns into explicit starts and ends of blocks. A key that is
not marked by `?` is recognised only at its colon, so that the marks of the key, and of the mapping it
opens, are put in front of tokens already read.
-/
namespace ServerScaffold.Source.Yaml

inductive Token where
  | version (major minor : Nat)
  | handle (name : String) (expansion : List UInt8)
  | documentStart | documentEnd
  | blockList | blockMap | blockEnd
  | flowList | flowListEnd | flowMap | flowMapEnd
  | blockItem | flowComma | key | value
  | alias (name : String)
  | anchor (name : String)
  | tag (handle : String) (suffix : List UInt8)
  | scalar (text : String) (style : Style)
deriving DecidableEq, Repr

/-- A place where a key without a mark may have begun. -/
structure KeyStart where
  /-- The key is the only thing that can stand there. -/
  required : Bool
  position : Nat
  index : Nat
  line : Nat
  column : Nat

structure Scanner where
  at_ : Cursor
  tokens : List Token
  /-- The column of the present block, -1 outside of all blocks. -/
  indent : Int
  outer : List Int
  keyAllowed : Bool
  /-- The possible key of the present level, and those of the flow collections around it. -/
  keyStart : Option KeyStart
  outerKeys : List (Option KeyStart)

namespace Scanner

def start (text : List Char) : Scanner := ⟨.start text, [], -1, [], true, none, []⟩

def inFlow (s : Scanner) : Bool := !s.outerKeys.isEmpty

def push (s : Scanner) (token : Token) : Scanner := { s with tokens := token :: s.tokens }

def insertAt (s : Scanner) (position : Nat) (token : Token) : Scanner :=
  let later := s.tokens.length - position
  { s with tokens := s.tokens.take later ++ token :: s.tokens.drop later }

/-- A key without a mark ends on its line and within 1024 bytes. -/
def KeyStart.isStale (key : KeyStart) (at_ : Cursor) : Bool :=
  key.line < at_.line || key.index + 1024 < at_.index

def dropStale? (at_ : Cursor) : Option KeyStart → Option (Option KeyStart)
  | none => some none
  | some key =>
    if KeyStart.isStale key at_ then (if key.required then none else some none) else some (some key)

/-- Gives up the possible keys that can no longer be keys. -/
def dropStaleKeys? (s : Scanner) : Option Scanner := do
  let keyStart ← dropStale? s.at_ s.keyStart
  let outerKeys ← s.outerKeys.mapM (dropStale? s.at_)
  return { s with keyStart, outerKeys }

def dropKey? (s : Scanner) : Option Scanner :=
  if s.keyStart.any (·.required) then none else some { s with keyStart := none }

def markKey? (s : Scanner) : Option Scanner :=
  if s.keyAllowed then do
    let s ← s.dropKey?
    let required := !s.inFlow && s.indent == (s.at_.column : Int)
    let key : KeyStart := ⟨required, s.tokens.length, s.at_.index, s.at_.line, s.at_.column⟩
    return { s with keyStart := some key }
  else some s

def openBlock (s : Scanner) (column position : Nat) (token : Token) : Scanner :=
  if !s.inFlow && s.indent < (column : Int) then
    { s.insertAt position token with indent := column, outer := s.indent :: s.outer }
  else s

def closeBlocks (column : Int) : Nat → Scanner → Scanner
  | 0, s => s
  | steps + 1, s =>
    if !s.inFlow && column < s.indent then
      closeBlocks column steps
        { s.push .blockEnd with indent := s.outer.headD (-1), outer := s.outer.tail }
    else s

def closeBlocksTo (s : Scanner) (column : Int) : Scanner := closeBlocks column s.outer.length s

def skip (s : Scanner) (count : Nat) : Scanner := { s with at_ := s.at_.skip count }

/-- Moves to the next token. A line may begin with a byte order mark. Tabs count as gaps except where
a key may begin in a block. -/
def skipGaps : Nat → Scanner → Scanner
  | 0, s => s
  | steps + 1, s =>
    let at_ := if s.at_.column == 0 && s.at_.sees (· == '\uFEFF') then s.at_.skip 1 else s.at_
    let tabs := s.inFlow || !s.keyAllowed
    let at_ := (at_.skipWhile fun c => c == ' ' || tabs && c == '\t').skipComment
    if at_.sees isBreak then
      skipGaps steps
        { s with at_ := at_.skipBreak, keyAllowed := s.keyAllowed || !s.inFlow }
    else { s with at_ := at_ }

/-- Leaves all blocks, as the markers of a document do. -/
def leaveBlocks? (s : Scanner) : Option Scanner := do
  let s ← (s.closeBlocksTo (-1)).dropKey?
  return { s with keyAllowed := false }

def markerToken? (s : Scanner) (token : Token) : Option Scanner := do
  return ((← s.leaveBlocks?).skip 3).push token

def flowStart? (s : Scanner) (token : Token) : Option Scanner := do
  let s ← s.markKey?
  return ({ s with keyStart := none, outerKeys := s.keyStart :: s.outerKeys,
                   keyAllowed := true }.skip 1).push token

def flowEnd? (s : Scanner) (token : Token) : Option Scanner := do
  let s ← s.dropKey?
  let s := match s.outerKeys with
    | key :: outerKeys => { s with keyStart := key, outerKeys }
    | [] => s
  return ({ s with keyAllowed := false }.skip 1).push token

def flowComma? (s : Scanner) : Option Scanner := do
  let s ← s.dropKey?
  return ({ s with keyAllowed := true }.skip 1).push .flowComma

def blockItem? (s : Scanner) : Option Scanner := do
  if !s.inFlow && !s.keyAllowed then none
  let s ← (s.openBlock s.at_.column s.tokens.length .blockList).dropKey?
  return ({ s with keyAllowed := true }.skip 1).push .blockItem

def markedKey? (s : Scanner) : Option Scanner := do
  if !s.inFlow && !s.keyAllowed then none
  let s ← (s.openBlock s.at_.column s.tokens.length .blockMap).dropKey?
  return ({ s with keyAllowed := !s.inFlow }.skip 1).push .key

def value? (s : Scanner) : Option Scanner :=
  match s.keyStart with
  | some key =>
    let s := (s.insertAt key.position .key).openBlock key.column key.position .blockMap
    some (({ s with keyStart := none, keyAllowed := false }.skip 1).push .value)
  | none =>
    if !s.inFlow && !s.keyAllowed then none
    else
      let s := s.openBlock s.at_.column s.tokens.length .blockMap
      some (({ s with keyAllowed := !s.inFlow }.skip 1).push .value)

def anchorName? (s : Scanner) (make : String → Token) : Option Scanner := do
  let s := { ← s.markKey? with keyAllowed := false }
  let at_ := s.at_.skip 1
  let name := at_.rest.takeWhile isNameChar
  let at_ := at_.skip name.length
  let ends := at_.endsWord 0 || at_.sees fun c =>
    c == '?' || c == ':' || c == ',' || c == ']' || c == '\x7d' || c == '%' || c == '@' ||
      c == '\x60'
  if name.isEmpty || !ends then none
  else return { s with at_ }.push (make (String.ofList name))

def isTagChar (verbatim : Bool) (c : Char) : Bool :=
  isNameChar c || c == ';' || c == '/' || c == '?' || c == ':' || c == '@' || c == '&' ||
    c == '=' || c == '+' || c == '$' || c == '.' || c == '%' || c == '!' || c == '~' || c == '*' ||
    c == '\x27' || c == '(' || c == ')' || verbatim && (c == ',' || c == '[' || c == ']')

/-- The number of bytes of a character of UTF-8, by its first byte. -/
def byteCount? (lead : Nat) : Option Nat :=
  if lead < 0x80 then some 1
  else if lead < 0xC0 then none
  else if lead < 0xE0 then some 2
  else if lead < 0xF0 then some 3
  else if lead < 0xF8 then some 4
  else none

/-- The bytes of a tag. Of a character written by escapes, `pending` bytes are still to come. -/
def tagBytes? (pending : Nat) : List Char → Option (List UInt8)
  | [] => if pending = 0 then some [] else none
  | '%' :: a :: b :: rest => do
    let byte := (← digitIn? 16 a) * 16 + (← digitIn? 16 b)
    let pending ←
      if pending = 0 then (byteCount? byte).map (· - 1)
      else if 0x80 ≤ byte ∧ byte < 0xC0 then some (pending - 1) else none
    return UInt8.ofNat byte :: (← tagBytes? pending rest)
  | c :: rest =>
    if pending ≠ 0 ∨ c = '%' then none
    else (tagBytes? 0 rest).map (String.utf8EncodeChar c ++ ·)

/-- Reads a tag's text; its bytes end before a zero byte. -/
def tagText? (verbatim : Bool) (at_ : Cursor) : Option (List UInt8 × Cursor) := do
  let found := at_.rest.takeWhile (isTagChar verbatim)
  return ((← tagBytes? 0 found).takeWhile (· != 0), at_.skip found.length)

/-- Reads `!`, `!name` or `!name!`. -/
def tagHandle? (at_ : Cursor) : Option (List Char × Cursor) :=
  if at_.sees (· == '!') then
    let name := (at_.rest.drop 1).takeWhile isNameChar
    let after := at_.skip (name.length + 1)
    if after.sees (· == '!') then some ('!' :: name ++ ['!'], after.skip 1)
    else some ('!' :: name, after)
  else none

/-- Reads a tag's text where something must be written, although its bytes may be none. -/
def someTagText? (verbatim : Bool) (at_ : Cursor) : Option (List UInt8 × Cursor) :=
  if at_.sees (isTagChar verbatim) then tagText? verbatim at_ else none

def tag? (s : Scanner) : Option Scanner := do
  let s := { ← s.markKey? with keyAllowed := false }
  let (handle, suffix, at_) ←
    if s.at_.startsWith ['!', '<'] then do
      let (suffix, at_) ← someTagText? true (s.at_.skip 2)
      if at_.sees (· == '>') then some ([], suffix, at_.skip 1) else none
    else do
      let (handle, at_) ← tagHandle? s.at_
      if 1 < handle.length && handle.getLast? == some '!' then
        let (suffix, at_) ← someTagText? false at_
        some (handle, suffix, at_)
      else
        let (suffix, at_) ← tagText? false at_
        let suffix := (handle.drop 1).flatMap String.utf8EncodeChar ++ suffix
        if suffix.isEmpty then some ([], ['!'].flatMap String.utf8EncodeChar, at_)
        else some (['!'], suffix, at_)
  if at_.endsWord 0 || s.inFlow && at_.sees (· == ',') then
    return { s with at_ }.push (.tag (String.ofList handle) suffix)
  else none

def block? (s : Scanner) (folded : Bool) : Option Scanner := do
  let s := { ← s.dropKey? with keyAllowed := true }
  let (text, at_) ← blockScalar? folded s.indent s.at_
  return { s with at_ }.push (.scalar (String.ofList text) (if folded then .folded else .literal))

def quoted? (s : Scanner) (quote : Char) : Option Scanner := do
  let s := { ← s.markKey? with keyAllowed := false }
  let (text, at_) ← quotedScalar? quote s.at_
  return { s with at_ }.push (.scalar (String.ofList text) .quoted)

def plain? (s : Scanner) : Option Scanner := do
  let s := { ← s.markKey? with keyAllowed := false }
  let (text, broken, at_) ← plainScalar? ⟨s.inFlow, s.indent + 1⟩ s.at_
  return { s with at_, keyAllowed := broken }.push (.scalar (String.ofList text) .plain)

def shortNumber? (at_ : Cursor) : Option (Nat × Cursor) :=
  let digits := at_.rest.takeWhile fun c => '0' ≤ c && c ≤ '9'
  if digits.isEmpty || 9 < digits.length then none
  else some (digits.foldl (fun n c => 10 * n + (c.toNat - '0'.toNat)) 0, at_.skip digits.length)

def versionDirective? (at_ : Cursor) : Option (Token × Cursor) := do
  let (major, at_) ← shortNumber? (at_.skipWhile isGap)
  if !at_.sees (· == '.') then none
  else
    let (minor, at_) ← shortNumber? (at_.skip 1)
    return (.version major minor, at_)

def handleDirective? (at_ : Cursor) : Option (Token × Cursor) := do
  let (handle, at_) ← tagHandle? (at_.skipWhile isGap)
  if handle != ['!'] && handle.getLast? != some '!' || !at_.sees isGap then none
  else
    let at_ := at_.skipWhile isGap
    let (expansion, after) ← someTagText? true at_
    if after.endsWord 0 then some (.handle (String.ofList handle) expansion, after) else none

def directive? (s : Scanner) : Option Scanner := do
  let s ← s.leaveBlocks?
  let at_ := s.at_.skip 1
  let name := at_.rest.takeWhile isNameChar
  let at_ := at_.skip name.length
  if !at_.endsWord 0 then none
  else
    let (token, at_) ←
      if name = ['Y', 'A', 'M', 'L'] then versionDirective? at_
      else if name = ['T', 'A', 'G'] then handleDirective? at_
      else none
    return { s with at_ := ← at_.finishLine? }.push token

/-- Characters that no plain scalar begins with, save `-`, `?` and `:` before the rest of a word. -/
def isIndicator (c : Char) : Bool :=
  isGap c || c == '-' || c == '?' || c == ':' || c == ',' || c == '[' || c == ']' || c == '\x7b' ||
    c == '\x7d' || c == '#' || c == '&' || c == '*' || c == '!' || c == '|' || c == '>' ||
    c == '\x27' || c == '"' || c == '%' || c == '@' || c == '\x60'

/-- Reads the token that begins with `c`. -/
def tokenAt? (s : Scanner) (c : Char) : Option Scanner :=
  let ends := s.at_.endsWord 1
  if c = '%' ∧ s.at_.column = 0 then s.directive?
  else if s.at_.atMarker '-' then s.markerToken? .documentStart
  else if s.at_.atMarker '.' then s.markerToken? .documentEnd
  else if c = '[' then s.flowStart? .flowList
  else if c = '\x7b' then s.flowStart? .flowMap
  else if c = ']' then s.flowEnd? .flowListEnd
  else if c = '\x7d' then s.flowEnd? .flowMapEnd
  else if c = ',' then s.flowComma?
  else if c = '-' ∧ ends then s.blockItem?
  else if c = '?' ∧ (s.inFlow ∨ ends) then s.markedKey?
  else if c = ':' ∧ (s.inFlow ∨ ends) then s.value?
  else if c = '*' then s.anchorName? .alias
  else if c = '&' then s.anchorName? .anchor
  else if c = '!' then s.tag?
  else if c = '|' ∧ !s.inFlow then s.block? false
  else if c = '>' ∧ !s.inFlow then s.block? true
  else if c = '\x27' ∨ c = '"' then s.quoted? c
  else if !isIndicator c || c == '-' && !s.at_.rest.tail.head?.any isGap ||
      !s.inFlow && (c == '?' || c == ':') && !ends then s.plain?
  else none

def finish? : Nat → Scanner → Option (List Token)
  | 0, _ => none
  | steps + 1, s => do
    let s ← (skipGaps (s.at_.rest.length + 1) s).dropStaleKeys?
    let s := s.closeBlocksTo s.at_.column
    match s.at_.peek? with
    | none => return (← s.leaveBlocks?).tokens.reverse
    | some c => finish? steps (← s.tokenAt? c)

end Scanner

/-- The tokens of a text; none if the text is not well formed. -/
def Token.scan? (text : List Char) : Option (List Token) :=
  if text.all isAllowed then Scanner.finish? (text.length + 1) (.start text) else none

end ServerScaffold.Source.Yaml
