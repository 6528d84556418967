import ServerScaffold.Source.Typing
import ServerScaffold.Source.Yaml.Cursor

/-!
The scalars of a YAML text: plain, quoted and block. Lines are folded: a single line break becomes a
space, and of several the first is dropped.
-/
namespace ServerScaffold.Source.Yaml

/-- White space inside a scalar that may yet turn out to end it. -/
structure Gap where
  blanks : List Char := []
  first : List Char := []
  more : List Char := []
  broken : Bool := false

/-- What a gap contributes once it is followed by more of the scalar. -/
def Gap.fold (gap : Gap) : List Char :=
  if gap.broken then
    if gap.first == ['\n'] then (if gap.more.isEmpty then [' '] else gap.more)
    else gap.first ++ gap.more
  else gap.blanks

/-- Reads gaps and line breaks. After a line break `tabAllowed` decides on tabs. -/
def readGap (tabAllowed : Nat → Bool) : Nat → Gap → Cursor → Option (Gap × Cursor)
  | 0, gap, at_ => some (gap, at_)
  | steps + 1, gap, at_ =>
    match at_.peek? with
    | none => some (gap, at_)
    | some c =>
      if isGap c then
        if gap.broken then
          if c == '\t' && !tabAllowed at_.column then none
          else readGap tabAllowed steps gap (at_.skip 1)
        else readGap tabAllowed steps { gap with blanks := gap.blanks ++ [c] } (at_.skip 1)
      else if isBreak c then
        let (read, after) := at_.readBreak
        let gap :=
          if gap.broken then { gap with more := gap.more ++ read }
          else { gap with blanks := [], first := read, broken := true }
        readGap tabAllowed steps gap after
      else some (gap, at_)

structure PlainPlace where
  inFlow : Bool
  /-- The least column of a continuation line. -/
  indent : Int

/-- Whether a plain scalar ends before the next character; none if a colon stands where it must
not. -/
def plainEnds? (place : PlainPlace) (at_ : Cursor) : Option Bool :=
  match at_.rest with
  | [] => some true
  | c :: next =>
    let beforeFlowMark :=
      next.head?.any fun d =>
        d == ',' || d == '?' || d == '[' || d == ']' || d == '\x7b' || d == '\x7d'
    if isGap c || isBreak c then some true
    else if place.inFlow && c == ':' && beforeFlowMark then none
    else
      some (c == ':' && at_.endsWord 1 ||
        place.inFlow && (c == ',' || c == '[' || c == ']' || c == '\x7b' || c == '\x7d'))

/-- Reads up to the next gap or to the end of the scalar; the text is backwards. -/
def readPlainWord (place : PlainPlace) :
    Nat → List Char → Cursor → Option (List Char × Cursor)
  | 0, text, at_ => some (text, at_)
  | steps + 1, text, at_ => do
    if ← plainEnds? place at_ then return (text, at_)
    match at_.peek? with
    | none => return (text, at_)
    | some c => readPlainWord place steps (c :: text) (at_.skip 1)

/-- Reads a plain scalar; the text is backwards, and `gap` is what stands before the next word. The
flag in the answer tells whether the scalar ended after a line break. -/
def readPlain (place : PlainPlace) :
    Nat → List Char → Gap → Cursor → Option (List Char × Bool × Cursor)
  | 0, text, gap, at_ => some (text, gap.broken, at_)
  | steps + 1, text, gap, at_ => do
    if at_.atAnyMarker || at_.sees (· == '#') then return (text, gap.broken, at_)
    let (word, after) ← readPlainWord place (at_.rest.length + 1) [] at_
    let (text, gap) :=
      if word.isEmpty then (text, gap) else (word ++ gap.fold.reverse ++ text, {})
    if !after.sees (fun c => isGap c || isBreak c) then return (text, gap.broken, after)
    let (gap, after) ←
      readGap (fun column => place.indent ≤ column) (after.rest.length + 1) gap after
    if !place.inFlow && (after.column : Int) < place.indent then return (text, gap.broken, after)
    readPlain place steps text gap after

/-- A plain scalar, whether it ended after a line break, and what follows it. -/
def plainScalar? (place : PlainPlace) (at_ : Cursor) : Option (List Char × Bool × Cursor) := do
  let (text, broken, after) ← readPlain place (at_.rest.length + 1) [] {} at_
  return (text.reverse, broken, after)

def hexCode? (count : Nat) (text : List Char) : Option Nat :=
  if text.length < count then none
  else (text.take count).foldlM (fun n c => (digitIn? 16 c).map (16 * n + ·)) 0

/-- The character of an escape and the number of characters that write it, after the backslash. -/
def escape? : List Char → Option (Char × Nat)
  | [] => none
  | c :: rest =>
    let coded (count : Nat) : Option (Char × Nat) := do
      let code ← hexCode? count rest
      if code.isValidChar then some (Char.ofNat code, count + 1) else none
    if c = '0' then some ('\x00', 1)
    else if c = 'a' then some ('\x07', 1)
    else if c = 'b' then some ('\x08', 1)
    else if c = 't' ∨ c = '\t' then some ('\t', 1)
    else if c = 'n' then some ('\n', 1)
    else if c = 'v' then some ('\x0b', 1)
    else if c = 'f' then some ('\x0c', 1)
    else if c = 'r' then some ('\r', 1)
    else if c = 'e' then some ('\x1b', 1)
    else if c = ' ' ∨ c = '"' ∨ c = '/' ∨ c = '\\' then some (c, 1)
    else if c = 'N' then some ('\x85', 1)
    else if c = '_' then some ('\xa0', 1)
    else if c = 'L' then some ('\u2028', 1)
    else if c = 'P' then some ('\u2029', 1)
    else if c = 'x' then coded 2
    else if c = 'u' then coded 4
    else if c = 'U' then coded 8
    else none

/-- Reads up to the next gap or the closing quote; the text is backwards. The flag tells that the
word ended with an escaped line break. -/
def readQuotedWord (quote : Char) :
    Nat → List Char → Cursor → Option (List Char × Bool × Cursor)
  | 0, _, _ => none
  | steps + 1, text, at_ =>
    match at_.rest with
    | [] => some (text, false, at_)
    | c :: rest =>
      if isGap c || isBreak c then some (text, false, at_)
      else if c = '\x27' ∧ quote = '\x27' ∧ rest.head? = some '\x27' then
        readQuotedWord quote steps ('\x27' :: text) (at_.skip 2)
      else if c = quote then some (text, false, at_)
      else if c = '\\' ∧ quote = '"' then
        if rest.head?.any isBreak then some (text, true, (at_.skip 1).skipBreak)
        else do
          let (escaped, length) ← escape? rest
          readQuotedWord quote steps (escaped :: text) (at_.skip (length + 1))
      else readQuotedWord quote steps (c :: text) (at_.skip 1)

/-- Reads a quoted scalar after its opening quote; the text is backwards. -/
def readQuoted (quote : Char) : Nat → List Char → Cursor → Option (List Char × Cursor)
  | 0, _, _ => none
  | steps + 1, text, at_ => do
    if at_.atAnyMarker || at_.rest.isEmpty then none
    else
      let (text, escapedBreak, after) ← readQuotedWord quote (at_.rest.length + 1) text at_
      if after.sees (· == quote) then return (text, after.skip 1)
      let (gap, after) ←
        readGap (fun _ => true) (after.rest.length + 1) { broken := escapedBreak } after
      readQuoted quote steps (gap.fold.reverse ++ text) after

def quotedScalar? (quote : Char) (at_ : Cursor) : Option (List Char × Cursor) := do
  let (text, after) ← readQuoted quote (at_.rest.length + 1) [] (at_.skip 1)
  return (text.reverse, after)

/-- What becomes of the line breaks that end a block scalar. -/
inductive Chomping where
  | strip | clip | keep
deriving DecidableEq

structure BlockHeader where
  chomping : Chomping
  indent : Option Nat

/-- The header of a block scalar: an indentation and a chomping mark, each at most once. -/
def blockHeader? (at_ : Cursor) : Option (BlockHeader × Cursor) :=
  let chomping (at_ : Cursor) : Chomping × Cursor :=
    if at_.sees (· == '+') then (.keep, at_.skip 1)
    else if at_.sees (· == '-') then (.strip, at_.skip 1)
    else (.clip, at_)
  let indent (at_ : Cursor) : Option (Option Nat × Cursor) :=
    match at_.peek? with
    | some c =>
      if c = '0' then none
      else if '1' ≤ c ∧ c ≤ '9' then some (some (c.toNat - '0'.toNat), at_.skip 1)
      else some (none, at_)
    | none => some (none, at_)
  if at_.sees fun c => c == '+' || c == '-' then do
    let (mark, after) := chomping at_
    let (width, after) ← indent after
    return (⟨mark, width⟩, after)
  else do
    match ← indent at_ with
    | (none, after) => return (⟨.clip, none⟩, after)
    | (some width, after) =>
      let (mark, after) := chomping after
      return (⟨mark, some width⟩, after)

/-- Reads the empty lines and the indentation before a line of a block scalar. While `indent` is
zero any number of spaces is indentation, and `widest` is the greatest number seen. -/
def readBlockBreaks (indent : Nat) :
    Nat → List Char → Nat → Cursor → Option (List Char × Nat × Cursor)
  | 0, _, _, _ => none
  | steps + 1, breaks, widest, at_ =>
    let spaces := (at_.rest.takeWhile (· == ' ')).length
    let at_ := at_.skip (if indent = 0 then spaces else min spaces (indent - at_.column))
    let widest := max widest at_.column
    if (indent = 0 ∨ at_.column < indent) ∧ at_.sees (· == '\t') then none
    else if at_.sees isBreak then
      let (read, after) := at_.readBreak
      readBlockBreaks indent steps (breaks ++ read) widest after
    else some (breaks, widest, at_)

/-- What a block scalar has come to: its text backwards, the break after its last line, the empty
lines after that, and whether its last line began with a gap. -/
structure Block where
  text : List Char
  lastBreak : List Char
  breaks : List Char
  gapBefore : Bool

def readBlockLines (folded : Bool) (indent : Nat) : Nat → Block → Cursor → Option (Block × Cursor)
  | 0, _, _ => none
  | steps + 1, block, at_ =>
    if at_.column ≠ indent ∨ at_.rest = [] then some (block, at_)
    else do
      let gapHere := at_.sees isGap
      let joint :=
        if folded && block.lastBreak == ['\n'] && !block.gapBefore && !gapHere then
          (if block.breaks.isEmpty then [' '] else block.breaks)
        else block.lastBreak ++ block.breaks
      let line := at_.rest.takeWhile fun c => !isBreak c
      let (lastBreak, after) := (at_.skip line.length).readBreak
      let (breaks, _, after) ← readBlockBreaks indent (after.rest.length + 1) [] 0 after
      readBlockLines folded indent steps
        ⟨line.reverse ++ joint.reverse ++ block.text, lastBreak, breaks, gapHere⟩ after

/-- Reads a block scalar; `parent` is the indentation of the collection it stands in. -/
def blockScalar? (folded : Bool) (parent : Int) (at_ : Cursor) : Option (List Char × Cursor) := do
  let (header, after) ← blockHeader? (at_.skip 1)
  let after ← after.finishLine?
  let given := match header.indent with
    | some width => (max parent 0).toNat + width
    | none => 0
  let (breaks, widest, after) ← readBlockBreaks given (after.rest.length + 1) [] 0 after
  let indent := if given = 0 then max (max widest (parent + 1).toNat) 1 else given
  let (block, after) ←
    readBlockLines folded indent (after.rest.length + 1) ⟨[], [], breaks, false⟩ after
  let tail := match header.chomping with
    | .strip => []
    | .clip => block.lastBreak
    | .keep => block.lastBreak ++ block.breaks
  return (block.text.reverse ++ tail, after)

end ServerScaffold.Source.Yaml
