import ServerScaffold.Source.Tree

/-!
A place in a YAML text: what follows it, and where it is. Columns count characters, indices count
bytes.
-/
namespace ServerScaffold.Source.Yaml

def isBreak (c : Char) : Bool :=
  c == '\r' || c == '\n' || c == '\x85' || c == '\u2028' || c == '\u2029'

def isGap (c : Char) : Bool := c == ' ' || c == '\t'

/-- Characters of directive names, anchors and tag handles. -/
def isNameChar (c : Char) : Bool := c.isAlphanum || c == '-' || c == '_'

/-- Characters that may stand in a YAML text at all. -/
def isAllowed (c : Char) : Bool :=
  c == '\t' || c == '\n' || c == '\r' || (0x20 ≤ c.toNat && c.toNat ≤ 0x7E) || c == '\x85' ||
    (0xA0 ≤ c.toNat && c.toNat ≤ 0xFFFD) || 0x10000 ≤ c.toNat

structure Cursor where
  rest : List Char
  index : Nat
  line : Nat
  column : Nat

namespace Cursor

def start (text : List Char) : Cursor := ⟨text, 0, 0, 0⟩

def peek? (at_ : Cursor) : Option Char := at_.rest.head?

def sees (at_ : Cursor) (test : Char → Bool) : Bool := at_.rest.head?.any test

def startsWith (at_ : Cursor) (text : List Char) : Bool := text.isPrefixOf at_.rest

def skip (at_ : Cursor) (count : Nat) : Cursor :=
  let moved := at_.rest.take count
  ⟨at_.rest.drop count, moved.foldl (fun index c => index + c.utf8Size) at_.index, at_.line,
    at_.column + moved.length⟩

def skipWhile (at_ : Cursor) (test : Char → Bool) : Cursor :=
  at_.skip (at_.rest.takeWhile test).length

/-- Moves over a line break and gives its text, which is a line feed except for the two separators
of Unicode. -/
def readBreak (at_ : Cursor) : List Char × Cursor :=
  match at_.rest with
  | '\r' :: '\n' :: rest => (['\n'], ⟨rest, at_.index + 2, at_.line + 1, 0⟩)
  | c :: rest =>
    if isBreak c then
      ([if c == '\u2028' || c == '\u2029' then c else '\n'],
        ⟨rest, at_.index + c.utf8Size, at_.line + 1, 0⟩)
    else ([], at_)
  | [] => ([], at_)

def skipBreak (at_ : Cursor) : Cursor := at_.readBreak.2

/-- Whether a gap, a line break or the end stands `ahead` characters further. -/
def endsWord (at_ : Cursor) (ahead : Nat) : Bool :=
  match at_.rest.drop ahead with
  | [] => true
  | c :: _ => isGap c || isBreak c

def endsLine (at_ : Cursor) : Bool :=
  match at_.rest with
  | [] => true
  | c :: _ => isBreak c

def skipComment (at_ : Cursor) : Cursor :=
  if at_.sees (· == '#') then at_.skipWhile fun c => !isBreak c else at_

/-- Whether a line begins here with the given marker of a document. -/
def atMarker (at_ : Cursor) (mark : Char) : Bool :=
  at_.column == 0 && at_.startsWith [mark, mark, mark] && at_.endsWord 3

def atAnyMarker (at_ : Cursor) : Bool := at_.atMarker '-' || at_.atMarker '.'

/-- Moves over the gaps and the comment that may end a line, and over the line break. -/
def finishLine? (at_ : Cursor) : Option Cursor :=
  let after := (at_.skipWhile isGap).skipComment
  if after.endsLine then some after.skipBreak else none

end Cursor

end ServerScaffold.Source.Yaml
