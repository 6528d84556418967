import ServerScaffold.Source.Typing
import ServerScaffold.Source.Yaml.Token

/-!
The tree of a YAML text, composed from its tokens. An alias stays an alias; the trees that aliases
stand for are kept beside the tree, since a collection may contain an alias to itself.
-/
namespace ServerScaffold.Source.Yaml

/-- A composed document: its tree, the trees of its anchors, and its size, counting a scalar and an
alias once and a collection twice. -/
structure Composed where
  root : Tree
  anchors : List (Nat × Tree)
  size : Nat

structure Composer where
  tokens : List Token
  handles : List (String × List UInt8) := []
  /-- The number of each anchor name. A name that is used again takes the next free number, which
  the next new name takes as well. -/
  names : List (String × Nat) := []
  /-- Which anchored node a number means; the last one counts. -/
  owners : List (Nat × Nat) := []
  nodes : List (Nat × Tree) := []
  size : Nat := 0

abbrev Compose := StateT Composer Option

def peek? : Compose (Option Token) := return (← get).tokens.head?

def advance : Compose Unit := modify fun c => { c with tokens := c.tokens.tail }

def count (n : Nat) : Compose Unit := modify fun c => { c with size := c.size + n }

def take? (token : Token) : Compose Bool := do
  if (← peek?) = some token then
    advance
    return true
  else return false

def emptyScalar : Compose Tree := do
  count 1
  return .scalar ⟨"", .plain, none⟩

/-- Binds an anchor to the node that begins here, and numbers the node. -/
def bindAnchor (name : String) : Compose Nat := do
  let c ← get
  let number := c.names.length
  let names :=
    if c.names.any (·.1 == name) then
      c.names.map fun entry => if entry.1 == name then (name, number) else entry
    else c.names ++ [(name, number)]
  let serial := c.owners.length
  set { c with names, owners := (number, serial) :: c.owners }
  return serial

def expandTag? (handle : String) (suffix : List UInt8) : Compose (List UInt8) := do
  if handle = "" then return suffix
  match (← get).handles.lookup handle with
  | some expansion => return expansion ++ suffix
  | none => failure

/-- The anchor and the tag before a node, in either order. -/
def properties : Compose (Option String × Option (List UInt8)) := do
  match (← get).tokens with
  | .anchor name :: .tag handle suffix :: rest | .tag handle suffix :: .anchor name :: rest =>
    modify fun c => { c with tokens := rest }
    return (some name, some (← expandTag? handle suffix))
  | .anchor name :: rest =>
    modify fun c => { c with tokens := rest }
    return (some name, none)
  | .tag handle suffix :: rest =>
    modify fun c => { c with tokens := rest }
    return (none, some (← expandTag? handle suffix))
  | _ => return (none, none)

def collection (tag : Option (List UInt8)) (tree : Tree) : Compose Tree := do
  count 2
  return if (ownTag? tag).isSome then .tagged tree else tree

def opensBlockValue : Option Token → Bool
  | some .key | some .value | some .blockEnd => false
  | _ => true

mutual

/-- A node; `block` allows block collections, `flush` a list at the column of its key. -/
def node (block flush : Bool) : Nat → Compose Tree
  | 0 => failure
  | steps + 1 => do
    if let some (.alias name) ← peek? then
      advance
      count 1
      match (← get).names.lookup name with
      | some number => return .alias number
      | none => failure
    else
      let (anchor, tag) ← properties
      let serial ← anchor.mapM bindAnchor
      let tree ← content block flush anchor.isSome tag steps
      if let some serial := serial then
        modify fun c => { c with nodes := (serial, tree) :: c.nodes }
      return tree

/-- A node after its anchor and its tag. -/
def content (block flush anchored : Bool) (tag : Option (List UInt8)) : Nat → Compose Tree
  | 0 => failure
  | steps + 1 => do
    match ← peek? with
    | some (.scalar text style) =>
      advance
      count 1
      return .scalar ⟨text, style, tag⟩
    | some .flowList =>
      advance
      collection tag (.list (← flowItems true steps) none)
    | some .flowMap =>
      advance
      collection tag (.map (← flowEntries true steps) none)
    | token =>
      if flush ∧ token = some .blockItem then
        collection tag (.list (← flushItems steps) none)
      else if block ∧ token = some .blockList then
        advance
        collection tag (.list (← blockItems steps) none)
      else if block ∧ token = some .blockMap then
        advance
        collection tag (.map (← blockEntries steps) none)
      else if anchored ∨ tag.isSome then
        count 1
        return .scalar ⟨"", .plain, tag⟩
      else failure

def blockItems : Nat → Compose (List Tree)
  | 0 => failure
  | steps + 1 => do
    if ← take? .blockItem then
      let next ← peek?
      let item ←
        if next = some .blockItem ∨ next = some .blockEnd then emptyScalar
        else node true false steps
      return item :: (← blockItems steps)
    else if ← take? .blockEnd then return []
    else failure

def flushItems : Nat → Compose (List Tree)
  | 0 => failure
  | steps + 1 => do
    if ← take? .blockItem then
      let next ← peek?
      let item ←
        if next = some .blockItem ∨ !opensBlockValue next then emptyScalar
        else node true false steps
      return item :: (← flushItems steps)
    else return []

def blockEntries : Nat → Compose (List (Tree × Tree))
  | 0 => failure
  | steps + 1 => do
    if ← take? .key then
      let key ←
        if opensBlockValue (← peek?) then node true true steps else emptyScalar
      let value ← blockValue steps
      return (key, value) :: (← blockEntries steps)
    else if ← take? .blockEnd then return []
    else failure

def blockValue : Nat → Compose Tree
  | 0 => failure
  | steps + 1 => do
    if ← take? .value then
      if opensBlockValue (← peek?) then node true true steps else emptyScalar
    else emptyScalar

def flowItems (first : Bool) : Nat → Compose (List Tree)
  | 0 => failure
  | steps + 1 => do
    if ← take? .flowListEnd then return []
    if !first then
      if !(← take? .flowComma) then failure
    if ← take? .key then
      count 2
      let next ← peek?
      let key ←
        if next = some .value ∨ next = some .flowComma ∨ next = some .flowListEnd then
          advance
          emptyScalar
        else node false false steps
      let value ←
        if ← take? .value then
          let next ← peek?
          if next = some .flowComma ∨ next = some .flowListEnd then emptyScalar
          else node false false steps
        else emptyScalar
      return .map [(key, value)] none :: (← flowItems false steps)
    else if ← take? .flowListEnd then return []
    else
      let item ← node false false steps
      return item :: (← flowItems false steps)

def flowEntries (first : Bool) : Nat → Compose (List (Tree × Tree))
  | 0 => failure
  | steps + 1 => do
    if ← take? .flowMapEnd then return []
    if !first then
      if !(← take? .flowComma) then failure
    if ← take? .key then
      let next ← peek?
      let key ←
        if next = some .value ∨ next = some .flowComma ∨ next = some .flowMapEnd then emptyScalar
        else node false false steps
      let value ←
        if ← take? .value then
          let next ← peek?
          if next = some .flowComma ∨ next = some .flowMapEnd then emptyScalar
          else node false false steps
        else emptyScalar
      return (key, value) :: (← flowEntries false steps)
    else if ← take? .flowMapEnd then return []
    else
      let key ← node false false steps
      let value ← emptyScalar
      return (key, value) :: (← flowEntries false steps)

end

/-- Reads directives; `versions` counts those of the version. -/
def directives (versions : Nat) : Nat → Compose Unit
  | 0 => failure
  | steps + 1 => do
    match ← peek? with
    | some (.version major minor) =>
      if 0 < versions ∨ major ≠ 1 ∨ (minor ≠ 1 ∧ minor ≠ 2) then failure
      advance
      directives (versions + 1) steps
    | some (.handle name expansion) =>
      let c ← get
      if c.handles.any (·.1 == name) then failure
      set { c with handles := c.handles ++ [(name, expansion)], tokens := c.tokens.tail }
      directives versions steps
    | _ => return ()

def defaultHandles : List (String × List UInt8) :=
  [("!", "!".toUTF8.toList), ("!!", "tag:yaml.org,2002:".toUTF8.toList)]

def beginsDocument : Token → Bool
  | .version _ _ | .handle _ _ | .documentStart => true
  | _ => false

def document (steps : Nat) : Compose Tree := do
  match ← peek? with
  | none => return .absent
  | some token =>
    let explicit := beginsDocument token
    directives 0 steps
    modify fun c => { c with handles := c.handles ++ defaultHandles }
    if explicit then
      if !(← take? .documentStart) then failure
    let next ← peek?
    let root ←
      if explicit ∧ (next.all beginsDocument ∨ next = some .documentEnd) then emptyScalar
      else node true false steps
    let rest := (← get).tokens.dropWhile (· == .documentEnd)
    if !rest.isEmpty then failure
    return root

/-- The document of a text; none if the text is not well formed or holds several. -/
def read? (text : String) : Option Composed := do
  let tokens ← Token.scan? text.toList
  let (root, c) ← (document (8 * tokens.length + 16)).run { tokens }
  let anchors := c.owners.filterMap fun (number, serial) =>
    (c.nodes.lookup serial).map (number, ·)
  return ⟨root, anchors, max c.size 1⟩

end ServerScaffold.Source.Yaml
