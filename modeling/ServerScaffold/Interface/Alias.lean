import ServerScaffold.Api.Document
import ServerScaffold.Interface.Classify

/-!
Aliases: named schemas that only name another type. A reference to an alias is replaced by its
target. A reference met again while its own target is being put in place stays as it is.
-/
namespace ServerScaffold.Interface

open Api (Schema)

def Node.isPlain : Node → Bool
  | .leaf .any _ | .leaf (.enumeration _) _ | .ref _ _ | .union _ _ => false
  | .leaf _ _ | .holder _ _ _ => true

/-- The target of a schema that is an alias by itself. -/
def aliasTarget? : Schema → Option Node
  | .ref _ => none
  | .inline k =>
    let node := schemaNode (.inline k)
    if k.values.isEmpty && node.isPlain then some node else none

/-- Adds a schema that is a bare reference to an alias known so far. -/
def addBareAlias (aliases : Table Node) : String × Schema → Table Node
  | (name, .ref pointer) =>
    let target := Api.pointerName pointer
    if aliases.contains target then aliases.insert name (.ref target none) else aliases
  | (_, .inline _) => aliases

/-- The aliases among named schemas: first those that are aliases by themselves, then, in one pass,
the bare references to them. -/
def aliasTable (schemas : Table Schema) : Table Node :=
  let direct := schemas.entries.filterMap fun (name, schema) =>
    (aliasTarget? schema).map (name, ·)
  schemas.entries.foldl addBareAlias (.ofList direct)

/-- Replaces aliases along paths of at most `depth` aliases; `open_` holds the aliases of the path. -/
def expand (aliases : Table Node) : Nat → List String → Node → Node
  | 0, _, node => node
  | depth + 1, open_, node =>
    node.replace fun name value =>
      if open_.contains name then .ref name value
      else
        match aliases.get? name with
        | none => .ref name value
        | some target => expand aliases depth (name :: open_) (target.override value)

/-- Replaces aliases everywhere. No path can pass more aliases than there are, since none comes
twice. -/
def inlineAliases (aliases : Table Node) (node : Node) : Node :=
  expand aliases aliases.entries.length [] node

end ServerScaffold.Interface
