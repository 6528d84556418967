import ServerScaffold.Cpp.TypeExpr

/-!
What a type needs to be declared: the symbols in it, and the directives for these.
-/
namespace ServerScaffold.Cpp

def includeWord : String := "#include"

def isDirective (symbol : String) : Bool := includeWord.toList.isPrefixOf symbol.toList

/-- The directive for a symbol; none for one that needs none. -/
def directive? (settings : Settings) (symbol : String) : Option String :=
  let symbol := String.ofList (Text.trim symbol.toList)
  if symbol = "" || isDirective symbol || settings.isPrimitive symbol then none
  else some ((settings.importMapping.get? symbol).getD (includeWord ++ " \"" ++ symbol ++ ".h\""))

/-- The directives for some symbols, each once. A symbol that is a directive stays as it is. -/
def directives (settings : Settings) (symbols : List String) : List String :=
  (symbols.filterMap fun symbol =>
    if isDirective symbol then some symbol else directive? settings symbol).eraseDups

mutual

/-- The symbols of a type in order, with repetitions. -/
def symbols (settings : Settings) : TypeExpr → List String
  | .scalar token => if settings.isPrimitive token then [] else [token]
  | .container name args => name :: argSymbols settings args
  | .model _ name => [name]
  | .optional inner | .shared inner => symbols settings inner

def argSymbols (settings : Settings) : List TypeExpr → List String
  | [] => []
  | arg :: rest => symbols settings arg ++ argSymbols settings rest

end

theorem arg_symbols (settings : Settings) (args : List TypeExpr) :
    argSymbols settings args = args.flatMap (symbols settings) := by
  induction args with
  | nil => rfl
  | cons arg rest ih => simp [argSymbols, ih]

def needsModel (settings : Settings) (symbols : List String) : Bool :=
  symbols.any fun symbol => !settings.importMapping.contains symbol && !settings.isPrimitive symbol

end ServerScaffold.Cpp
