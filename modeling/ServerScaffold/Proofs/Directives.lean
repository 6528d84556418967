import ServerScaffold.Cpp.Include
import ServerScaffold.Proofs.Expansion
import ServerScaffold.Proofs.Outlines
import ServerScaffold.Proofs.Tables

/-!
Where a directive for the header of a class comes from. Without tables of its own a run has for every token of
the target the header of a library or none, so only the names that a node refers to lead to headers of classes.
-/
namespace ServerScaffold.Cpp

open Interface (Node pascalName)
open Text (isNamePart)

section Headers

variable {settings : Settings} {symbol directive : String}

def header (classname : String) : String := includeWord ++ " \"" ++ classname ++ ".h\""

theorem header_text (classname : String) :
    (header classname).toList = "#include \"".toList ++ (classname.toList ++ ".h\"".toList) := by
  simp [header, includeWord]

theorem header_injective {first second : String} (same : header first = header second) :
    first = second := by
  have texts := congrArg String.toList same
  rw [header_text, header_text] at texts
  exact String.toList_inj.mp (List.append_cancel_right (List.append_cancel_left texts))

/-- A directive for a header among the generated files, not for one of a library. -/
def isLocal (directive : String) : Bool := "#include \"".toList.isPrefixOf directive.toList

theorem header_isLocal (classname : String) : isLocal (header classname) = true := by
  rw [isLocal, header_text, List.isPrefixOf_iff_prefix]
  exact List.prefix_append _ _

def directiveFor (settings : Settings) (symbol : String) : Option String :=
  if isDirective symbol then some symbol else directive? settings symbol

theorem mem_directives {symbols : List String} :
    directive ∈ directives settings symbols ↔
      ∃ symbol ∈ symbols, directiveFor settings symbol = some directive := by
  simp [directives, directiveFor]

theorem directives_single (settings : Settings) (symbol : String) :
    directives settings [symbol] = (directiveFor settings symbol).toList := by
  have listed : directives settings [symbol] = ([symbol].filterMap (directiveFor settings)).eraseDups := rfl
  rw [listed, List.filterMap_cons, List.filterMap_nil]
  cases directiveFor settings symbol with
  | none => rfl
  | some directive => simp [List.eraseDups_cons]

/-- No directive is given for the symbol, and it cannot do without. -/
def needsHeader (settings : Settings) (symbol : String) : Bool :=
  !settings.importMapping.contains symbol && !settings.isPrimitive symbol

/-- A symbol that is read as it stands: it is no directive, and nothing is trimmed from it. -/
def Plain (symbol : String) : Prop :=
  symbol ≠ "" ∧ Text.trim symbol.toList = symbol.toList ∧ isDirective symbol = false

instance (symbol : String) : Decidable (Plain symbol) := inferInstanceAs (Decidable (_ ∧ _))

theorem plain_directive (plain : Plain symbol) :
    directiveFor settings symbol =
      if needsHeader settings symbol then some (header symbol)
      else if settings.isPrimitive symbol then none
      else settings.importMapping.get? symbol := by
  obtain ⟨nonempty, trimmed, noDirective⟩ := plain
  unfold directiveFor directive? needsHeader
  rw [trimmed, String.ofList_toList]
  cases primitive : settings.isPrimitive symbol with
  | true => simp [noDirective, primitive]
  | false =>
    cases mapped : settings.importMapping.get? symbol with
    | none =>
      have absent := Table.not_contains_iff.mpr (Table.get_eq_none.mp mapped)
      simp [noDirective, nonempty, primitive, mapped, absent, header]
    | some value =>
      have present := Table.contains_iff.mpr (Table.key_of_entry (Table.get_eq_some.mp mapped))
      simp [noDirective, nonempty, primitive, mapped, present]

theorem spelled_not_directive (spelled : ∀ c ∈ symbol.toList, isNamePart c = true) :
    isDirective symbol = false := by
  cases text : symbol.toList with
  | nil => simp [isDirective, text, includeWord]
  | cons first rest =>
    have different : ('#' == first) = false := by
      cases same : '#' == first with
      | false => rfl
      | true =>
        have part := spelled first (text ▸ List.mem_cons_self)
        rw [← eq_of_beq same] at part
        exact absurd part (by decide)
    simp [isDirective, text, includeWord, List.isPrefixOf, different]

theorem spelled_plain (nonempty : symbol ≠ "") (spelled : ∀ c ∈ symbol.toList, isNamePart c = true) :
    Plain symbol := by
  have solid : ∀ c ∈ symbol.toList, Text.isBlank c = false := by
    intro c member
    have part := spelled c member
    simp only [isNamePart, Bool.and_eq_true, Bool.not_eq_true'] at part
    exact part.1
  exact ⟨nonempty, Text.trim_of_no_blank solid, spelled_not_directive spelled⟩

end Headers

section Tokens

variable {settings : Settings} {token directive : String}

/-- The settings of a run without options. -/
def standard : Settings := .ofConfig {}

/-- The tables are those of a run without options. -/
structure BuiltIn (settings : Settings) : Prop where
  types : settings.typeMapping = typeTokens
  directives : settings.importMapping = includeDirectives
  primitives : settings.primitives = primitiveTokens
  exempt : settings.namespaceExempt = bareTokens

theorem standard_builtIn : BuiltIn standard := ⟨rfl, rfl, rfl, rfl⟩

/-- The tokens that a run without options takes for types of the target. -/
def targetTokens : List String := primitiveTokens ++ includeDirectives.keys

theorem tokens_listed :
    (primitiveTokens ++ bareTokens ++ typeTokens.values ++ includeDirectives.keys).all
      (targetTokens.contains ·) = true := by
  decide

theorem tokens_plain : ∀ token ∈ targetTokens, Plain token := by
  decide

theorem library_values : ∀ value ∈ includeDirectives.values, isLocal value = false := by
  decide

theorem known_iff_target (builtIn : BuiltIn settings) :
    settings.isKnownToken token = true ↔ token ∈ targetTokens := by
  have known : settings.isKnownToken token = true ↔
      token ∈ primitiveTokens ++ bareTokens ++ typeTokens.values ++ includeDirectives.keys := by
    simp [Settings.isKnownToken, Settings.isPrimitive, Table.contains, builtIn.types,
      builtIn.directives, builtIn.primitives, builtIn.exempt, or_assoc]
  rw [known]
  constructor
  · intro listed
    simpa using List.all_eq_true.mp tokens_listed token listed
  · intro target
    rcases List.mem_append.mp target with primitive | library
    · simp [primitive]
    · simp [library]

theorem known_needs_no_header (builtIn : BuiltIn settings)
    (known : settings.isKnownToken token = true) : needsHeader settings token = false := by
  rw [needsHeader, Settings.isPrimitive, builtIn.directives, builtIn.primitives]
  rcases List.mem_append.mp ((known_iff_target builtIn).mp known) with primitive | library
  · simp [primitive]
  · simp [Table.contains, library]

/-- With the built-in tables just the symbols that need a header of their own get one. -/
theorem local_iff_needsHeader (builtIn : BuiltIn settings) (plain : Plain token) :
    (∃ directive, directiveFor settings token = some directive ∧ isLocal directive = true) ↔
      needsHeader settings token = true := by
  rw [plain_directive plain]
  constructor
  · rintro ⟨directive, found, isLocal⟩
    by_contra noHeader
    rw [if_neg noHeader] at found
    split at found
    · contradiction
    · rw [builtIn.directives] at found
      have listed : directive ∈ includeDirectives.values :=
        List.mem_map_of_mem (Table.get_eq_some.mp found)
      rw [library_values directive listed] at isLocal
      contradiction
  · intro needed
    exact ⟨header token, if_pos needed, header_isLocal token⟩

/-- The names of types that nodes other than references have. -/
def typeNames : List String :=
  ["boolean", "integer", "long", "float", "number", "string", "date", "DateTime", "ByteArray", "binary",
    "UUID", "URI", "object", unionName, "array", "set", "map"]

theorem type_names_listed : ∀ name ∈ typeNames, name ∈ typeTokens.keys := by
  decide

/-- Whatever the options say, every name of a type stands for a token. -/
theorem type_name_known (config : Config) {name : String} (listed : name ∈ typeNames) :
    (Settings.ofConfig config).isKnownToken ((Settings.ofConfig config).mapped name) = true := by
  have key : name ∈ (Settings.ofConfig config).typeMapping.keys :=
    (Table.keys_insertAll _).mpr (Or.inr (type_names_listed name listed))
  obtain ⟨value, entry⟩ := Table.key_has_entry key
  have mapped : (Settings.ofConfig config).mapped name = value := by
    rw [Settings.mapped, Table.get_eq_some.mpr entry]
    rfl
  have inTable : value ∈ (Settings.ofConfig config).typeMapping.values := List.mem_map_of_mem entry
  simp [mapped, Settings.isKnownToken, inTable]

theorem leaf_name_listed (kind : Interface.Leaf) : leafName kind ∈ typeNames := by
  cases kind <;> simp [leafName, typeNames]

theorem container_name_listed (container : Interface.Container) :
    containerName container ∈ typeNames := by
  cases container <;> simp [containerName, typeNames]

end Tokens

section Classes

variable {settings : Settings} {name : String}

theorem className_known (known : settings.isKnownToken name = true) : className settings name = name := by
  simp [className, known]

/-- A token of the target stands for itself: no class is made of its name. -/
theorem namedType_known (known : settings.isKnownToken name = true) : namedType settings name = .scalar name := by
  simp [namedType, className_known known, known]

/-- The class of a name that is no token: its pascal case, behind a prefix and perhaps an underscore. -/
theorem className_unknown (unknown : settings.isKnownToken name = false) :
    ∃ mark ∈ ["", "_"], className settings name = mark ++ (settings.modelNamePrefix ++ pascalName name) := by
  unfold className
  simp only [unknown, Bool.false_eq_true, ↓reduceIte]
  split
  · exact ⟨"_", by simp, rfl⟩
  · exact ⟨"", by simp, by simp⟩

/-- Behind a spelled prefix a name that is no token is spelled as well. -/
theorem className_spelled (spelled : ∀ c ∈ settings.modelNamePrefix.toList, isNamePart c = true)
    (unknown : settings.isKnownToken name = false) : ∀ c ∈ (className settings name).toList, isNamePart c = true := by
  obtain ⟨mark, listed, same⟩ := className_unknown unknown
  have marks : ∀ mark ∈ ["", "_"], mark.toList.all isNamePart = true := by decide
  rw [same, String.toList_append, String.toList_append, List.forall_mem_append, List.forall_mem_append]
  refine ⟨List.all_eq_true.mp (marks mark listed), spelled, ?_⟩
  intro c member
  rw [pascalName, String.toList_ofList] at member
  exact Text.spelled_isNamePart (Text.pascalCase_isSpelled _ c member)

/-- A class is plain, be it called by a token of the target or by a spelled name. -/
theorem className_plain (builtIn : BuiltIn settings)
    (spelled : ∀ c ∈ settings.modelNamePrefix.toList, isNamePart c = true) (name : String) :
    Plain (className settings name) := by
  cases known : settings.isKnownToken name with
  | true =>
    rw [className_known known]
    exact tokens_plain name ((known_iff_target builtIn).mp known)
  | false =>
    obtain ⟨mark, -, same⟩ := className_unknown known
    obtain ⟨first, rest, text, -⟩ := Interface.pascalName_head name
    have nonempty : className settings name ≠ "" := by
      rw [same, ne_eq, ← String.toList_inj]
      simp [text]
    exact spelled_plain nonempty (className_spelled spelled known)

theorem standard_class_plain (name : String) : Plain (className standard name) := by
  have none : standard.modelNamePrefix = "" := rfl
  exact className_plain standard_builtIn (by simp [none]) name

/-- The header of a class stands among some directives only for a name of that class. -/
theorem header_has_name {symbols names : List String} {classname : String}
    (each : ∀ symbol ∈ symbols, standard.isKnownToken symbol = true ∨
      ∃ name ∈ names, symbol = className standard name)
    (member : header classname ∈ directives standard symbols) :
    ∃ name ∈ names, className standard name = classname := by
  obtain ⟨symbol, listed, found⟩ := mem_directives.mp member
  have plain : Plain symbol := by
    rcases each symbol listed with known | ⟨name, -, rfl⟩
    · exact tokens_plain symbol ((known_iff_target standard_builtIn).mp known)
    · exact standard_class_plain name
  have needed := (local_iff_needsHeader standard_builtIn plain).mp ⟨_, found, header_isLocal classname⟩
  rw [plain_directive plain, if_pos needed, Option.some.injEq] at found
  rcases each symbol listed with known | ⟨name, ofName, rfl⟩
  · rw [known_needs_no_header standard_builtIn known] at needed
    contradiction
  · exact ⟨name, ofName, header_injective found⟩

end Classes

section Symbols

variable {settings : Settings} {symbol : String}

theorem namedType_symbols {name : String}
    (member : symbol ∈ symbols settings (namedType settings name)) :
    symbol = className settings name := by
  simp only [namedType] at member
  split at member
  · simp only [symbols] at member
    split at member
    · exact absurd member List.not_mem_nil
    · exact List.mem_singleton.mp member
  · exact List.mem_singleton.mp member

theorem holder_symbols {container : Interface.Container} {element : Node} {value : Option Literal}
    (member : symbol ∈ symbols settings (resolve settings (.holder container element value))) :
    symbol = settings.mapped (containerName container) ∨ symbol = settings.mapped "string" ∨
      symbol ∈ symbols settings (resolve settings element) := by
  cases container <;> simp only [resolve, symbols, argSymbols] at member <;> grind [containerName]

/-- The symbols of a node's type are tokens, or classes of names it refers to. -/
theorem node_symbols {config : Config} {node : Node}
    (member : symbol ∈ symbols (.ofConfig config) (resolve (.ofConfig config) node)) :
    (Settings.ofConfig config).isKnownToken symbol = true ∨
      ∃ name ∈ node.refs, symbol = className (.ofConfig config) name := by
  induction node using Node.induct with
  | leaf kind value =>
    have known := type_name_known config (leaf_name_listed kind)
    rw [namedType_symbols member, className_known known]
    exact Or.inl known
  | union branches value =>
    have listed : unionName ∈ typeNames := by simp [typeNames]
    have known := type_name_known config listed
    rw [namedType_symbols member, className_known known]
    exact Or.inl known
  | ref name value => exact Or.inr ⟨name, List.mem_singleton_self name, namedType_symbols member⟩
  | holder container element value ih =>
    rcases holder_symbols member with rfl | keys | ofElement
    · exact Or.inl (type_name_known config (container_name_listed container))
    · exact Or.inl (keys ▸ type_name_known config (by simp [typeNames]))
    · exact ih ofElement

end Symbols

end ServerScaffold.Cpp
