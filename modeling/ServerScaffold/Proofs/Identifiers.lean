import ServerScaffold.Proofs.Scopes

/-!
Which spellings the target can take for names. All spellings of an ASCII name hold letters, numerals and
underscores only, but what comes first in the name comes first in its spellings, be it a numeral; only the
class of a model is set apart from those. And only a variable is set apart from the reserved words.
-/
namespace ServerScaffold

namespace Text

def isWordChar (c : Char) : Bool := c.isAlphanum || c == '_'

def isIdentifier : List Char → Bool
  | [] => false
  | c :: rest => (c.isAlpha || c == '_') && rest.all isWordChar

theorem letter_in_either_case : ∀ c, isAsciiLetter c = true → ∀ begins,
    isAsciiLetter (glyph (c, begins)) = true ∧ (glyph (c, begins)).isAlpha = c.isAlpha := by
  decide

theorem glyph_letter {mark : Char × Bool} (letter : isAsciiLetter mark.1 = true) :
    isAsciiLetter (glyph mark) = true ∧ (glyph mark).isAlpha = mark.1.isAlpha :=
  letter_in_either_case mark.1 letter mark.2

theorem letter_isWordChar : ∀ {c}, isAsciiLetter c = true →
    isWordChar c = true ∧ (c.isAlpha || c == '_') = c.isAlpha := by
  decide

/-- An outline tells of all letters and numerals, but for their case. -/
theorem outline_letters (text : List Char) :
    (outline text).map Prod.fst = (text.filter isAlphanumeric).map Char.toLower := by
  have ofWord (word : List Char) : (marks word).map Prod.fst = word := by
    cases word <;> simp [marks, Function.comp_def]
  have ofMarks : ((words text).flatMap marks).map Prod.fst = text.filter isAlphanumeric := by
    rw [List.map_flatMap, ← words_flatten, List.flatMap_congr fun word _ => ofWord word]
    simp [List.flatMap_def]
  rw [outline, ← ofMarks, List.map_map, List.map_map]
  rfl

end Text

namespace Interface

open Text (glyph isAlphanumeric isAsciiLetter isIdentifier isWordChar lettered)

/-- No numeral comes before the letters of a name. -/
def beginsInLetter (name : String) : Bool := (name.toList.find? isAlphanumeric).all Char.isAlpha

/-- A spelling in letters, numerals and underscores, which is an identifier just if the name that it spells
begins in a letter. -/
structure SpellsInWord (name spelling : String) : Prop where
  word : ∀ c ∈ spelling.toList, isWordChar c = true
  identifier : isIdentifier spelling.toList = true ↔ beginsInLetter name = true

theorem beginsInLetter_lettered (name : String) :
    beginsInLetter name = ((lettered name.toList).find? isAlphanumeric).all Char.isAlpha := by
  unfold lettered beginsInLetter
  split
  · rfl
  · next none =>
    have nothing : name.toList.find? isAlphanumeric = .none := by simpa using none
    rw [nothing]
    decide

variable {name spelling : String}

theorem spells_glyphs {first : Char × Bool} {marked : List (Char × Bool)}
    (letters : ∀ mark ∈ first :: marked, isAsciiLetter mark.1 = true)
    (spelled : spelling.toList = (first :: marked).map glyph)
    (begins : first.1.isAlpha = beginsInLetter name) : SpellsInWord name spelling := by
  have words : ∀ c ∈ (first :: marked).map glyph, isWordChar c = true := by
    refine List.forall_mem_map.mpr fun mark member => ?_
    exact (Text.letter_isWordChar (Text.glyph_letter (letters mark member)).1).1
  refine ⟨spelled ▸ words, ?_⟩
  have rest : (marked.map glyph).all isWordChar = true :=
    List.all_eq_true.mpr (List.forall_mem_cons.mp words).2
  obtain ⟨letter, kind⟩ := Text.glyph_letter (letters first List.mem_cons_self)
  rw [spelled, List.map_cons, isIdentifier, rest, Bool.and_true, (Text.letter_isWordChar letter).2, kind,
    begins]

/-- The camel case of an ASCII name begins with what the name begins with. -/
theorem camelName_begins (ascii : isAsciiName name = true) :
    ∃ (c : Char) (marked : List (Char × Bool)), isAsciiLetter c = true ∧
      (∀ mark ∈ marked, isAsciiLetter mark.1 = true) ∧
      (camelName name).toList = c.toLower :: marked.map glyph ∧ c.isAlpha = beginsInLetter name := by
  obtain ⟨c, marked, letter, letters, camel, shape⟩ := camelName_ascii ascii
  refine ⟨c, marked, letter, letters, camel, ?_⟩
  have read := Text.outline_letters (lettered name.toList)
  rw [show Text.outline (lettered name.toList) = outline name from rfl, shape, List.map_cons] at read
  obtain ⟨d, rest, kept, same, -⟩ := List.map_eq_cons_iff.mp read.symm
  have found : (lettered name.toList).find? isAlphanumeric = some d := by
    rw [← List.head?_filter, kept, List.head?_cons]
  have ofName : isAsciiLetter d = true := by
    obtain ⟨member, alphanumeric⟩ := List.mem_filter.mp (kept ▸ List.mem_cons_self)
    have inAscii := lettered_ascii ascii d member
    simpa [isAsciiLetter, isAlphanumeric, inAscii] using alphanumeric
  rw [beginsInLetter_lettered, found, Option.all_some, ← (Text.letter_cases letter).1,
    ← (Text.letter_cases ofName).1, same]

theorem camelName_spells (ascii : isAsciiName name = true) : SpellsInWord name (camelName name) := by
  obtain ⟨c, marked, letter, letters, camel, begins⟩ := camelName_begins ascii
  have each : ∀ mark ∈ (c, false) :: marked, isAsciiLetter mark.1 = true :=
    List.forall_mem_cons.mpr ⟨letter, letters⟩
  exact spells_glyphs each camel begins

theorem upperFirst_camelName_spells (ascii : isAsciiName name = true) :
    SpellsInWord name (Cpp.upperFirst (camelName name)) := by
  obtain ⟨c, marked, letter, letters, camel, begins⟩ := camelName_begins ascii
  obtain ⟨kind, -, -, inAscii⟩ := Text.letter_cases letter
  have lower : isAsciiLetter c.toLower = true := (Text.letter_in_either_case c letter false).1
  have each : ∀ mark ∈ (c.toLower, true) :: marked, isAsciiLetter mark.1 = true :=
    List.forall_mem_cons.mpr ⟨lower, letters⟩
  have upper : (Cpp.upperFirst (camelName name)).toList = ((c.toLower, true) :: marked).map glyph := by
    simp [Cpp.upperFirst, camel, Text.upperCase, inAscii, glyph]
  exact spells_glyphs each upper (kind.trans begins)

/-- The two spellings of an ASCII name differ only in the case of what begins it. -/
theorem pascalName_eq_upperFirst (ascii : isAsciiName name = true) :
    pascalName name = Cpp.upperFirst (camelName name) := by
  have plain := lettered_ascii ascii
  obtain ⟨first, later, listed⟩ :=
    List.exists_cons_of_ne_nil (Text.words_some (Text.lettered_any name.toList))
  have word : first ∈ Text.words (lettered name.toList) := listed ▸ List.mem_cons_self
  obtain ⟨c, tail, rfl⟩ := List.exists_cons_of_ne_nil (Text.word_some word)
  have letters := Text.word_ascii plain word
  obtain ⟨letter, ofTail⟩ := List.forall_mem_cons.mp letters
  have inAscii : Text.isAscii c = true := (Bool.and_eq_true_iff.mp letter).1
  have lowerInAscii := (Text.letter_cases letter).2.2.2
  have camel : (camelName name).toList =
      c.toLower :: (tail.map Char.toLower ++ later.flatMap Text.capitalized) := by
    rw [camelName_lettered, String.toList_ofList, Text.camelCase, listed]
    simp [Text.lowerWord_ascii letters]
  rw [← String.toList_inj, Cpp.upperFirst, camel, pascalName, String.toList_ofList, String.toList_ofList,
    Text.pascalCase, plainName, Text.words_sanitize, listed]
  simp [Text.capitalized, Text.upperCase, Text.lowerWord_ascii ofTail, inAscii, lowerInAscii,
    Text.ascii_raised inAscii]

theorem pascalName_spells (ascii : isAsciiName name = true) : SpellsInWord name (pascalName name) := by
  rw [pascalName_eq_upperFirst ascii]
  exact upperFirst_camelName_spells ascii

theorem isIdentifier_append {text rest : List Char} (some : text ≠ [])
    (words : rest.all isWordChar = true) : isIdentifier (text ++ rest) = isIdentifier text := by
  obtain ⟨c, later, rfl⟩ := List.exists_cons_of_ne_nil some
  simp [isIdentifier, words]

end Interface

namespace Cpp

open Interface (SpellsInWord beginsInLetter camelName camelName_spells isAsciiName outline pascalName)
open Text (isIdentifier isWordChar)

variable {name : String}

theorem reserved_identifiers : reservedWords.all (fun word => word.toList.all isWordChar &&
    isIdentifier word.toList && beginsInLetter word && isAsciiName word) = true := by
  decide

theorem reserved_identifier (reserved : isReserved name = true) :
    (∀ c ∈ name.toList, isWordChar c = true) ∧ isIdentifier name.toList = true ∧
      beginsInLetter name = true ∧ isAsciiName name = true := by
  have listed : name ∈ reservedWords := by simpa [isReserved] using reserved
  have parts := List.all_eq_true.mp reserved_identifiers name listed
  simp only [Bool.and_eq_true] at parts
  obtain ⟨⟨⟨word, identifier⟩, begins⟩, ascii⟩ := parts
  exact ⟨List.all_eq_true.mp word, identifier, begins, ascii⟩

theorem variableSpelling_spells (ascii : isAsciiName name = true) :
    SpellsInWord name (variableSpelling name) := by
  unfold variableSpelling
  split
  · next reserved =>
    obtain ⟨word, identifier, begins, -⟩ := reserved_identifier reserved
    exact ⟨word, iff_of_true identifier begins⟩
  · exact camelName_spells ascii

/-- With or without the prefix a variable is an identifier just if its spelling is. -/
theorem variableName_spells (ascii : isAsciiName name = true) :
    SpellsInWord name (variableName standard name) := by
  have spells := variableSpelling_spells ascii
  rw [variableName_standard]
  split
  · next reserved =>
    obtain ⟨word, identifier, -⟩ := reserved_identifier reserved
    have letters : ("r_" ++ variableSpelling name).toList = ['r', '_'] ++ (variableSpelling name).toList :=
      String.toList_append
    have start : ['r', '_'].all isWordChar = true := by decide
    refine ⟨?_, iff_of_true ?_ (spells.identifier.mp identifier)⟩
    · rw [letters]
      exact List.forall_mem_append.mpr ⟨List.all_eq_true.mp start, word⟩
    · rw [letters, Interface.isIdentifier_append (by simp) (List.all_eq_true.mpr word)]
      decide
  · next free =>
    rw [spelling_unreserved (by simpa using free)]
    exact Interface.upperFirst_camelName_spells ascii

theorem apiName_spells (ascii : isAsciiName name = true) : SpellsInWord name (apiName name) := by
  have spells := Interface.pascalName_spells ascii
  have words : "Api".toList.all isWordChar = true := by decide
  obtain ⟨c, rest, letters, -⟩ := Interface.pascalName_head name
  rw [apiName]
  refine ⟨?_, ?_⟩
  · rw [String.toList_append]
    exact List.forall_mem_append.mpr ⟨spells.word, List.all_eq_true.mp words⟩
  · rw [String.toList_append, Interface.isIdentifier_append (by simp [letters]) words]
    exact spells.identifier

/-- The class of a model is an identifier whatever its name begins with. -/
theorem className_identifier (ascii : isAsciiName name = true) (own : standard.isKnownToken name = false) :
    isIdentifier (className standard name).toList = true := by
  have words := (Interface.pascalName_spells ascii).word
  obtain ⟨c, rest, letters, -⟩ := Interface.pascalName_head name
  have unprefixed : standard.modelNamePrefix ++ pascalName name = pascalName name := String.empty_append
  rw [letters] at words
  obtain ⟨first, later⟩ := List.forall_mem_cons.mp words
  have ofRest : rest.all isWordChar = true := List.all_eq_true.mpr later
  unfold className
  rw [own, unprefixed]
  cases digit : c.isDigit with
  | true => simp [isIdentifier, letters, digit, first, ofRest]
  | false =>
    have begins : (c.isAlpha || c == '_') = true := by simpa [isWordChar, Char.isAlphanum, digit] using first
    rw [Bool.or_eq_true_iff, beq_iff_eq] at begins
    simp [isIdentifier, letters, digit, begins, ofRest]

/-- A method is called by a reserved word just if its name has the outline of one that is in camel case. -/
theorem camelName_reserved_iff (ascii : isAsciiName name = true) :
    isReserved (camelName name) = true ↔
      ∃ word ∈ reservedWords, word ∉ keptWords ∧ outline name = outline word := by
  have stays {word : String} (reserved : isReserved word = true) (free : word ∉ keptWords) :
      camelName word = word := by
    rw [← spelling_free free, variableSpelling, if_pos reserved]
  constructor
  · intro reserved
    have free := camelName_not_kept ascii
    have listed : camelName name ∈ reservedWords := by simpa [isReserved] using reserved
    refine ⟨camelName name, listed, free, ?_⟩
    rw [← Interface.camelName_eq_iff ascii (reserved_identifier reserved).2.2.2, stays reserved free]
  · rintro ⟨word, listed, free, same⟩
    have reserved : isReserved word = true := by simpa [isReserved] using listed
    rw [(Interface.camelName_eq_iff ascii (reserved_identifier reserved).2.2.2).mpr same,
      stays reserved free]
    exact reserved

end Cpp

namespace Interface

open Text (isAlphanumeric)

theorem verb_begins (method : Api.Method) (endsInPlaceholder : Bool) :
    ∃ c rest, verb method.upperName endsInPlaceholder = c :: rest ∧
      isAlphanumeric c = true ∧ c.isAlpha = true := by
  cases method <;> cases endsInPlaceholder <;> exact ⟨_, _, rfl, by decide, by decide⟩

theorem routeName_begins (method : Api.Method) (path : String) :
    beginsInLetter (routeName method.upperName path) = true := by
  obtain ⟨c, rest, begun, letter, alpha⟩ :=
    verb_begins method ((segments path.toList).getLast?.any isPlaceholder)
  rw [beginsInLetter, routeName, String.toList_ofList, begun, List.cons_append,
    List.find?_cons_of_pos letter, Option.all_some, alpha]

end Interface

namespace Context

open Cpp (isReserved keptWords reservedWords standard variableName)
open Interface (SpellsInWord beginsInLetter calledName camelName camelName_spells firstTag isAsciiName
  namesUnder outline routes)
open Text (isIdentifier)
open ServerScaffold.Api (Document)

/-- What is made of ASCII names holds letters, numerals and underscores only, and can be taken for a name just
if no numeral begins what it is made of. A method may be called by a reserved word. -/
theorem identifiers_iff_begin_in_letter {document : Document} {server : Server}
    (generated : Server.ofDocument {} document = .ok server) :
    (∀ model ∈ server.models, ∀ member ∈ model.vars, isAsciiName member.baseName = true →
      SpellsInWord member.baseName member.name) ∧
    (∀ api ∈ server.apis, ∀ operation ∈ api.operations, ∀ parameter ∈ operation.params,
      isAsciiName parameter.baseName = true → SpellsInWord parameter.baseName parameter.paramName) ∧
    (∀ api ∈ server.apis, ∃ tag ∈ (routes document.paths).map firstTag,
      (isAsciiName tag = true → SpellsInWord tag api.classname) ∧
      List.Forall₂ (fun name operation => isAsciiName name = true →
          SpellsInWord name operation.nickname ∧
          (isReserved operation.nickname = true ↔
            ∃ word ∈ reservedWords, word ∉ keptWords ∧ outline name = outline word))
        (namesUnder document tag) api.operations) ∧
    ∀ route ∈ routes document.paths, route.2.2.2.operationId = none →
      beginsInLetter (calledName route) = true := by
  obtain ⟨source, built, rfl⟩ := server_ofDocument.mp generated
  obtain ⟨assembled, -⟩ := Interface.document_ok.mp built
  refine ⟨?_, ?_, ?_, ?_⟩
  · intro model listed member inModel ascii
    obtain ⟨_, -, rfl⟩ := List.mem_map.mp listed
    obtain ⟨property, -, rfl⟩ := List.mem_map.mp inModel
    exact Cpp.variableName_spells ascii
  · intro api listed operation inApi parameter given ascii
    obtain ⟨group, -, rfl⟩ := List.mem_map.mp listed
    obtain ⟨result, -, rfl⟩ := api_operation inApi
    obtain ⟨declared, -, rfl⟩ := List.mem_map.mp given
    have named := parameter_name declared
    exact named ▸ Cpp.variableName_spells ascii
  · intro api listed
    obtain ⟨group, inSource, rfl⟩ := List.mem_map.mp listed
    have nicknames := (api_nicknames assembled (.ofConfig {}) inSource).symm
    rw [← List.forall₂_eq_eq_eq, List.forall₂_map_left_iff, List.forall₂_map_right_iff] at nicknames
    refine ⟨group.name, ?_, Cpp.apiName_spells, nicknames.imp ?_⟩
    · rw [assembled.groups] at inSource
      obtain ⟨operation, member, rfl⟩ := Interface.mem_groups.mp inSource
      obtain ⟨route, inDocument, built⟩ := Interface.pair_of_right assembled.operations member
      exact List.mem_map.mpr ⟨route, inDocument, (Interface.operation_called built).2.symm⟩
    · intro name operation same ascii
      rw [← same]
      exact ⟨camelName_spells ascii, Cpp.camelName_reserved_iff ascii⟩
  · intro route listed unnamed
    rw [calledName, unnamed]
    exact Interface.routeName_begins _ _

theorem tidy_household_identifiers : ∃ server, Server.ofDocument {} tidyHousehold = .ok server ∧
    (∀ model ∈ server.models, ∀ member ∈ model.vars, isIdentifier member.name.toList = true) ∧
    (∀ api ∈ server.apis, ∀ operation ∈ api.operations, ∀ parameter ∈ operation.params,
      isIdentifier parameter.paramName.toList = true) ∧
    ∀ api ∈ server.apis, isIdentifier api.classname.toList = true ∧ ∀ operation ∈ api.operations,
      isIdentifier operation.nickname.toList = true ∧ isReserved operation.nickname = false := by
  have done : ∃ server, Server.ofDocument {} tidyHousehold = .ok server ∧
      (∀ model ∈ server.models, ∀ member ∈ model.vars,
        isAsciiName member.baseName = true ∧ beginsInLetter member.baseName = true) ∧
      ∀ api ∈ server.apis, ∀ operation ∈ api.operations, ∀ parameter ∈ operation.params,
        isAsciiName parameter.baseName = true ∧ beginsInLetter parameter.baseName = true :=
    ⟨_, rfl, by decide, by decide⟩
  obtain ⟨server, generated, members, parameters⟩ := done
  have tags : ∀ tag ∈ (routes tidyHousehold.paths).map firstTag,
      isAsciiName tag = true ∧ beginsInLetter tag = true := by decide
  have names : ∀ name ∈ (routes tidyHousehold.paths).map calledName, isAsciiName name = true ∧
      beginsInLetter name = true ∧ ∀ word ∈ reservedWords, outline name ≠ outline word := by
    decide
  obtain ⟨ofModels, ofOperations, ofApis, -⟩ := identifiers_iff_begin_in_letter generated
  refine ⟨server, generated, ?_, ?_, ?_⟩
  · intro model listed member inModel
    obtain ⟨ascii, begins⟩ := members model listed member inModel
    exact (ofModels model listed member inModel ascii).identifier.mpr begins
  · intro api listed operation inApi parameter given
    obtain ⟨ascii, begins⟩ := parameters api listed operation inApi parameter given
    exact (ofOperations api listed operation inApi parameter given ascii).identifier.mpr begins
  · intro api listed
    obtain ⟨tag, inDocument, spelled, methods⟩ := ofApis api listed
    obtain ⟨tagAscii, tagBegins⟩ := tags tag inDocument
    refine ⟨(spelled tagAscii).identifier.mpr tagBegins, fun operation inApi => ?_⟩
    obtain ⟨name, called, method⟩ := Interface.pair_of_right methods inApi
    obtain ⟨ascii, begins, apart⟩ := names name ((List.filter_sublist.map _).subset called)
    obtain ⟨spells, reserved⟩ := method ascii
    refine ⟨spells.identifier.mpr begins, Bool.eq_false_iff.mpr fun taken => ?_⟩
    obtain ⟨word, inList, -, same⟩ := reserved.mp taken
    exact apart word inList same

/-- Numerals at the start of names, and a route that is called by its method alone. -/
def numerals : Document where
  openapi := "3.0.3"
  info := { title := "Numerals", version := "1" }
  paths := ⟨[
    ("/models", { operation? := fun
      | .get => some {
          operationId := some "404"
          tags := ["5g"]
          parameters := [.inline { name := "3d", place := .query }] }
      | _ => none }),
    ("/", { operation? := fun
      | .delete => some { tags := ["root"] }
      | _ => none })], by decide⟩
  components := some { schemas := ⟨[("Phone", .inline { properties := [("2fa", .inline {})] })], by simp⟩ }

/-- A member, a parameter, a method and a class that begin in a numeral, and a method that is called `delete`;
a model of the same kind of name would have an underscore before it. -/
theorem numerals_begin_names :
    ["2fa", "3d", "404", "5g", "root"].all (fun name =>
      isAsciiName name && name.toList.any Text.isAlphanumeric) = true ∧
    ∃ server, Server.ofDocument {} numerals = .ok server ∧
      server.models.map (fun model => model.vars.map fun member => (member.baseName, member.name)) =
        [[("2fa", "2fa")]] ∧
      server.apis.map (fun api => (api.classname, api.operations.map fun operation =>
        (operation.nickname, operation.params.map (·.paramName)))) =
        [("5gApi", [("404", ["3d"])]), ("RootApi", [("delete", [])])] ∧
      ["2fa", "3d", "404", "5gApi"].all (fun name => !isIdentifier name.toList) = true ∧
      isReserved "delete" = true ∧ Cpp.className standard "2fa" = "_2fa" :=
  ⟨by decide, _, rfl, by decide, by decide, by decide, by decide, by decide⟩

end Context

end ServerScaffold
