import ServerScaffold.Proofs.ResolvedTypes
import ServerScaffold.Proofs.Searches

/-!
Printed types can be read back. A type is printed as a word, behind which a container has its arguments in
angle brackets. No word holds a bracket or a comma, and no token looks like a class in the namespace of the
models; so with the settings of a run without options two types print alike only if they are the same.
-/
namespace ServerScaffold.Cpp

open Interface (Node)
open Text (isNamePart)

/-- What ends the words of a printed type. -/
def isMark (c : Char) : Bool := c == '<' || c == '>' || c == ','

/-- What can follow an argument, and so a type that stands alone: nothing, or another argument, or the bracket
that closes them. -/
def Closes (rest : List Char) : Prop := ∀ c ∈ rest.head?, c = '>' ∨ c = ','

/-- Types made of tokens, of spelled classes and of containers of such types. -/
inductive Legible : TypeExpr → Prop where
  | token {token : String} (listed : token ∈ targetTokens) : Legible (.scalar token)
  | model {name : String} (spelled : ∀ c ∈ name.toList, isNamePart c = true) :
      Legible (.model standard.modelScope? name)
  | container {name : String} {args : List TypeExpr} (listed : name ∈ targetTokens)
      (each : ∀ arg ∈ args, Legible arg) : Legible (.container name args)

/-- What a class is printed behind. -/
def classStart : List Char := "org::openapitools::server::model::".toList

/-- The first word of a printed type. -/
def firstWord : TypeExpr → List Char
  | .scalar token | .container token _ => token.toList
  | .model (some scope) name => scope.toList ++ "::".toList ++ name.toList
  | .model none name => name.toList
  | .optional _ => optionalToken.toList
  | .shared _ => sharedToken.toList

/-- What is printed behind the first word. -/
def behindWord : TypeExpr → List Char
  | .scalar _ | .model _ _ => []
  | .container _ args => '<' :: (TypeExpr.argsText args).toList ++ ['>']
  | .optional inner | .shared inner => '<' :: inner.text.toList ++ ['>']

/-- What is printed behind the first argument. -/
def behindArg : List TypeExpr → List Char
  | [] => []
  | arg :: rest => ',' :: ' ' :: (TypeExpr.argsText (arg :: rest)).toList

theorem text_word (type : TypeExpr) : type.text.toList = firstWord type ++ behindWord type := by
  match type with
  | .scalar _ | .model none _ => simp [TypeExpr.text, firstWord, behindWord]
  | .model (some _) _ | .container _ _ | .optional _ | .shared _ => simp [TypeExpr.text, firstWord, behindWord]

theorem argsText_cons (arg : TypeExpr) (rest : List TypeExpr) :
    (TypeExpr.argsText (arg :: rest)).toList = arg.text.toList ++ behindArg rest := by
  cases rest <;> simp [TypeExpr.argsText, behindArg]

theorem token_words : ∀ token ∈ targetTokens, token.toList ≠ [] ∧ token.toList.any isMark = false ∧
    classStart.isPrefixOf token.toList = false := by
  decide

theorem word_of_model (name : String) : firstWord (.model standard.modelScope? name) = classStart ++ name.toList := by
  have scope : standard.modelScope? = some "org::openapitools::server::model" := by decide
  rw [scope]
  rfl

theorem namePart_no_mark {c : Char} (part : isNamePart c = true) : isMark c = false := by
  by_contra mark
  simp only [isMark, Bool.not_eq_false, Bool.or_eq_true, beq_iff_eq] at mark
  rcases mark with (rfl | rfl) | rfl <;> exact absurd part (by decide)

variable {type other : TypeExpr} {rest further : List Char}

theorem legible_word (legible : Legible type) : firstWord type ≠ [] ∧ (firstWord type).any isMark = false := by
  cases legible with
  | token listed | container listed _ => exact ⟨(token_words _ listed).1, (token_words _ listed).2.1⟩
  | @model name spelled =>
    have begun : classStart ≠ [] := by decide
    have start : classStart.any isMark = false := by decide
    have own : name.toList.any isMark = false := by
      rw [List.any_eq_false]
      intro c member
      simp [namePart_no_mark (spelled c member)]
    rw [word_of_model]
    exact ⟨List.append_ne_nil_of_left_ne_nil begun _, by rw [List.any_append, start, own]; rfl⟩

theorem closes_ends (closes : Closes rest) : ∀ c ∈ rest.head?, (!isMark c) = false := by
  intro c first
  rcases closes c first with rfl | rfl <;> rfl

/-- Behind a word comes the end of the type, or the bracket that opens the arguments of a container. -/
theorem behindWord_ends (legible : Legible type) (closes : Closes rest) :
    ∀ c ∈ (behindWord type ++ rest).head?, (!isMark c) = false := by
  cases legible with
  | token _ | model _ => exact closes_ends closes
  | container _ _ =>
    intro c first
    simp only [behindWord, List.cons_append, List.head?_cons, Option.mem_def, Option.some.injEq] at first
    rw [← first]
    rfl

theorem words_same (legible : Legible type) (legibleToo : Legible other) (closes : Closes rest)
    (closesToo : Closes further)
    (same : type.text.toList ++ rest = other.text.toList ++ further) :
    firstWord type = firstWord other ∧ behindWord type ++ rest = behindWord other ++ further := by
  rw [text_word, text_word, List.append_assoc, List.append_assoc] at same
  have unmarked (type : TypeExpr) (legible : Legible type) : ∀ c ∈ firstWord type, (!isMark c) = true := by
    intro c member
    have unmarked := List.any_eq_false.mp (legible_word legible).2 c member
    simpa using unmarked
  exact Text.run_unique (unmarked type legible) (unmarked other legibleToo) (behindWord_ends legible closes)
    (behindWord_ends legibleToo closesToo) same

theorem behindArg_closes (args : List TypeExpr) : Closes (behindArg args ++ '>' :: rest) := by
  intro c first
  cases args with
  | nil => exact Or.inl (Option.some.inj first).symm
  | cons arg args => exact Or.inr (Option.some.inj first).symm

theorem no_argument_begins_closed (legible : Legible type) (closed : '>' :: rest = type.text.toList ++ further) :
    False := by
  obtain ⟨nonempty, unmarked⟩ := legible_word legible
  obtain ⟨c, tail, begins⟩ := List.exists_cons_of_ne_nil nonempty
  rw [text_word, begins] at closed
  rw [begins, ← (List.cons.inj closed).1] at unmarked
  contradiction

/-- If each argument can be told from what follows it, so can the arguments. -/
theorem arguments_unique {args others : List TypeExpr} (each : ∀ arg ∈ args, Legible arg)
    (eachToo : ∀ arg ∈ others, Legible arg)
    (unique : ∀ arg ∈ args, ∀ {other : TypeExpr} {rest further : List Char}, Legible other → Closes rest →
      Closes further → arg.text.toList ++ rest = other.text.toList ++ further → arg = other ∧ rest = further)
    (same : (TypeExpr.argsText args).toList ++ '>' :: rest = (TypeExpr.argsText others).toList ++ '>' :: further) :
    args = others ∧ rest = further := by
  induction args generalizing others with
  | nil =>
    cases others with
    | nil => exact ⟨rfl, (List.cons.inj same).2⟩
    | cons other others =>
      rw [argsText_cons, List.append_assoc] at same
      exact (no_argument_begins_closed (eachToo other List.mem_cons_self) same).elim
  | cons arg args ih =>
    obtain ⟨legible, eachRest⟩ := List.forall_mem_cons.mp each
    cases others with
    | nil =>
      rw [argsText_cons, List.append_assoc] at same
      exact (no_argument_begins_closed legible same.symm).elim
    | cons other others =>
      obtain ⟨legibleToo, eachRestToo⟩ := List.forall_mem_cons.mp eachToo
      rw [argsText_cons, argsText_cons, List.append_assoc, List.append_assoc] at same
      obtain ⟨rfl, behind⟩ := unique arg List.mem_cons_self legibleToo (behindArg_closes args)
        (behindArg_closes others) same
      cases args with
      | nil =>
        cases others with
        | nil => exact ⟨rfl, (List.cons.inj behind).2⟩
        | cons next others => exact absurd (List.cons.inj behind).1 (by decide)
      | cons next args =>
        cases others with
        | nil => exact absurd (List.cons.inj behind).1 (by decide)
        | cons nextToo others =>
          have later := (List.cons.inj (List.cons.inj behind).2).2
          obtain ⟨tails, ends⟩ := ih eachRest eachRestToo
            (fun arg member => unique arg (List.mem_cons_of_mem _ member)) later
          exact ⟨congrArg _ tails, ends⟩

theorem closes_not_opens (closes : Closes rest) : rest ≠ '<' :: further := by
  rintro rfl
  exact absurd (closes '<' rfl) (by decide)

theorem token_no_class {token : String} (listed : token ∈ targetTokens) (name : String) :
    token.toList ≠ classStart ++ name.toList := by
  intro same
  have begins := (token_words token listed).2.2
  rw [same, ← Bool.not_eq_true, List.isPrefixOf_iff_prefix] at begins
  exact begins (List.prefix_append _ _)

/-- No printed type begins another, so it can be told from what follows it. -/
theorem text_unique (legible : Legible type) (legibleToo : Legible other) (closes : Closes rest)
    (closesToo : Closes further) (same : type.text.toList ++ rest = other.text.toList ++ further) :
    type = other ∧ rest = further := by
  -- Inside its container an argument is followed by the others, so the induction is for whatever follows.
  induction legible generalizing other rest further with
  | @token token listed =>
    obtain ⟨words, behind⟩ := words_same (.token listed) legibleToo closes closesToo same
    cases legibleToo with
    | token _ => exact ⟨congrArg _ (String.toList_inj.mp words), behind⟩
    | @model name _ =>
      rw [word_of_model] at words
      exact absurd words (token_no_class listed name)
    | container _ _ =>
      exact absurd behind (closes_not_opens closes)
  | @model name spelled =>
    obtain ⟨words, behind⟩ := words_same (.model spelled) legibleToo closes closesToo same
    rw [word_of_model] at words
    cases legibleToo with
    | token listed => exact absurd words.symm (token_no_class listed name)
    | model _ =>
      rw [word_of_model] at words
      exact ⟨congrArg _ (String.toList_inj.mp (List.append_cancel_left words)), behind⟩
    | container _ _ =>
      exact absurd behind (closes_not_opens closes)
  | @container name args listed each ih =>
    obtain ⟨words, behind⟩ := words_same (.container listed each) legibleToo closes closesToo same
    cases legibleToo with
    | token _ | model _ =>
      exact absurd behind.symm (closes_not_opens closesToo)
    | @container nameToo others _ eachToo =>
      simp only [behindWord, List.cons_append, List.append_assoc, List.nil_append, List.cons.injEq, true_and]
        at behind
      obtain ⟨rfl, ends⟩ := arguments_unique each eachToo (fun arg member => ih arg member) behind
      rw [show name = nameToo from String.toList_inj.mp words]
      exact ⟨rfl, ends⟩

theorem text_injective (legible : Legible type) (legibleToo : Legible other) (same : type.text = other.text) :
    type = other := by
  have ends : Closes [] := fun c member => nomatch member
  exact (text_unique legible legibleToo ends ends (congrArg (·.toList ++ []) same)).1

theorem namedType_legible (name : String) : Legible (namedType standard name) := by
  simp only [namedType]
  split
  · next known => exact .token ((known_iff_target standard_builtIn).mp known)
  · next unknown =>
    have unlisted : standard.isKnownToken name = false := by
      rw [← Bool.not_eq_true]
      intro known
      exact unknown (by rw [className_known known, known])
    have none : standard.modelNamePrefix = "" := rfl
    exact .model (className_spelled (by simp [none]) unlisted)

theorem resolve_legible (node : Node) : Legible (resolve standard node) := by
  have listed (name : String) (ofType : name ∈ typeNames) : standard.mapped name ∈ targetTokens :=
    (known_iff_target standard_builtIn).mp (type_name_known {} ofType)
  induction node using Node.induct with
  | leaf kind value => exact namedType_legible _
  | ref name value => exact namedType_legible _
  | union branches value => exact namedType_legible _
  | holder container element value ih =>
    have outer := listed _ (container_name_listed container)
    have keys := listed "string" (by simp [typeNames])
    cases container with
    | array | set => exact .container outer (List.forall_mem_singleton.mpr ih)
    | map => exact .container outer (List.forall_mem_cons.mpr ⟨.token keys, List.forall_mem_singleton.mpr ih⟩)

/-- In a run without options two nodes are declared alike only if their types are the same. -/
theorem declarations_unambiguous {first second : Node}
    (same : declaration standard first = declaration standard second) :
    resolve standard first = resolve standard second :=
  text_injective (resolve_legible first) (resolve_legible second) same

theorem stores_declared_alike :
    let first : Node := .holder .map (.holder .array (.ref "pet_store" none) none) none
    let second : Node := .holder .map (.holder .array (.ref "PetStore" none) none) none
    declaration standard first =
        "std::map<std::string, std::vector<org::openapitools::server::model::PetStore>>" ∧
      declaration standard second = declaration standard first ∧
      resolve standard second = resolve standard first := by
  intro first second
  have same : declaration standard second = declaration standard first := by decide
  exact ⟨by decide, same, declarations_unambiguous same⟩

end ServerScaffold.Cpp
