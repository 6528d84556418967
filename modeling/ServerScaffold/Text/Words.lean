import ServerScaffold.Text.Letter

/-!
Words of a name. A name is cut at everything that is neither letter nor numeral; inside such a run
a new word starts where lower case turns to upper case, and at the last capital of an acronym that
a lower-case letter follows (`XMLHttp` is `XML` and `Http`).
-/
namespace ServerScaffold.Text

def runs (text : List Char) : List (List Char) :=
  (text.splitOnP fun c => !isAlphanumeric c).filter fun run => !run.isEmpty

/-- The case of the last cased character of a word, as far as the word has been read. -/
inductive Case where
  | none | lower | upper
deriving DecidableEq, Repr

def Case.after (case : Case) (c : Char) : Case :=
  if isLowerCase c then .lower else if isUpperCase c then .upper else case

/-- The words of one run; `word` holds what has been read of the present word, backwards. -/
def splitRun (case : Case) (word : List Char) : List Char → List (List Char)
  | [] => []
  | [c] => [(c :: word).reverse]
  | c :: next :: rest =>
    if case.after c = .lower ∧ isUpperCase next then
      (c :: word).reverse :: splitRun .none [] (next :: rest)
    else if case = .upper ∧ isUpperCase c ∧ isLowerCase next then
      word.reverse :: splitRun .none [c] (next :: rest)
    else
      splitRun (case.after c) (c :: word) (next :: rest)

def words (text : List Char) : List (List Char) := (runs text).flatMap (splitRun .none [])

/-- One word in lower case; a capital sigma that ends it becomes a final sigma. -/
def lowerWord : List Char → List Char
  | [] => []
  | ['Σ'] => ['ς']
  | c :: rest => lowerCase c ++ lowerWord rest

def capitalized : List Char → List Char
  | [] => []
  | c :: rest => upperCase c ++ lowerWord rest

def pascalCase (text : List Char) : List Char := (words text).flatMap capitalized

def camelCase (text : List Char) : List Char :=
  match words text with
  | [] => []
  | first :: rest => lowerWord first ++ rest.flatMap capitalized

def snakeCase (text : List Char) : List Char := ['_'].intercalate ((words text).map lowerWord)

def screamingCase (text : List Char) : List Char := ['_'].intercalate ((words text).map upperText)

/-- The runs of a text with one underscore between any two of them, read in one pass. `started`
tells whether a run has been written, `pending` whether something was left out since. -/
def joinRuns (started pending : Bool) : List Char → List Char
  | [] => []
  | c :: rest =>
    if isAlphanumeric c then
      (if started && pending then ['_', c] else [c]) ++ joinRuns true false rest
    else joinRuns started true rest

/-- A name without punctuation. A name of punctuation alone is `unnamed`. -/
def sanitize (text : List Char) : List Char :=
  match joinRuns false false text with
  | [] => "unnamed".toList
  | name => name

end ServerScaffold.Text
