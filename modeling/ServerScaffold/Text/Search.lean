/-!
Searching in texts: the first occurrence of a character or of a text, the last of a character.
-/
namespace ServerScaffold.Text

/-- What follows `start` in a text that begins with it. -/
def stripStart? : List Char → List Char → Option (List Char)
  | [], text => some text
  | _ :: _, [] => none
  | s :: start, c :: text => if s = c then stripStart? start text else none

def cutAt? (mark : Char) : List Char → Option (List Char × List Char)
  | [] => none
  | c :: rest =>
    if c = mark then some ([], rest)
    else (cutAt? mark rest).map fun (before, after) => (c :: before, after)

/-- The text before the last `mark`, and the text from that `mark` on. -/
def cutAtLast? (mark : Char) : List Char → Option (List Char × List Char)
  | [] => none
  | c :: rest =>
    match cutAtLast? mark rest with
    | some (before, after) => some (c :: before, after)
    | none => if c = mark then some ([], c :: rest) else none

def replaceFirst (pattern replacement : List Char) : List Char → List Char
  | [] => if pattern = [] then replacement else []
  | c :: rest =>
    match stripStart? pattern (c :: rest) with
    | some after => replacement ++ after
    | none => c :: replaceFirst pattern replacement rest

/-- What follows the last `mark`; the whole text if there is none. -/
def afterLast (mark : Char) (text : List Char) : List Char :=
  match cutAtLast? mark text with
  | some (_, _ :: after) => after
  | _ => text

end ServerScaffold.Text
