import ServerScaffold.Cpp.Settings

/-!
Names of classes and variables in the generated code.
-/
namespace ServerScaffold.Cpp

open Interface (camelName pascalName)

/-- The class of a model. A name that is a type of the target already stays as it is. -/
def className (settings : Settings) (name : String) : String :=
  if settings.isKnownToken name then name
  else
    let full := settings.modelNamePrefix ++ pascalName name
    if full.toList.head?.any Char.isDigit then "_" ++ full else full

def upperFirst (name : String) : String :=
  match name.toList with
  | [] => ""
  | first :: rest => String.ofList (Text.upperCase first ++ rest)

/-- A member or a parameter. A reserved word is set apart by a prefix, be it the name itself or its
spelling. -/
def variableName (settings : Settings) (name : String) : String :=
  let camel := camelName name
  if isReserved name then settings.reservedWordPrefix ++ name
  else if isReserved camel then settings.reservedWordPrefix ++ camel
  else if settings.variableNameFirstCharacterUppercase then upperFirst camel
  else camel

def apiName (group : String) : String := pascalName group ++ "Api"

end ServerScaffold.Cpp
