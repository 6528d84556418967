import ServerScaffold.Interface.Node
import ServerScaffold.Table

/-!
The words of the target language: its keywords, the tokens of its types, and the directives that
declare them.
-/
namespace ServerScaffold.Cpp

open Interface (Leaf Container)

/-- Keywords, and names that commonly collide with macros of a platform. -/
def reservedWords : List String := [
  "alignas", "alignof", "and", "and_eq", "asm", "auto", "bitand", "bitor", "bool", "break",
  "case", "catch", "char", "char16_t", "char32_t", "class", "compl", "concept", "const",
  "constexpr", "const_cast", "continue", "decltype", "default", "delete", "do", "double",
  "dynamic_cast", "else", "enum", "explicit", "export", "extern", "false", "float", "for",
  "friend", "goto", "if", "inline", "int", "linux", "long", "mutable", "namespace", "new",
  "noexcept", "not", "not_eq", "NULL", "nullptr", "operator", "or", "or_eq", "private",
  "protected", "public", "register", "reinterpret_cast", "requires", "return", "short",
  "signed", "sizeof", "static", "static_assert", "static_cast", "struct", "switch",
  "template", "this", "thread_local", "throw", "true", "try", "typedef", "typeid",
  "typename", "union", "unsigned", "using", "virtual", "void", "volatile", "wchar_t",
  "while", "xor", "xor_eq"]

def isReserved (name : String) : Bool := reservedWords.contains name

def stringToken : String := "std::string"

def jsonToken : String := "nlohmann::json"

def optionalToken : String := "std::optional"

def sharedToken : String := "std::shared_ptr"

def makeSharedToken : String := "std::make_shared"

def nullToken : String := "nullptr"

/-- The value of a header as the server hands it out. -/
def rawHeaderToken : String := "Pistache::Http::Header::Raw"

def typeTokens : Table String := .ofList [
  ("date", "std::string"), ("DateTime", "std::string"), ("string", "std::string"),
  ("integer", "int32_t"), ("long", "int64_t"), ("boolean", "bool"), ("number", "double"),
  ("double", "double"), ("float", "float"), ("array", "std::vector"), ("map", "std::map"),
  ("set", "std::set"), ("file", "std::string"), ("object", "nlohmann::json"),
  ("binary", "std::string"), ("UUID", "std::string"), ("URI", "std::string"),
  ("ByteArray", "std::string"), ("AnyType", "nlohmann::json")]

/-- Tokens of a library, and the directives that declare them. -/
def includeDirectives : Table String := .ofList [
  ("std::vector", "#include <vector>"), ("std::map", "#include <map>"),
  ("std::set", "#include <set>"), ("std::string", "#include <string>"),
  ("nlohmann::json", "#include <nlohmann/json.hpp>")]

def primitiveTokens : List String :=
  ["int", "char", "bool", "long", "float", "double", "int32_t", "int64_t"]

/-- Tokens that never stand in the namespace of the models. -/
def bareTokens : List String := ["nlohmann::json"]

def leafName : Leaf → String
  | .boolean => "boolean"
  | .integer => "integer"
  | .long => "long"
  | .float => "float"
  | .double => "number"
  | .string | .enumeration _ => "string"
  | .date => "date"
  | .dateTime => "DateTime"
  | .byteArray => "ByteArray"
  | .binary => "binary"
  | .uuid => "UUID"
  | .uri => "URI"
  | .any => "object"

def unionName : String := "AnyType"

def containerName : Container → String
  | .array => "array"
  | .set => "set"
  | .map => "map"

end ServerScaffold.Cpp
