/-! # Words of the target language that are no free names -/
namespace RestScaffold

def targetLanguage : String := "rust"

/-- What the names of source files end in, after the dot. -/
def fileExtension : String := "rs"

/-- The keywords that can be used as names once they are escaped. -/
def reservedWords : List String := [
  "as", "async", "await", "break", "const", "continue", "dyn", "else", "enum", "extern", "false",
  "fn", "for", "if", "impl", "in", "let", "loop", "match", "mod", "move", "mut", "pub", "ref",
  "return", "static", "struct", "trait", "true", "type", "unsafe", "use", "where", "while",
  "abstract", "become", "box", "do", "final", "gen", "macro", "override", "priv", "try", "typeof",
  "unsized", "virtual", "yield"]

/-- The words that no escape turns into a name. -/
def forbiddenWords : List String := ["crate", "self", "Self", "super", "_"]

/-- The words that name a place in the module tree. -/
def pathKeywords : List String := ["crate", "self", "super"]

/-- Every keyword, escapable or not. -/
def isKeyword (name : String) : Bool :=
  reservedWords.contains name || pathKeywords.contains name || name == "Self"

/-- The types that the generated files use by these names. -/
def generatedTypes : List String := [
  "Deserialize", "IntoResponse", "Json", "JsonRejection", "Path", "PgPool", "Response", "Result",
  "Serialize", "State", "StatusCode", "String"]

/-- The names bound in a generated handler besides the record. -/
def handlerLocals : List String := ["error_response", "id", "pool"]

end RestScaffold
