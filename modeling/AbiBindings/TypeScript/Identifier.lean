/-!
# TypeScript — identifiers

Names from outside are arbitrary text; a declaration needs an identifier that is not a reserved
word. `safeIdent` turns the one into the other, and `propertyKey` and `propertyAccess` are for the
places where a name must not change and can be quoted instead.

* `isIdentifier` — the identifiers made of ASCII letters, digits, `_` and `$`;
* `isReserved` — words that a declaration cannot use as its name;
* `safeIdent` — the identifier that stands for a name.
-/

namespace AbiBindings.TypeScript

/-! ## Which names are identifiers -/

/-- Characters an identifier may begin with. -/
def isIdentStart (c : Char) : Bool := c.isAlpha || c == '_' || c == '$'

/-- Characters an identifier may go on with. -/
def isIdentPart (c : Char) : Bool := c.isAlphanum || c == '_' || c == '$'

/-- Whether `name` is a plain identifier. -/
def isIdentifier (name : String) : Bool :=
  match name.toList with
  | [] => false
  | c :: rest => isIdentStart c && rest.all isIdentPart

/-- Words that cannot name a binding in a module: keywords, literals and the names of basic types. -/
def reservedWords : List String := [
  "any", "arguments", "as", "await", "boolean", "break", "case", "catch", "class", "const",
  "constructor", "continue", "debugger", "declare", "default", "delete", "do", "else", "enum",
  "eval", "export", "extends", "false", "finally", "for", "function", "if", "implements",
  "import", "in", "instanceof", "interface", "let", "never", "new", "null", "number", "object",
  "package", "private", "protected", "public", "return", "static", "string", "super", "switch",
  "symbol", "this", "throw", "true", "try", "type", "typeof", "undefined", "unknown", "var",
  "void", "while", "with", "yield"]

/-- Whether `name` is a reserved word. -/
def isReserved (name : String) : Bool := reservedWords.contains name

/-! ## Turning a name into an identifier -/

/-- Characters without a place in an identifier become underscores. -/
def identChar (c : Char) : Char := if isIdentPart c then c else '_'

/-- An underscore goes in front of nothing and in front of a digit. -/
def guardStart : List Char → List Char
  | [] => ['_']
  | c :: rest => if c.isDigit then '_' :: c :: rest else c :: rest

/-- An underscore goes behind a reserved word. -/
def guardReserved (ident : String) : String := if isReserved ident then ident ++ "_" else ident

/-- The identifier that stands for `name`. -/
def safeIdent (name : String) : String :=
  guardReserved (String.ofList (guardStart (name.toList.map identChar)))

end AbiBindings.TypeScript
