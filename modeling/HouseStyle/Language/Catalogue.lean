import HouseStyle.Language.Profile

namespace HouseStyle

/-!
# The catalogue of languages

One profile a language. Supporting another language means adding an entry here.
-/

/-- Control keywords shared by the languages of the C family. -/
def familyControl : List (String × BlockKind) :=
  [("if", .conditional), ("else", .conditional), ("for", .loop),
    ("while", .loop), ("do", .loop), ("switch", .switchCase),
    ("try", .attempt), ("catch", .attempt), ("finally", .attempt)]

/-- Access modifiers shared by the object-oriented languages. -/
def accessKeywords : List (String × Visibility) :=
  [("public", .everyone), ("protected", .heirs), ("private", .owner)]

/-- Java. -/
def javaProfile : Profile where
  language := .java
  extensions := [".java"]
  keywords :=
    ["abstract", "assert", "boolean", "break", "byte", "case", "catch", "char",
      "class", "const", "continue", "default", "do", "double", "else", "enum",
      "extends", "final", "finally", "float", "for", "goto", "if",
      "implements", "import", "instanceof", "int", "interface", "long",
      "native", "new", "package", "private", "protected", "public", "return",
      "short", "static", "strictfp", "super", "switch", "synchronized", "this",
      "throw", "throws", "transient", "try", "var", "void", "volatile",
      "while", "true", "false", "null", "record"]
  controlKeywords := familyControl
  classKeywords := ["class", "interface", "enum", "record"]
  modifierKeywords :=
    ["static", "final", "abstract", "synchronized", "native", "transient",
      "volatile", "strictfp", "default"]
  visibilityKeywords := accessKeywords
  typeKeywords :=
    ["boolean", "byte", "char", "short", "int", "long", "float", "double",
      "void", "var"]

/-- The reserved words of JavaScript. -/
def scriptKeywords : List String :=
  ["async", "await", "break", "case", "catch", "class", "const", "continue",
    "debugger", "default", "delete", "do", "else", "export", "extends",
    "finally", "for", "function", "if", "import", "in", "instanceof", "let",
    "new", "of", "return", "static", "super", "switch", "this", "throw", "try",
    "typeof", "var", "void", "while", "with", "yield", "true", "false", "null"]

/-- JavaScript. -/
def javascriptProfile : Profile where
  language := .javascript
  extensions := [".js", ".jsx", ".mjs", ".cjs"]
  keywords := scriptKeywords
  stringQuotes := ["\"", "'", "`"]
  multilineQuotes := ["`"]
  nameShape := { sigil := true, dollar := true }
  controlKeywords := familyControl
  classKeywords := ["class"]
  modifierKeywords := ["static", "async", "export", "default"]
  visibilityKeywords := []
  bindingKeywords := ["var", "let", "const"]
  constructorNames := ["constructor"]
  newlineTerminates := true
  regexLiterals := true

/-- TypeScript. -/
def typescriptProfile : Profile where
  language := .typescript
  extensions := [".ts", ".tsx", ".mts", ".cts"]
  keywords :=
    scriptKeywords ++
      ["abstract", "declare", "enum", "implements", "interface", "namespace",
        "private", "protected", "public", "readonly", "type"]
  stringQuotes := ["\"", "'", "`"]
  multilineQuotes := ["`"]
  nameShape := { sigil := true, dollar := true }
  controlKeywords := familyControl
  modifierKeywords :=
    ["static", "async", "export", "default", "readonly", "abstract", "declare"]
  visibilityKeywords := accessKeywords
  bindingKeywords := ["var", "let", "const"]
  constructorNames := ["constructor"]
  newlineTerminates := true
  regexLiterals := true

/-- C#. -/
def csharpProfile : Profile where
  language := .csharp
  extensions := [".cs"]
  keywords :=
    ["abstract", "as", "base", "bool", "break", "byte", "case", "catch",
      "char", "checked", "class", "const", "continue", "decimal", "default",
      "delegate", "do", "double", "else", "enum", "event", "explicit",
      "extern", "false", "finally", "fixed", "float", "for", "foreach", "goto",
      "if", "implicit", "in", "int", "interface", "internal", "is", "lock",
      "long", "namespace", "new", "null", "object", "operator", "out",
      "override", "params", "private", "protected", "public", "readonly",
      "ref", "return", "sbyte", "sealed", "short", "sizeof", "static",
      "string", "struct", "switch", "this", "throw", "true", "try", "typeof",
      "uint", "ulong", "unchecked", "unsafe", "ushort", "using", "var",
      "virtual", "void", "volatile", "while", "record", "async", "await"]
  stringPrefixes := "@$"
  rawPrefixes := "@"
  controlKeywords := familyControl ++ [("foreach", .loop)]
  classKeywords := ["class", "interface", "enum", "struct", "record"]
  modifierKeywords :=
    ["static", "readonly", "const", "abstract", "sealed", "virtual",
      "override", "async", "extern", "unsafe", "volatile", "partial"]
  visibilityKeywords := accessKeywords ++ [("internal", .heirs)]
  typeKeywords :=
    ["bool", "byte", "sbyte", "char", "decimal", "double", "float", "int",
      "uint", "long", "ulong", "short", "ushort", "object", "string", "var",
      "dynamic", "void"]

/-- Go. -/
def goProfile : Profile where
  language := .go
  extensions := [".go"]
  keywords :=
    ["break", "case", "chan", "const", "continue", "default", "defer", "else",
      "fallthrough", "for", "func", "go", "goto", "if", "import", "interface",
      "map", "package", "range", "return", "select", "struct", "switch",
      "type", "var", "true", "false", "nil"]
  stringQuotes := ["\"", "'", "`"]
  multilineQuotes := ["`"]
  rawQuotes := ["`"]
  controlKeywords :=
    [("if", .conditional), ("else", .conditional), ("for", .loop),
      ("switch", .switchCase), ("select", .switchCase)]
  continuationKeywords := ["else"]
  classKeywords := ["struct", "interface"]
  visibilityKeywords := []
  bindingKeywords := ["var", "const"]
  newlineTerminates := true
  parenConditions := false
  nameBeforeType := true
  capitalizedVisibility := true

/-- C. Preprocessor lines read as comments. -/
def cProfile : Profile where
  language := .c
  extensions := [".c", ".h"]
  keywords :=
    ["auto", "break", "case", "char", "const", "continue", "default", "do",
      "double", "else", "enum", "extern", "float", "for", "goto", "if",
      "inline", "int", "long", "register", "restrict", "return", "short",
      "signed", "sizeof", "static", "struct", "switch", "typedef", "union",
      "unsigned", "void", "volatile", "while", "NULL"]
  lineComments := ["//", "#"]
  controlKeywords :=
    [("if", .conditional), ("else", .conditional), ("for", .loop),
      ("while", .loop), ("do", .loop), ("switch", .switchCase)]
  continuationKeywords := ["else"]
  classKeywords := ["struct", "union", "enum"]
  modifierKeywords :=
    ["static", "extern", "const", "volatile", "register", "inline", "restrict",
      "auto"]
  visibilityKeywords := []
  typeKeywords :=
    ["char", "short", "int", "long", "float", "double", "void", "signed",
      "unsigned", "struct", "union", "enum"]

/-- Python. -/
def pythonProfile : Profile where
  language := .python
  extensions := [".py", ".pyi"]
  keywords :=
    ["False", "None", "True", "and", "as", "assert", "async", "await", "break",
      "class", "continue", "def", "del", "elif", "else", "except", "finally",
      "for", "from", "global", "if", "import", "in", "is", "lambda",
      "nonlocal", "not", "or", "pass", "raise", "return", "try", "while",
      "with", "yield"]
  blockStyle := .indent
  lineComments := ["#"]
  blockComments := []
  stringQuotes := ["\"\"\"", "'''", "\"", "'"]
  multilineQuotes := ["\"\"\"", "'''"]
  stringPrefixes := "rRbBfFuU"
  nameShape := { sigil := false, dollar := false }
  controlKeywords :=
    [("if", .conditional), ("elif", .conditional), ("else", .conditional),
      ("for", .loop), ("while", .loop), ("try", .attempt),
      ("except", .attempt), ("finally", .attempt), ("with", .other),
      ("match", .switchCase), ("case", .other)]
  continuationKeywords := ["elif", "else", "except", "finally"]
  classKeywords := ["class"]
  visibilityKeywords := []
  constructorNames := ["__init__"]
  underscoreVisibility := true

namespace Language

/-- The profile of a language. -/
def profile : Language → Profile
  | .java => javaProfile
  | .javascript => javascriptProfile
  | .typescript => typescriptProfile
  | .csharp => csharpProfile
  | .go => goProfile
  | .c => cProfile
  | .python => pythonProfile

/-- A profile describes the language it is filed under. -/
theorem profile_language (language : Language) :
    language.profile.language = language := by
  cases language <;> rfl

/-- The language that claims a file extension, the dot included. -/
def ofExtension? (extension : String) : Option Language :=
  all.find? (fun language => language.profile.extensions.contains extension)

end Language

end HouseStyle
