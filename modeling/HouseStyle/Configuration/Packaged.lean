import HouseStyle.Document.Basic
import HouseStyle.Files.Tree

namespace HouseStyle

/-!
# Packaged configurations

The configuration below every other one, and the presets that a configuration
can extend by name. They lie in a small tree of their own, and the name of a
preset is a path from the presets' directory.
-/

namespace Packaged

/-- Entries under text keys. -/
def entries (pairs : List (String × Document)) : Document :=
  .map (pairs.map fun (key, value) => (.text key, value))

/-- Settings that set nothing but parameters. -/
def withParams (pairs : List (String × Document)) : Document :=
  entries [("params", entries pairs)]

/-- Settings that set a pair of limits. -/
def withLimits (soft hard : Int) : Document :=
  withParams [("soft_limit", .int soft), ("hard_limit", .int hard)]

/-- Settings that set patterns of names. -/
def withPatterns (pairs : List (String × String)) : Document :=
  withParams
    [("patterns", entries (pairs.map fun (kind, pattern) => (kind, .text pattern)))]

/-- A list of texts. -/
def texts (items : List String) : Document :=
  .list (items.map Document.text)

/-- The verbs that names of methods may start with. -/
def verbs : List String :=
  ["accept", "add", "apply", "assert", "build", "calculate", "call", "can",
    "cancel", "check", "clear", "close", "collect", "compare", "compute",
    "configure", "convert", "copy", "count", "create", "decode", "delete",
    "dispatch", "do", "emit", "encode", "ensure", "evaluate", "execute",
    "expand", "export", "extract", "fetch", "filter", "find", "format",
    "generate", "get", "handle", "has", "import", "init", "initialize",
    "insert", "is", "iterate", "join", "list", "load", "log", "make", "map",
    "merge", "move", "normalize", "notify", "open", "parse", "prepare",
    "print", "process", "publish", "push", "put", "query", "read", "register",
    "reload", "remove", "render", "replace", "report", "reset", "resolve",
    "restore", "run", "save", "scan", "schedule", "send", "serialize", "set",
    "should", "show", "sort", "split", "start", "stop", "store", "to",
    "transform", "try", "update", "validate", "verify", "visit", "wait",
    "write"]

/-- The names of methods that are left alone in every language. -/
def ignored : List String :=
  ["^main$", "^__\\w+__$", "^(equals|hashCode|compareTo)$"]

/-- The settings for JavaScript and for TypeScript. -/
def scriptSettings : Document :=
  entries
    [("naming-convention",
      withPatterns
        [("method", "^#?[a-z][A-Za-z0-9]*$"),
          ("field", "^#?_?[a-z][A-Za-z0-9]*$"),
          ("variable", "^[a-z$_][A-Za-z0-9$]*$")])]

/-- The settings for C#. -/
def csharpSettings : Document :=
  entries
    [("block-length", withLimits 20 30),
      ("naming-convention",
        withPatterns
          [("method", "^[A-Z][A-Za-z0-9]*$"),
            ("field", "^(_?[a-z]|[A-Z])[A-Za-z0-9]*$")]),
      ("verb-named-method",
        withParams
          [("ignore",
            texts
              ["^Main$",
                "^(Equals|GetHashCode|ToString|CompareTo|Dispose)$"])])]

/-- The settings for Go. -/
def goSettings : Document :=
  entries
    [("naming-convention",
      withPatterns
        [("class", "^[A-Za-z][A-Za-z0-9]*$"),
          ("method", "^[A-Za-z][A-Za-z0-9]*$"),
          ("field", "^[A-Za-z][A-Za-z0-9]*$"),
          ("variable", "^[A-Za-z_][A-Za-z0-9]*$")])]

/-- The settings for C. -/
def cSettings : Document :=
  entries
    [("naming-convention",
      withPatterns
        [("class", "^([a-z_][a-z0-9_]*|[A-Z][A-Za-z0-9]*)$"),
          ("method", "^[a-z_][a-z0-9_]*$"),
          ("field", "^[a-z_][a-z0-9_]*$"),
          ("variable", "^[a-z_][a-z0-9_]*$")])]

/-- The settings for Python. -/
def pythonSettings : Document :=
  entries
    [("naming-convention",
      withPatterns
        [("class", "^_?[A-Z][A-Za-z0-9]*$"),
          ("method",
            "^(__[a-z][a-z0-9_]*__|_\x7b0,2\x7d[a-z][a-z0-9_]*)$"),
          ("field", "^_\x7b0,2\x7d[a-z][a-z0-9_]*$"),
          ("variable", "^_\x7b0,2\x7d[a-z][a-z0-9_]*$"),
          ("constant", "^_*[A-Z][A-Z0-9]*(_[A-Z0-9]+)*$")])]

/-- The configuration below every other one. -/
def defaults : Entries :=
  [(.text "name", .text "defaults"),
    (.text "fail_on", .text "warning"),
    (.text "rules",
      entries
        [("verb-named-method",
          withParams [("verbs", texts verbs), ("ignore", texts ignored)])]),
    (.text "languages",
      entries
        [("java", entries [("block-length", withLimits 20 30)]),
          ("csharp", csharpSettings),
          ("javascript", scriptSettings),
          ("typescript", scriptSettings),
          ("go", goSettings),
          ("c", cSettings),
          ("python", pythonSettings)])]

/-- The preset that reports less. -/
def relaxed : Entries :=
  [(.text "name", .text "relaxed"),
    (.text "fail_on", .text "error"),
    (.text "rules",
      entries
        [("line-length", withLimits 100 140),
          ("block-length", withLimits 30 60),
          ("magic-literal", withParams [("check_strings", .bool false)]),
          ("blank-line-placement",
            withParams [("check_returns", .bool false)]),
          ("verb-named-method", entries [("enabled", .bool false)]),
          ("explanatory-comment", entries [("enabled", .bool false)])])]

/-- The preset that reports more. -/
def strict : Entries :=
  [(.text "name", .text "strict"),
    (.text "fail_on", .text "warning"),
    (.text "rules",
      entries
        [("line-length", withLimits 80 100),
          ("block-length",
            entries
              [("severity", .text "error"),
                ("params",
                  entries
                    [("soft_limit", .int 10), ("hard_limit", .int 20),
                      ("soft_severity", .text "warning")])]),
          ("verb-named-method", entries [("severity", .text "warning")]),
          ("explanatory-comment", entries [("severity", .text "warning")])])]

/-- The presets by name. -/
def presets : List (String × Entries) :=
  [("relaxed", relaxed), ("strict", strict)]

/-- The directory of the presets. -/
def presetDirectory : FileNode Entries :=
  .directory (presets.map fun (name, entries) => (name ++ ".yaml", .file entries))

/-- The directory of all packaged configurations. -/
def configurationDirectory : FileNode Entries :=
  .directory [("defaults.yaml", .file defaults), ("presets", presetDirectory)]

/-- The directory of the program. -/
def programDirectory : FileNode Entries :=
  .directory [("ruleset", configurationDirectory)]

/-- The directories on the way to the presets, the nearest first. -/
def directoriesAbove : List (FileNode Entries) :=
  [configurationDirectory, programDirectory,
    .directory [("styleguard", programDirectory)]]

/-- The preset of that name; a name that is too long cannot be looked up. -/
def preset? (name : String) : Except LookupFault (Option Entries) :=
  let path := Path.ofString (name ++ ".yaml")
  if name.toList.contains '\x00' || path.isAbsolute then
    .ok none
  else if greatestPathSize < path.render.utf8ByteSize then
    .error .nameTooLong
  else
    match presetDirectory.follow directoriesAbove path.components with
    | .ok (.file entries) => .ok (some entries)
    | .error .nameTooLong => .error .nameTooLong
    | _ => .ok none

end Packaged

end HouseStyle
