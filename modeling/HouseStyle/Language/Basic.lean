namespace HouseStyle

/-!
# Languages

The languages a source file can be written in, and the vocabulary their
profiles share: what role a block plays and who may see a declaration.
-/

/-- A supported language. -/
inductive Language
  | java
  | javascript
  | typescript
  | csharp
  | go
  | c
  | python
  deriving Repr, DecidableEq, Inhabited

namespace Language

/-- Every language, in the order of the catalogue. -/
def all : List Language :=
  [.java, .javascript, .typescript, .csharp, .go, .c, .python]

/-- The name a configuration uses for a language. -/
def name : Language → String
  | .java => "java"
  | .javascript => "javascript"
  | .typescript => "typescript"
  | .csharp => "csharp"
  | .go => "go"
  | .c => "c"
  | .python => "python"

/-- Every language, by name. -/
def sorted : List Language :=
  [.c, .csharp, .go, .java, .javascript, .python, .typescript]

/-- The language of that name. -/
def ofName? (name : String) : Option Language :=
  all.find? (fun language => language.name == name)

/-- Reading a language's own name gives the language back. -/
theorem ofName?_name (language : Language) :
    ofName? language.name = some language := by
  cases language <;> rfl

/-- The catalogue misses no language. -/
theorem mem_all (language : Language) :
    language ∈ all := by
  cases language <;> decide

end Language

/-- The structural role of a block. -/
inductive BlockKind
  | method
  | conditional
  | loop
  | attempt
  | type
  | switchCase
  | other
  deriving Repr, DecidableEq, Inhabited

/-- The name a report uses for a kind of block. -/
def BlockKind.name : BlockKind → String
  | .method => "method"
  | .conditional => "conditional"
  | .loop => "loop"
  | .attempt => "try"
  | .type => "class"
  | .switchCase => "switch-case"
  | .other => "other"

/-- Every kind of block. -/
def BlockKind.all : List BlockKind :=
  [.method, .conditional, .loop, .attempt, .type, .switchCase, .other]

/-- Who may see a declaration. -/
inductive Visibility
  | everyone
  | heirs
  | owner
  | unspecified
  deriving Repr, DecidableEq, Inhabited

/-- The name a configuration uses for a visibility. -/
def Visibility.name : Visibility → String
  | .everyone => "public"
  | .heirs => "protected"
  | .owner => "private"
  | .unspecified => "unspecified"

/-- Every visibility. -/
def Visibility.all : List Visibility :=
  [.everyone, .heirs, .owner, .unspecified]

/-- The visibility of that name. -/
def Visibility.ofName? (name : String) : Option Visibility :=
  all.find? (fun visibility => visibility.name == name)

end HouseStyle
