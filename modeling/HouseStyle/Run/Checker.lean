import HouseStyle.Files.Collection
import HouseStyle.Rule.Evaluation

namespace HouseStyle

/-!
# Checking one file

A file is decoded, read into a model and shown to the rules. A file whose text
cannot be read has one violation that says so; a file whose bytes cannot be read
has no result.
-/

/-- Why a reader gives no model. -/
inductive ReaderFault
  | refused (fault : Fault)
  /-- The reader itself failed. -/
  | failed (description : String)
  deriving Repr, DecidableEq

/-- The line that a reader's fault is shown at. -/
def ReaderFault.line : ReaderFault → Nat
  | .refused fault => fault.line
  | .failed _ => 1

/-- The wording of a reader's fault. -/
def ReaderFault.message : ReaderFault → String
  | .refused fault => fault.cause.message
  | .failed description => description

/-- How source files become models. -/
abbrev Reader := SourceFile → Except ReaderFault SourceModel

/-- The reader of the library. -/
def Reader.standard : Reader :=
  fun source => (SourceModel.build source).mapError .refused

/-- What it takes to check a file. -/
structure Checker where
  surroundings : Surroundings
  registry : Registry
  rules : RuleSet
  reader : Reader := Reader.standard

/-- The rule id of files that cannot be read into a model. -/
def unparseableId : String := "unparseable-file"

/-- The violation of a file that cannot be read into a model. -/
def unparseable
    (source : SourceFile)
    (fault : ReaderFault) :
    Violation :=
  let last := max (splitLines source.text).size 1
  { ruleId := unparseableId
    path := source.path
    line := (min (max fault.line 1) last : Nat)
    column := 1
    severity := .error
    message :=
      "Cannot parse as " ++ source.language.name ++ ": " ++ fault.message
    advisory := false }

namespace Checker

/-- The source file at a path, if it is written in a known language and read. -/
def source?
    (checker : Checker)
    (path : String) :
    Except LookupFault (Option SourceFile) :=
  match Language.ofPath? path with
  | none => .ok none
  | some language =>
      match checker.surroundings.bytes (Path.ofString path) with
      | .error .embeddedNul => .error .embeddedNul
      | .error _ => .ok none
      | .ok bytes =>
          let text := String.ofList (unifyBreaks (decodeLenient bytes.toList))
          .ok (some { path, text, language })

/-- What the rules say of a source file. -/
def evaluate
    (checker : Checker)
    (source : SourceFile) :
    Evaluation :=
  match checker.reader source with
  | .error fault => { violations := [unparseable source fault] }
  | .ok model =>
      checker.registry.evaluate
        model
        (checker.rules.enabledFor source.language)

/-- What the rules say of the file at a path, if it can be read. -/
def checkFile
    (checker : Checker)
    (path : String) :
    Except LookupFault (Option Evaluation) :=
  (checker.source? path).map (·.map checker.evaluate)

/-- The same for a path that has been collected, which can be looked up. -/
def checkCollected
    (checker : Checker)
    (path : String) :
    Option Evaluation :=
  match checker.checkFile path with
  | .ok evaluation => evaluation
  | .error _ => none

end Checker

end HouseStyle
