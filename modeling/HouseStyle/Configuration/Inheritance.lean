import HouseStyle.Configuration.Basic
import HouseStyle.Configuration.Sheet
import HouseStyle.Document.Basic

namespace HouseStyle

/-!
# Inheritance

A configuration may extend others. What it extends is merged in the order of
its list, each with all that it extends itself, and the configuration's own
entries come last. A configuration that extends itself over any number of steps
is refused. Paths of word lists are anchored to the directory of the document
that names them before anything is merged; a mapping of parameters that several
rules share is anchored once for each of them.
-/

/-- Anchor the path of the word list in some parameters. -/
def anchorParams
    (surroundings : Surroundings)
    (base : Path)
    (params : Entries) :
    Except ConfigFailure Entries :=
  match params.get? "lexicon_file" with
  | some (.scalar (.text spelling)) =>
      if spelling = "" then
        .ok params
      else do
        let path ← Sheet.expand surroundings spelling
        if path.isAbsolute then
          pure params
        else
          pure
            (params.put
              (.text "lexicon_file")
              (.text (base.join path).render))
  | _ => .ok params

/-- Anchor the path of the word list in some parameters several times. -/
def anchorRepeatedly
    (surroundings : Surroundings)
    (base : Path)
    (params : Entries) :
    Nat →
    Except ConfigFailure Entries
  | 0 => .ok params
  | times + 1 => do
      let params ← anchorParams surroundings base params
      anchorRepeatedly surroundings base params times

/-- The mapping that the settings of a rule take its parameters from. -/
def paramsNumber?
    (settings : Document)
    (origin : Yaml.Origin) :
    Option Nat :=
  match settings with
  | .map entries =>
      match Entries.get? entries "params", origin.under "params" with
      | some (.map _), .map number _ => some number
      | _, _ => none
  | _ => none

/-- The values of a mapping, each with its origin. -/
def valuesOf
    (document : Document)
    (origin : Yaml.Origin) :
    List (Document × Yaml.Origin) :=
  match document with
  | .map entries =>
      entries.map fun (key, value) => (value, origin.at key)
  | _ => []

/-- The mappings of parameters in a table of rules, one for each rule. -/
def paramsOfTable
    (table : Document)
    (origin : Yaml.Origin) :
    List Nat :=
  (valuesOf table origin).filterMap fun (settings, origin) =>
    paramsNumber? settings origin

/-- The mappings of parameters in the tables of languages. -/
def paramsOfLanguages
    (languages : Document)
    (origin : Yaml.Origin) :
    List Nat :=
  (valuesOf languages origin).flatMap fun (table, origin) =>
    paramsOfTable table origin

mutual

/-- Anchor the word lists of a document, as often as its mappings are counted. -/
def Document.anchored
    (surroundings : Surroundings)
    (base : Path)
    (params : List Nat)
    (origin : Yaml.Origin) :
    Document →
    Except ConfigFailure Document
  | .map entries =>
      match origin with
      | .map number _ => do
          let entries ← anchoredEntries surroundings base params origin entries
          let entries ←
            anchorRepeatedly surroundings base entries (params.count number)
          pure (.map entries)
      | _ => .ok (.map entries)
  | .list items =>
      match origin with
      | .list origins =>
          (anchoredItems surroundings base params origins items).map .list
      | _ => .ok (.list items)
  | document => .ok document

/-- Anchor the word lists in the values of a mapping. -/
def anchoredEntries
    (surroundings : Surroundings)
    (base : Path)
    (params : List Nat)
    (origin : Yaml.Origin) :
    List (Scalar × Document) →
    Except ConfigFailure Entries
  | [] => .ok []
  | (key, value) :: rest => do
      let value ← value.anchored surroundings base params (origin.at key)
      let rest ← anchoredEntries surroundings base params origin rest
      pure ((key, value) :: rest)

/-- Anchor the word lists in the items of a list. -/
def anchoredItems
    (surroundings : Surroundings)
    (base : Path)
    (params : List Nat)
    (origins : List Yaml.Origin) :
    List Document →
    Except ConfigFailure (List Document)
  | [] => .ok []
  | item :: rest => do
      let origin := origins.head?.getD .plain
      let item ← item.anchored surroundings base params origin
      let rest ← anchoredItems surroundings base params (origins.drop 1) rest
      pure (item :: rest)

end

/-- Change the value under a key, if there is one. -/
def changeValue
    (key : String)
    (change : Document → Except ConfigFailure Document)
    (entries : Entries) :
    Except ConfigFailure Entries :=
  match entries.get? key with
  | some value => do
      let value ← change value
      pure (entries.put (.text key) value)
  | none => .ok entries

/-- Anchor the word lists in a part of a sheet, given how to find its parameters. -/
def Sheet.anchoredPart
    (surroundings : Surroundings)
    (sheet : Sheet)
    (key : String)
    (paramsOf : Document → Yaml.Origin → List Nat) :
    Entries →
    Except ConfigFailure Entries :=
  let origin := sheet.origin.under key
  changeValue key fun part =>
    part.anchored surroundings sheet.base (paramsOf part origin) origin

/-- The entries of a sheet with the paths of its word lists anchored. -/
def Sheet.anchored
    (surroundings : Surroundings)
    (sheet : Sheet) :
    Except ConfigFailure Entries := do
  let entries ←
    sheet.anchoredPart surroundings "rules" paramsOfTable sheet.entries
  sheet.anchoredPart surroundings "languages" paramsOfLanguages entries

/-- What a document extends. -/
def referencesOf (entries : Entries) : Except ConfigFailure (List Document) :=
  match entries.get? "extends" with
  | none => .ok []
  | some (.scalar (.text reference)) => .ok [.text reference]
  | some (.list references) => .ok references
  | some _ => .error (.refused .extendsShape)

/-- Refuse a chain of sheets that leads back to one of its own. -/
def circular {Value : Type} (key : String) : Except ConfigFailure Value :=
  .error (.refused (.circular key))

namespace Sheet

/--
What reads a sheet with all that it extends, given the keys of the sheets that
are being read already. It hands these keys back.
-/
abbrev Loader :=
  List String → Sheet → Except ConfigFailure (Entries × List String)

/-- The sheet that one of a document's references stands for. -/
def referenced
    (surroundings : Surroundings)
    (base : Path)
    (reference : Document) :
    Except ConfigFailure Sheet := do
  let spelling ← textOf reference
  ofReference surroundings base spelling

/-- Lay what references of a directory stand for over `merged`, in their order. -/
def mergeReferences
    (surroundings : Surroundings)
    (load : Loader)
    (base : Path)
    (merged : Entries)
    (opened : List String) :
    List Document →
    Except ConfigFailure (Entries × List String)
  | [] => .ok (merged, opened)
  | reference :: rest => do
      let parent ← referenced surroundings base reference
      let (entries, opened) ← load opened parent
      mergeReferences surroundings load base (merged.merge entries) opened rest

/--
The entries of a sheet laid over all that it extends, which `load` reads. The
sheet's own key is among `opened` for as long as that takes.
-/
def inheritWith
    (surroundings : Surroundings)
    (load : Loader) :
    Loader :=
  fun opened sheet =>
    if opened.contains sheet.key then
      circular sheet.key
    else do
      let own ← sheet.anchored surroundings
      let references ← referencesOf own
      let (merged, opened) ←
        mergeReferences
          surroundings load sheet.base [] (sheet.key :: opened) references
      let all := merged.merge own
      pure (all.put (.text "extends") (.list references), opened.erase sheet.key)

/--
The entries of a sheet laid over all that it extends over fewer than `depth`
steps.
-/
def inherit (surroundings : Surroundings) : Nat → Loader
  | 0 => fun _ sheet => circular sheet.key
  | depth + 1 => inheritWith surroundings (inherit surroundings depth)

end Sheet

/--
A bound on the length of a chain of different sheets: every file, a text, a
preset, and the one that closes a circle.
-/
def chainBound (surroundings : Surroundings) : Nat :=
  surroundings.files.count + 3

namespace Sheet

/-- What reads a sheet however long the chains are that it extends. -/
def load (surroundings : Surroundings) : Loader :=
  inherit surroundings (chainBound surroundings)

/-- The entries of a sheet laid over all that it extends. -/
def merged
    (surroundings : Surroundings)
    (sheet : Sheet) :
    Except ConfigFailure Entries :=
  (load surroundings [] sheet).map Prod.fst

end Sheet

namespace Configuration

/-- The configuration in a file. -/
def ofFile
    (surroundings : Surroundings)
    (path : Path) :
    Except ConfigFailure Configuration := do
  let sheet ← Sheet.ofFile surroundings path
  let entries ← sheet.merged surroundings
  ofEntries entries (some path)

/-- The configuration in a text; relative paths start from a directory. -/
def ofText
    (surroundings : Surroundings)
    (text : String)
    (base : Path) :
    Except ConfigFailure Configuration := do
  let sheet ← Sheet.ofText text base
  let entries ← sheet.merged surroundings
  ofEntries entries none

/-- The configuration below every other one. -/
def packaged : Except ConfigFailure Configuration :=
  ofEntries Packaged.defaults none

end Configuration

end HouseStyle
