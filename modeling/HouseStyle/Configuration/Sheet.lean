import HouseStyle.Configuration.Fault
import HouseStyle.Configuration.Packaged
import HouseStyle.Yaml.Reading

namespace HouseStyle

/-!
# Sheets

A sheet is one configuration document before anything it extends is merged into
it: its entries, the mappings of its text that they come from, the directory its
relative paths start from, and a key by which it is known again.
-/

/-- One configuration document on its own. -/
structure Sheet where
  entries : Entries
  origin : Yaml.Origin
  /-- The directory that relative paths start from. -/
  base : Path
  /-- Equal for two readings of one document. -/
  key : String
  deriving Repr

/-- The keys that a configuration may hold. -/
def configurationKeys : List String :=
  ["name", "extends", "fail_on", "exclude", "rules", "languages"]

/-- The texts among keys in order, or a defect if another key is among them. -/
def sortedKeys (keys : List Scalar) : Except Defect (List String) :=
  match keys.mapM fun | .text key => some key | _ => none with
  | some texts => .ok (texts.mergeSort (· ≤ ·))
  | none => .error .mixedTypes

/-- The keys of a mapping that are not among those it may hold. -/
def strangeKeys
    (known : List String)
    (entries : Entries) :
    List Scalar :=
  (entries.map Prod.fst).filter fun key =>
    !known.any fun name => key.same (.text name)

/-- Refuse a mapping that holds other keys than those it may hold. -/
def refuseStrangeKeys
    (known : List String)
    (fault : List String → ConfigFault)
    (entries : Entries) :
    Except ConfigFailure Unit :=
  match strangeKeys known entries with
  | [] => .ok ()
  | key :: keys =>
      match sortedKeys (key :: keys) with
      | .ok names => .error (.refused (fault names))
      | .error defect => .error (.defect defect)

/-- The entries of a configuration text; an empty text holds none. -/
def parseEntries
    (origin text : String) :
    Except ConfigFailure (Entries × Yaml.Origin) :=
  match Yaml.read text with
  | .error .malformed => .error (.refused (.malformed origin))
  | .error fault => .error (.defect (.badScalar fault))
  | .ok reading =>
      match reading.document with
      | .scalar .null => .ok ([], .plain)
      | .map entries => do
          refuseStrangeKeys configurationKeys (.unknownKeys origin) entries
          pure (entries, reading.origin)
      | _ => .error (.refused (.notMapping origin))

/-- The text of bytes that have to spell one, with line breaks made equal. -/
def decodeText (bytes : ByteArray) : Except ConfigFailure String :=
  match decodeStrict? bytes.toList with
  | some text => .ok (String.ofList (unifyBreaks text))
  | none => .error (.defect .undecodable)

namespace Sheet

/-- The sheet of a text. -/
def ofText
    (text : String)
    (base : Path) :
    Except ConfigFailure Sheet :=
  (parseEntries "<string>" text).map fun (entries, origin) =>
    { entries, origin, base, key := "<string>" }

/-- The sheet in a file. -/
def ofFile
    (surroundings : Surroundings)
    (path : Path) :
    Except ConfigFailure Sheet :=
  match surroundings.bytes path with
  | .error .embeddedNul => .error (.defect (.badPath .embeddedNul))
  | .error reason => .error (.refused (.unreadable path reason))
  | .ok bytes => do
      let text ← decodeText bytes
      let (entries, origin) ← parseEntries path.render text
      pure
        { entries
          origin
          base := path.parent
          key := (surroundings.resolve path).render }

/-- The sheet of a preset. -/
def ofPreset (name : String) : Except ConfigFailure Sheet :=
  match Packaged.preset? name with
  | .error fault => .error (.defect (.badPath fault))
  | .ok (some entries) =>
      .ok
        { entries
          origin := .plain
          base := Path.ofString "."
          key := "preset:" ++ name }
  | .ok none => .error (.refused (.unknownPreset name))

/-- The mark that tells the name of a preset from a path. -/
def presetMark : String := "preset:"

/-- A path with a leading `~` expanded. -/
def expand
    (surroundings : Surroundings)
    (spelling : String) :
    Except ConfigFailure Path :=
  match surroundings.expandHome? (Path.ofString spelling) with
  | some path => .ok path
  | none => .error (.defect .unknownHome)

/-- The sheet that a reference stands for in a document of that directory. -/
def ofReference
    (surroundings : Surroundings)
    (base : Path)
    (reference : String) :
    Except ConfigFailure Sheet :=
  if reference.startsWith presetMark then
    ofPreset (String.ofList (reference.toList.drop presetMark.length))
  else do
    let path ← expand surroundings reference
    ofFile surroundings (base.join path)

end Sheet

end HouseStyle
