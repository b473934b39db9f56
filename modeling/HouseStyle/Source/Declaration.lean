import HouseStyle.Source.Brace
import HouseStyle.Source.Indent
import HouseStyle.Source.Outline
import HouseStyle.Text.Digit

namespace HouseStyle

/-!
# Declarations

Which statements bind a name, which token is that name, what kind of thing it
names and who may see it. Languages with braces and languages with indentation
each have their own reading; both give at most one declaration a statement.
-/

/-- What a name stands for. -/
inductive DeclarationKind
  | type
  | method
  | constructor
  | field
  | variable
  | constant
  deriving Repr, DecidableEq, Inhabited

/-- The name a configuration uses for a kind of declaration. -/
def DeclarationKind.name : DeclarationKind → String
  | .type => "class"
  | .method => "method"
  | .constructor => "constructor"
  | .field => "field"
  | .variable => "variable"
  | .constant => "constant"

/-- Every kind of declaration. -/
def DeclarationKind.all : List DeclarationKind :=
  [.type, .method, .constructor, .field, .variable, .constant]

/-- A named binding; `block` is the block it is declared in. -/
structure Declaration where
  name : String
  kind : DeclarationKind
  visibility : Visibility
  block : Option Nat
  statement : Nat
  place : Position
  deriving Repr, DecidableEq, Inhabited

/-- The declaration that a statement makes under the name `name`. -/
def Statement.declaring
    (statement : Statement)
    (name : Placed)
    (kind : DeclarationKind)
    (visibility : Visibility) :
    Declaration :=
  { name := name.text
    kind
    visibility
    block := statement.parent
    statement := statement.index
    place := name.token.start }

/-- Tokens from `first` on and before `stop`, with their indices. -/
def tokensBetween
    (tokens : Array Token)
    (first stop : Nat) :
    List Placed :=
  ((tokens.extract first stop).toList.zipIdx first).map
    fun (token, index) => { index, token }

/-- Code tokens from `first` on and before `stop`, with their indices. -/
def codeBetween
    (tokens : Array Token)
    (first stop : Nat) :
    List Placed :=
  (tokensBetween tokens first stop).filter (·.token.isCode)

/-- The visibility that a name's spelling alone implies. -/
def nameVisibility
    (profile : Profile)
    (name : String) :
    Visibility :=
  if name.startsWith "#" then
    .owner
  else if profile.underscoreVisibility then
    if name.startsWith "__" && !name.endsWith "__" then
      .owner
    else if name.startsWith "_" && !name.startsWith "__" then
      .heirs
    else
      .everyone
  else if profile.capitalizedVisibility then
    match name.toList with
    | [] => .unspecified
    | first :: _ =>
        if 'A' ≤ first ∧ first ≤ 'Z' then
          .everyone
        else if 'a' ≤ first ∧ first ≤ 'z' then
          .owner
        else
          .unspecified
  else
    .unspecified

/-- Whether a name is in upper case throughout, as constants are. -/
def isUpperName (name : String) : Bool :=
  match name.toList.dropWhile (· == '_') with
  | [] => false
  | first :: rest =>
      ('A' ≤ first && first ≤ 'Z') &&
        rest.all fun character =>
          ('A' ≤ character && character ≤ 'Z') ||
            isAsciiDigit character || character == '_'

/-- Whether a declaration in this block is a member of a type. -/
def isTypeBody : Option Block → Bool
  | none => false
  | some block => block.kind == .type

/-- What a name bound to a value stands for. -/
def bindingKind
    (name : String)
    (parent : Option Block) :
    DeclarationKind :=
  if isUpperName name then
    .constant
  else if isTypeBody parent then
    .field
  else
    .variable

/-- What a name with a parameter list stands for. -/
def callableKind
    (profile : Profile)
    (name : String)
    (parent : Option Block) :
    DeclarationKind :=
  let ownType :=
    match parent with
    | none => false
    | some block => block.kind == .type && block.name == name
  if profile.constructorNames.contains name || ownType then
    .constructor
  else
    .method

/-! ## Languages with braces -/

/--
The tokens of a statement before the first assignment, semicolon or comma
outside all brackets, and the text of that token.
-/
def declarationHead
    (depth : Int)
    (reversed : List Placed) :
    List Placed →
    List Placed × String
  | [] => (reversed.reverse, "")
  | placed :: rest =>
      if placed.token.opensBracket then
        declarationHead (depth + 1) (placed :: reversed) rest
      else if placed.token.closesBracket then
        declarationHead (depth - 1) (placed :: reversed) rest
      else if depth = 0 ∧
          (placed.text ∈ [";", ","] ∨ placed.text ∈ assignments) then
        (reversed.reverse, placed.text)
      else
        declarationHead depth (placed :: reversed) rest

/-- What stands before a declared name. -/
structure Modifiers where
  visibility : Visibility
  /-- A keyword such as `let` binds the name. -/
  bound : Bool
  /-- The tokens after the modifiers. -/
  rest : List Placed

/-- Read annotations and modifier keywords. -/
def readModifiers
    (profile : Profile)
    (visibility : Visibility)
    (bound : Bool)
    (tokens : List Placed) :
    Modifiers :=
  match tokens with
  | [] => { visibility, bound, rest := [] }
  | placed :: rest =>
      if placed.reads "@" ∧ rest ≠ [] then
        have := length_dropMarkerName_le rest
        readModifiers profile visibility bound (dropMarkerName rest)
      else if placed.kind ≠ .keyword then
        { visibility, bound, rest := placed :: rest }
      else
        match profile.visibility? placed.text with
        | some stated => readModifiers profile stated bound rest
        | none =>
            if profile.bindingKeywords.contains placed.text then
              readModifiers profile visibility true rest
            else if profile.modifierKeywords.contains placed.text then
              readModifiers profile visibility bound rest
            else
              { visibility, bound, rest := placed :: rest }
  termination_by tokens.length

/-- The variable that a type and a name declare: the last of the tokens. -/
def typedName?
    (profile : Profile)
    (first : Placed)
    (tokens : List Placed) :
    Option Placed :=
  match tokens.reverse with
  | last :: before :: _ =>
      let otherKeyword :=
        first.kind == .keyword && !profile.typeKeywords.contains first.text
      let endsType :=
        before.kind == .identifier || before.kind == .keyword ||
          [">", "]", "*", "&", "?"].contains before.text
      if !otherKeyword && last.kind == .identifier && endsType then
        some last
      else
        none
  | _ => none

/-- The token that names what a statement declares. -/
def declaredName?
    (profile : Profile)
    (inType bound : Bool)
    (terminator : String)
    (tokens : List Placed) :
    Option Placed :=
  match tokens with
  | [] => none
  | first :: rest =>
      let isName := first.kind == .identifier
      if bound then
        if isName then some first else none
      else
        match rest with
        | [] =>
            if isName &&
                (terminator == ":=" ||
                  (inType && ["=", ";", ""].contains terminator)) then
              some first
            else
              none
        | second :: _ =>
            if isName && second.reads ":" then
              some first
            else
              match if inType then signature? tokens else none with
              | some name => some name
              | none =>
                  if rest.dropLast.any
                      (fun placed => placed.reads "(" || placed.reads ".") then
                    none
                  else if profile.nameBeforeType then
                    if inType && isName then some first else none
                  else
                    typedName? profile first tokens

/-- The declaration that a simple statement between braces makes. -/
def simpleDeclaration?
    (profile : Profile)
    (tokens : Array Token)
    (parent : Option Block)
    (statement : Statement) :
    Option Declaration :=
  let code := codeBetween tokens statement.first (statement.last + 1)
  let (head, terminator) := declarationHead 0 [] code
  let modifiers := readModifiers profile .unspecified false head
  let rest := modifiers.rest
  (declaredName? profile (isTypeBody parent) modifiers.bound terminator rest).map
    fun name =>
      let visibility :=
        if modifiers.visibility = .unspecified then
          nameVisibility profile name.text
        else
          modifiers.visibility
      let isLast := rest.getLast?.map Placed.index == some name.index
      let kind :=
        if !isLast && (signature? rest).isSome then
          callableKind profile name.text parent
        else
          bindingKind name.text parent
      statement.declaring name kind visibility

/-- The first visibility keyword before a name. -/
def statedVisibility
    (profile : Profile)
    (header : List Placed)
    (name : Placed) :
    Visibility :=
  ((header.takeWhile (·.index < name.index)).findSome? fun placed =>
    if placed.kind = .keyword then
      profile.visibility? placed.text
    else
      none).getD .unspecified

/-- The declaration that a named block between braces makes. -/
def bracedDeclaration?
    (profile : Profile)
    (tokens : Array Token)
    (parent : Option Block)
    (statement : Statement)
    (block : Block) :
    Option Declaration :=
  if block.name = "" then
    none
  else
    let header := codeBetween tokens block.first block.headerEnd
    let name? := header.find? (·.reads block.name) <|> header.getLast?
    name?.bind fun name =>
      let stated := statedVisibility profile header name
      let visibility :=
        if stated = .unspecified then
          nameVisibility profile block.name
        else
          stated
      match block.kind with
      | .type => some (statement.declaring name .type visibility)
      | .method =>
          let kind := callableKind profile block.name parent
          some (statement.declaring name kind visibility)
      | _ => none

/-- The declarations of a file in a language with braces, by statement. -/
def bracedDeclarations
    (profile : Profile)
    (tokens : Array Token)
    (outline : Outline) :
    List Declaration :=
  outline.statements.toList.filterMap fun statement =>
    let parent := statement.parent.bind fun index => outline.blocks[index]?
    match statement.block.bind fun index => outline.blocks[index]? with
    | some block => bracedDeclaration? profile tokens parent statement block
    | none => simpleDeclaration? profile tokens parent statement

/-! ## Languages with indentation -/

/-- The token behind the keyword that defines a block. -/
def definedName
    (keyword : String) :
    List Placed →
    Option Placed
  | [] => none
  | placed :: rest =>
      if placed.kind = .keyword ∧ placed.reads keyword then
        rest.head?
      else
        definedName keyword rest

/-- The declaration that a definition makes. -/
def suiteDeclaration?
    (profile : Profile)
    (tokens : Array Token)
    (parent : Option Block)
    (statement : Statement)
    (block : Block) :
    Option Declaration :=
  match definitionKeywords.lookup block.keyword with
  | none => none
  | some _ =>
      if block.name = "" then
        none
      else
        (definedName block.keyword
            (tokensBetween tokens block.first (block.headerEnd + 1))).map
          fun name =>
            let kind :=
              if block.kind = .type then
                .type
              else
                callableKind profile block.name parent
            statement.declaring name kind (nameVisibility profile block.name)

/-- The name that an assignment or an annotation at its start binds. -/
def boundName?
    (tokens : Array Token)
    (statement : Statement) :
    Option Placed :=
  match codeBetween tokens statement.first (statement.last + 1) with
  | target :: follower :: _ =>
      if target.kind = .identifier ∧ follower.text ∈ ["=", ":"] then
        some target
      else
        none
  | _ => none

/--
The declarations of a file in a language with indentation, by statement. Only
the first binding of a name in a body declares it; `bound` holds the names that
are bound already, with their bodies.
-/
def suiteDeclarationsFrom
    (profile : Profile)
    (tokens : Array Token)
    (outline : Outline)
    (bound : List (Option Nat × String))
    (reversed : List Declaration) :
    List Statement →
    List Declaration
  | [] => reversed.reverse
  | statement :: rest =>
      let parent := statement.parent.bind fun index => outline.blocks[index]?
      match statement.block.bind fun index => outline.blocks[index]? with
      | some block =>
          let found :=
            suiteDeclaration? profile tokens parent statement block
          suiteDeclarationsFrom
            profile tokens outline bound (found.toList ++ reversed) rest
      | none =>
          match boundName? tokens statement with
          | none =>
              suiteDeclarationsFrom profile tokens outline bound reversed rest
          | some name =>
              let key := (statement.parent, name.text)
              if bound.contains key then
                suiteDeclarationsFrom profile tokens outline bound reversed rest
              else
                let declaration :=
                  statement.declaring
                    name
                    (bindingKind name.text parent)
                    (nameVisibility profile name.text)
                suiteDeclarationsFrom
                  profile
                  tokens
                  outline
                  (key :: bound)
                  (declaration :: reversed)
                  rest

/-- Declarations in source order; equal places keep the order of statements. -/
def sortDeclarations (declarations : List Declaration) : List Declaration :=
  declarations.mergeSort fun left right => !right.place.before left.place

/-- The declarations of a file, in source order. -/
def declarationsOf
    (profile : Profile)
    (tokens : Array Token)
    (outline : Outline) :
    List Declaration :=
  sortDeclarations
    (match profile.blockStyle with
    | .braces => bracedDeclarations profile tokens outline
    | .indent =>
        suiteDeclarationsFrom
          profile tokens outline [] [] outline.statements.toList)

end HouseStyle
