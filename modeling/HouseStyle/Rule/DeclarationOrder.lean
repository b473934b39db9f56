import HouseStyle.Document.Order
import HouseStyle.Rule.Basic
import HouseStyle.Text.Lowercase

namespace HouseStyle

/-!
# Order of declarations

A type declares its constants first, then its fields, its constructor and its
methods by visibility. Each member has a rank; a member whose rank is below the
largest rank before it is out of order.
-/

namespace DeclarationOrder

/-- The names of the visibilities that methods are ordered by. -/
def visibilityNames : List String :=
  [Visibility.everyone.name, Visibility.heirs.name, Visibility.owner.name]

/-- The order of methods, and the visibility of a method that states none. -/
structure MethodOrder where
  visibilities : List Document
  default : Document
  deriving Repr

/-- The visibility by which a method is ordered. -/
def MethodOrder.visibilityOf
    (order : MethodOrder)
    (declaration : Declaration) :
    Document :=
  if declaration.visibility = .unspecified then
    order.default
  else
    .text declaration.visibility.name

/-- The rank of a member; nested types have none. -/
def MethodOrder.rank?
    (order : MethodOrder)
    (declaration : Declaration) :
    Option Nat :=
  match declaration.kind with
  | .constant => some 0
  | .field => some 1
  | .variable => some 1
  | .constructor => some 2
  | .method =>
      let visibility := order.visibilityOf declaration
      some (3 + order.visibilities.findIdx visibility.same)
  | .type => none

/-- What a rank holds. -/
def MethodOrder.label
    (order : MethodOrder)
    (rank : Nat) :
    String :=
  match rank with
  | 0 => "constants"
  | 1 => "fields"
  | 2 => "the constructor"
  | place + 3 =>
      ((order.visibilities[place]?).map Document.asText).getD "" ++ " methods"

/-- How a message names a member. -/
def describe (declaration : Declaration) : String :=
  match declaration.kind with
  | .constant => "Constant"
  | .field => "Field"
  | .variable => "Field"
  | .constructor => "Constructor"
  | .type => "Type"
  | .method =>
      if declaration.visibility = .unspecified then
        "Method"
      else
        capitalized declaration.visibility.name ++ " method"

/-- The findings for the members of a type, `reached` being the largest rank. -/
def findingsFrom
    (order : MethodOrder)
    (severity : Severity)
    (reached : Nat) :
    List Declaration →
    List Finding
  | [] => []
  | declaration :: rest =>
      match order.rank? declaration with
      | none => findingsFrom order severity reached rest
      | some rank =>
          if rank < reached then
            { place := declaration.place
              severity
              message :=
                describe declaration ++ " '" ++ declaration.name ++
                  "' is declared after " ++ order.label reached } ::
              findingsFrom order severity reached rest
          else
            findingsFrom order severity rank rest

/-- The blocks that hold the members of a type. -/
def typeBlocks (model : SourceModel) : List Block :=
  model.blocks.toList.filter (·.kind == .type)

/-- The members that are out of order. -/
def findings
    (order : MethodOrder)
    (severity : Severity)
    (model : SourceModel) :
    List Finding :=
  (typeBlocks model).flatMap fun block =>
    findingsFrom order severity 0 (model.members (some block.index))

/-- The first method whose visibility the order does not list. -/
def unlisted?
    (order : MethodOrder)
    (model : SourceModel) :
    Option Document :=
  (typeBlocks model).findSome? fun block =>
    (model.members (some block.index)).findSome? fun declaration =>
      let visibility := order.visibilityOf declaration
      if declaration.kind = .method ∧
          ¬ order.visibilities.any visibility.same then
        some visibility
      else
        none

/-- Read the order of methods. -/
def MethodOrder.ofParams (params : Entries) : Except RuleFault MethodOrder := do
  let visibilities ← params.elementsParam "visibility_order"
  let default ← params.param "default_visibility"
  if visibilities.any Document.isTooLong then
    throw .longInteger
  else
    pure { visibilities, default }

/-- The texts of a list, if it holds nothing else. -/
def allTexts? (items : List Document) : Option (List String) :=
  items.mapM fun
    | .scalar (.text text) => some text
    | _ => none

/-- Refuse an order that misses or repeats a visibility. -/
def validate (params : Entries) : Except ParamFault Unit := do
  match params.get? "visibility_order" with
  | some (.list items) =>
      match allTexts? items with
      | some names =>
          if !names.isPerm visibilityNames then
            throw .incompleteVisibilityOrder
      | none =>
          if Document.sortable items then
            throw .incompleteVisibilityOrder
          else
            throw .mixedTypes
  | _ => throw .mixedTypes
  match params.get? "default_visibility" with
  | some (.scalar (.text name)) =>
      if !visibilityNames.contains name then
        throw (.unknownVisibility (.text name))
  | _ => throw .mixedTypes

end DeclarationOrder

/-- Members of a type stand in a fixed order. -/
def declarationOrder : Rule where
  id := "declaration-order"
  description := "Class members must be declared in a fixed order."
  defaultParams :=
    [(.text "visibility_order",
        .list (DeclarationOrder.visibilityNames.map .text)),
      (.text "default_visibility", .text Visibility.everyone.name)]
  validate := DeclarationOrder.validate
  check := fun model settings => do
    let order ← DeclarationOrder.MethodOrder.ofParams settings.params
    match DeclarationOrder.unlisted? order model with
    | some visibility =>
        if visibility.isTooLong then
          throw .longInteger
        else
          throw (.unlistedVisibility visibility)
    | none => pure (DeclarationOrder.findings order settings.severity model)

end HouseStyle
