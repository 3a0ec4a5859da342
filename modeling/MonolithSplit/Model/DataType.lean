import MonolithSplit.Schema.Shape

/-!
# Field data types

The eighteen data types a field of a data model can declare, in their fixed order, with their
names, and the small vocabulary of primitive types a proposal request describes them in.
-/

namespace MonolithSplit.Model

open MonolithSplit.Json MonolithSplit.Schema

/-- A field's declared data type. -/
inductive DataType where
  | singleLineText
  | multiLineText
  | email
  | wholeNumber
  | dateTime
  | decimalNumber
  | lookup
  | multiSelectOptionSet
  | optionSet
  | boolean
  | geographicLocation
  | id
  | createdAt
  | updatedAt
  | roles
  | username
  | password
  | json
  deriving DecidableEq, Repr, Inhabited

namespace DataType

/-- Every data type, in the fixed order. -/
def all : List DataType :=
  [.singleLineText, .multiLineText, .email, .wholeNumber, .dateTime, .decimalNumber, .lookup,
    .multiSelectOptionSet, .optionSet, .boolean, .geographicLocation, .id, .createdAt,
    .updatedAt, .roles, .username, .password, .json]

/-- The name a data type is written with. -/
def name : DataType → String
  | .singleLineText => "SingleLineText"
  | .multiLineText => "MultiLineText"
  | .email => "Email"
  | .wholeNumber => "WholeNumber"
  | .dateTime => "DateTime"
  | .decimalNumber => "DecimalNumber"
  | .lookup => "Lookup"
  | .multiSelectOptionSet => "MultiSelectOptionSet"
  | .optionSet => "OptionSet"
  | .boolean => "Boolean"
  | .geographicLocation => "GeographicLocation"
  | .id => "Id"
  | .createdAt => "CreatedAt"
  | .updatedAt => "UpdatedAt"
  | .roles => "Roles"
  | .username => "Username"
  | .password => "Password"
  | .json => "Json"

/-- The data type written with a name, if any. -/
def ofName? (s : String) : Option DataType :=
  all.find? (·.name = s)

/-- A data type is written as its name. -/
def shape : Shape := .choice (all.map name)

/-- The data type of a normalised value; names outside the list cannot occur there. -/
def ofDecoded (j : Value) : DataType :=
  ((j.string?).bind ofName?).getD .singleLineText

/-- A data type as a value. -/
def toJson (t : DataType) : Value := .string t.name

end DataType

/-- The primitive types a proposal request speaks of. -/
inductive Primitive where
  | string
  | int
  | float
  | bool
  | datetime
  | enum
  deriving DecidableEq, Repr

/-- The name of a primitive type. -/
def Primitive.name : Primitive → String
  | .string => "string"
  | .int => "int"
  | .float => "float"
  | .bool => "bool"
  | .datetime => "datetime"
  | .enum => "enum"

/-- The primitive type a data type is described by: texts and structured values are strings,
whole numbers and ids are ints, lookups and option sets are enums. -/
def DataType.primitive : DataType → Primitive
  | .singleLineText | .multiLineText | .email | .geographicLocation | .roles | .username
  | .password | .json => .string
  | .wholeNumber | .id => .int
  | .decimalNumber => .float
  | .boolean => .bool
  | .dateTime | .createdAt | .updatedAt => .datetime
  | .lookup | .optionSet | .multiSelectOptionSet => .enum

end MonolithSplit.Model
