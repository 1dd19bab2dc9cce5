import PageObjects.Collections.Distinct

/-!
# Types of page-object values

The types a page-object declaration speaks of: the three primitives, locators
passed as values, opaque references, predicates (`function`), `void`,
containers, basic elements described by their capabilities, custom types named
by a package and a name (page objects and utilities), and lists.

A basic element's capabilities are kept canonical: in the fixed order
actionable, clickable, editable, touchable, draggable, each at most once. The
generic `element` type has none; every basic element can do what an actionable
one can.

Each type has a plain name, used in messages (`Name` for a custom type,
`Name[]` for a list of it), and a full text, used in compiled output
(`package.Name`). `Ty.referenced` lists what a declaration that uses a type
must import, and `requiredImports` is the ordered closure of that over a list
of types, each type once.
-/

namespace PageObjects

/-- What a basic element can do. -/
inductive Capability where
  | actionable
  | clickable
  | editable
  | touchable
  | draggable
  deriving DecidableEq, Repr, Inhabited

namespace Capability

/-- Every capability, in the fixed order. -/
def all : List Capability := [.actionable, .clickable, .editable, .touchable, .draggable]

/-- The grammar token of a capability. -/
def token : Capability → String
  | .actionable => "actionable"
  | .clickable => "clickable"
  | .editable => "editable"
  | .touchable => "touchable"
  | .draggable => "draggable"

/-- The capability a token names. -/
def ofToken? (token : String) : Option Capability :=
  all.find? (fun c => c.token == token)

/-- The canonical form of a set of capabilities: fixed order, each once. -/
def canonical (cs : List Capability) : List Capability :=
  all.filter (fun c => cs.contains c)

end Capability

/-- The primitive value types. -/
inductive Primitive where
  | boolean
  | number
  | string
  deriving DecidableEq, Repr, Inhabited

/-- The token of a primitive type. -/
def Primitive.token : Primitive → String
  | .boolean => "boolean"
  | .number => "number"
  | .string => "string"

/-- A type named by a package and a simple name. -/
structure TypeName where
  name : String
  package : String
  deriving DecidableEq, Repr, Inhabited

/-- The dotted full name of a named type, or its simple name without a package. -/
def TypeName.full (t : TypeName) : String :=
  if t.package.isEmpty then t.name else t.package ++ "." ++ t.name

/-- A type of a page-object declaration. -/
inductive Ty where
  /-- A primitive value. -/
  | primitive (p : Primitive)
  /-- A locator passed as a value. -/
  | locator
  /-- An opaque reference handed to the automation runtime. -/
  | reference
  /-- A predicate argument; never a runtime parameter. -/
  | function
  /-- No value. -/
  | void
  /-- A scope for a page object known only at run time. -/
  | container
  /-- A basic element with canonical capabilities; none for the generic element. -/
  | basic (capabilities : List Capability)
  /-- A page object or utility type. -/
  | custom (name : TypeName)
  /-- A list of values of a type. -/
  | list (item : Ty)
  deriving DecidableEq, Repr, Inhabited

namespace Ty

/-- The boolean type. -/
def boolean : Ty := primitive .boolean
/-- The number type. -/
def number : Ty := primitive .number
/-- The string type. -/
def string : Ty := primitive .string
/-- The generic element type, which accepts any basic element. -/
def element : Ty := basic []
/-- The actionable element type, the type of an element that declares none. -/
def actionable : Ty := basic [.actionable]

/-- The name of a basic element type: its capabilities joined by `+`, or
`element` for the generic one. -/
def basicName (cs : List Capability) : String :=
  if cs.isEmpty then "element" else "+".intercalate (cs.map Capability.token)

/-- The plain name of a type, as messages show it. -/
def name : Ty → String
  | primitive p => p.token
  | locator => "locator"
  | reference => "reference"
  | function => "function"
  | void => "void"
  | container => "container"
  | basic cs => basicName cs
  | custom t => t.name
  | list item => item.name ++ "[]"

/-- The full text of a type, as compiled output shows it. -/
def render : Ty → String
  | custom t => t.full
  | list item => item.render ++ "[]"
  | other => other.name

/-- The family a type belongs to. -/
def family : Ty → String
  | primitive _ => "Primitive"
  | locator => "Selector"
  | reference => "Reference"
  | function => "Function"
  | void => "Void"
  | container => "Container"
  | basic _ => "BasicElement"
  | custom _ => "Custom"
  | list _ => "List"

/-- Whether a type is a list. -/
def isList : Ty → Bool
  | list _ => true
  | _ => false

/-- Whether a type is `void`. -/
def isVoid : Ty → Bool
  | void => true
  | _ => false

/-- Whether a type is a basic element type. -/
def isBasic : Ty → Bool
  | basic _ => true
  | _ => false

/-- Whether an element of a type can do what a capability allows: a basic
element always can what an actionable one can. -/
def hasCapability (t : Ty) (c : Capability) : Bool :=
  match t with
  | basic cs => c == .actionable || cs.contains c
  | _ => false

/-- The types a declaration that uses a type must import: nothing for
primitives and `void`, one single-capability type per capability of a basic
element with several, the list itself and then what its items need. -/
def referenced : Ty → List Ty
  | primitive _ => []
  | void => []
  | basic cs => if cs.length ≤ 1 then [basic cs] else cs.map (fun c => basic [c])
  | list item => list item :: item.referenced
  | other => [other]

/-- The list type of a type. -/
def listOf (t : Ty) : Ty := list t

/-- The basic element type of a set of capabilities: actionable for none,
canonical otherwise. -/
def basicOf (cs : List Capability) : Ty :=
  match Capability.canonical cs with
  | [] => actionable
  | canonical => basic canonical

end Ty

/-- The ordered closure of the types a list of types references, each once. -/
def requiredImports (types : List Ty) : List Ty :=
  (types.flatMap Ty.referenced).firstOccurrences

end PageObjects
