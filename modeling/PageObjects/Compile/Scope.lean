import PageObjects.Compile.Argument
import PageObjects.Types.Naming
import PageObjects.Settings.Basic

/-!
# Declared elements

The elements of one page object in declaration order, with the settings of the
compiler. Declaring an element checks its name against every element declared
before it (the root holds `root`), and its selector against each earlier
element of the same scope, and against the root when the element lives in the
root's scope and the root has a selector.

Return and chain types resolve here: a primitive token first, then a type
reference through the type namer, then any registered token.
-/

namespace PageObjects

/-- The declared elements of a page object and the compiler's settings. -/
structure Scope where
  settings : Settings
  elements : List Element := []
  deriving Repr

namespace Scope

/-- The declared element of a name. -/
def lookup (s : Scope) (name : String) : Option Element :=
  s.elements.find? (fun e => e.name == name)

/-- The resolver of arguments for an owner. -/
def resolver (s : Scope) (owner : String) : Resolver :=
  ⟨some owner, s.lookup⟩

/-- Whether an element must be checked against an earlier one: the root when
the element lives in the root's scope and the root has a selector, any other
element when they share a scope. -/
def comparedWith (e other : Element) : Bool :=
  if other.isRoot then e.scope == some other.name && other.selector.isSome
  else other.scope == e.scope

/-- The first conflict of a new element with the elements before it. -/
def firstConflict? (e : Element) (earlier : List Element) : Option Fault :=
  if e.isRoot then none
  else earlier.findSome? (fun other => if comparedWith e other then e.conflict? other else none)

/-- Declares an element after checking its name and its selector. -/
def declare (s : Scope) (e : Element) : Compiling Scope :=
  if s.elements.any (fun other => other.name == e.name) then
    fail e.owner (.duplicateElementName e.name)
  else
    match firstConflict? e s.elements with
    | some fault => fail e.owner fault
    | none => .ok { s with elements := s.elements ++ [e] }

/-- The type of a return or chain token: a primitive, a page-object reference,
or a registered token. -/
def resolveType (owner : String) (token : String) : Compiling Ty :=
  if Registry.primitiveTokens.contains token then Registry.resolvePrimitive (some owner) token
  else if Naming.isTypeReference token then do
    let t ← Naming.typeName token
    return .custom t
  else Registry.resolve (some owner) token

/-- The type of an element from its type token: actionable when absent, a
capability list, a container, a page-object reference, or one capability. -/
def elementType (owner : String) : Option TypeToken → Compiling Ty
  | none => .ok Ty.actionable
  | some (.capabilities tokens) => Registry.basicElementType (some owner) (tokens.map Json.str)
  | some (.single token) =>
    if token == "container" then .ok .container
    else if Naming.isTypeReference token then do
      let t ← Naming.typeName token
      return .custom t
    else
      match Capability.ofToken? token with
      | some c => .ok (.basic [c])
      | none =>
        fail owner (.unknownType token (Registry.capabilityTokens ++ ["container"]))

end Scope

end PageObjects
