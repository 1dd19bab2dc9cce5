import PageObjects.Compile.Action
import PageObjects.Selector.Basic
import PageObjects.Text.Case

/-!
# Elements

The elements of a page object: the root (named `root`), basic elements,
components (elements whose type is another page object) and containers.
Each has a type, a selector (a container without one scopes its first child),
the name of the element whose scope it lives in, its parameters (those of its
ancestors' selectors first, then its own), visibility, an optional filter and a
description.

An element is a list when its selector returns all matches and no filter picks
the first one. Its getter is `get` and its capitalised name, with `Element`
added when it is private (`getRoot` or `getRootElement` for the root); the
getter takes the named scope parameters, then those of the filter and of its
matcher, and returns the element's type, or a list of it.

Two elements of one scope that locate the same nodes conflict when one is the
root, when two components differ in type, or when a component meets a basic
element; a container conflicts with nothing but the root.
-/

namespace PageObjects

/-- The variant of an element. -/
inductive ElementKind where
  | root
  | basic
  | custom
  | container
  deriving DecidableEq, Repr, Inhabited

/-- A filter that narrows a list selector by an action on each element found;
components have no known action. -/
structure ElementFilter where
  apply : String
  action : Option Action
  parameters : List Parameter := []
  matcher : Option Matcher := none
  findFirst : Bool := false
  deriving DecidableEq, Repr, Inhabited

/-- A declared element. -/
structure Element where
  kind : ElementKind
  name : String
  type : Ty
  selector : Option Selector := none
  scope : Option String := none
  parameters : List Parameter := []
  isPublic : Bool := false
  isNullable : Bool := false
  filter : Option ElementFilter := none
  description : String := ""
  deriving DecidableEq, Repr, Inhabited

namespace Element

/-- The name of the root element. -/
def rootName : String := "root"

/-- Whether an element is the root. -/
def isRoot (e : Element) : Bool := e.kind == .root

/-- Whether an element is a component. -/
def isCustom (e : Element) : Bool := e.kind == .custom

/-- Whether an element is a container. -/
def isContainer (e : Element) : Bool := e.kind == .container

/-- Whether an element's getter returns a list: its selector returns all, and
no filter picks the first match. -/
def isList (e : Element) : Bool :=
  match e.selector with
  | some s => s.returnsAll && (match e.filter with
    | some f => !f.findFirst
    | none => true)
  | none => false

/-- The name of an element's getter. -/
def getterName (e : Element) : String :=
  if e.isRoot then (if e.isPublic then "getRoot" else "getRootElement")
  else "get" ++ Text.capitalize e.name ++ (if e.isPublic then "" else "Element")

/-- The type an element's getter returns. -/
def getterReturnType (e : Element) : Ty :=
  if e.isList then .list e.type else e.type

/-- The parameters of an element's getter: the named scope parameters, then
the named parameters of its filter and of the filter's matcher. -/
def getterParameters (e : Element) : List Parameter :=
  namedOnly e.parameters ++
    match e.filter with
    | some f =>
      namedOnly f.parameters ++
        match f.matcher with
        | some m => namedOnly m.parameters
        | none => []
    | none => []

/-- The type of a call of an element's getter passed as an argument value: a
component's type, a container, or the generic element, as a list for a list
element (a container never is one here). -/
def referenceType (e : Element) : Ty :=
  match e.kind with
  | .custom => if e.isList then .list e.type else e.type
  | .container => .container
  | _ => if e.isList then .list Ty.element else Ty.element

/-- The root element of a page object. -/
def root (type : Ty) (selector : Option Selector) (isPublic : Bool) (description : String) :
    Element :=
  { kind := .root, name := rootName, type, selector, isPublic, description }

/-- The conflict of two elements that may not share a scope, if they conflict:
`e` has a selector locating the same nodes as `other`'s, and one of them is the
root, or they are a component and a basic element, or two components of
different types. -/
def conflict? (e other : Element) : Option Fault :=
  match e.selector with
  | none => none
  | some s =>
    if !s.sameLocator other.selector then none
    else
      let clash := fun reason => some (Fault.selectorConflict reason e.name other.name s.render)
      if e.isRoot || other.isRoot then clash .root
      else if e.isContainer || other.isContainer then none
      else if e.isCustom && other.isCustom then
        if e.type != other.type then clash .componentTypes else none
      else if e.isCustom || other.isCustom then clash .componentAndBasic
      else none

/-- Why two elements cannot be checked or may not share a scope. -/
inductive PairFault where
  /-- A root without a selector cannot be compared. -/
  | unselectedRoot
  /-- The two elements conflict. -/
  | conflict (fault : Fault)
  deriving Repr

/-- The text of a pair fault. -/
def PairFault.message : PairFault → String
  | .unselectedRoot => "root element without a selector cannot be validated"
  | .conflict fault => fault.text

/-- Checks that two elements may share a scope; a root without a selector
cannot be compared. -/
def validatePair (e other : Element) : Except PairFault Unit :=
  if (e.isRoot && e.selector.isNone) || (other.isRoot && other.selector.isNone) then
    .error .unselectedRoot
  else
    match conflict? e other with
    | some fault => .error (.conflict fault)
    | none => .ok ()

/-- The owner of errors about an element. -/
def owner (e : Element) : String := s!"element '{e.name}'"

end Element

end PageObjects
