import PageObjects.Parameter
import PageObjects.Error

/-!
# Actions and matchers

The actions a basic element offers, grouped by the capability that provides
them, each with its result type and the argument shapes it accepts, tried in
order when several have the arity of a call. `size` applies to a list element
as a whole; `waitFor` returns what its predicate returns.

An element may perform an action when its type is a basic element type with
the action's capability (every basic element is actionable), and, for a list
action, when it is a list.

A matcher turns a result into a boolean: `isTrue` and `isFalse` take a
boolean, `stringContains` and `stringEquals` a string and one string argument.
-/

namespace PageObjects

/-- An action of an element. -/
structure Action where
  name : String
  returnType : Ty
  capability : Capability
  shapes : List (List Ty) := [[]]
  /-- Applies to a list as a whole instead of each element. -/
  isListAction : Bool := false
  /-- Returns whatever the predicate argument returns. -/
  returnsPredicateResult : Bool := false
  description : String
  deriving DecidableEq, Repr, Inhabited

namespace Action

/-- The built-in actions, in catalog order. -/
def catalog : List Action :=
  [ { name := "blur", returnType := .void, capability := .actionable,
      description := "Remove focus from the element." },
    { name := "focus", returnType := .void, capability := .actionable,
      description := "Set focus on the element." },
    { name := "getAttribute", returnType := Ty.string, capability := .actionable,
      shapes := [[Ty.string]], description := "Value of the named attribute." },
    { name := "getClassAttribute", returnType := Ty.string, capability := .actionable,
      description := "Value of the class attribute." },
    { name := "getText", returnType := Ty.string, capability := .actionable,
      description := "Visible inner text." },
    { name := "getTitle", returnType := Ty.string, capability := .actionable,
      description := "Value of the title attribute." },
    { name := "getValue", returnType := Ty.string, capability := .actionable,
      description := "Value of the value property." },
    { name := "isEnabled", returnType := Ty.boolean, capability := .actionable,
      description := "Whether the element is enabled." },
    { name := "isFocused", returnType := Ty.boolean, capability := .actionable,
      description := "Whether the element has focus." },
    { name := "isPresent", returnType := Ty.boolean, capability := .actionable,
      description := "Whether the element is attached to the document." },
    { name := "isVisible", returnType := Ty.boolean, capability := .actionable,
      description := "Whether the element is displayed." },
    { name := "moveTo", returnType := .void, capability := .actionable,
      description := "Move the pointer over the element." },
    { name := "scrollToCenter", returnType := .void, capability := .actionable,
      description := "Scroll the element to the viewport center." },
    { name := "scrollToTop", returnType := .void, capability := .actionable,
      description := "Scroll the element to the top of the viewport." },
    { name := "containsElement", returnType := Ty.boolean, capability := .actionable,
      shapes := [[.locator], [.locator, Ty.boolean]],
      description := "Whether a descendant matches the locator; the flag searches in shadow DOM." },
    { name := "waitForAbsence", returnType := .void, capability := .actionable,
      description := "Wait until the element is removed." },
    { name := "waitForVisible", returnType := .void, capability := .actionable,
      description := "Wait until the element is displayed." },
    { name := "waitForInvisible", returnType := .void, capability := .actionable,
      description := "Wait until the element is hidden." },
    { name := "waitFor", returnType := .void, capability := .actionable,
      shapes := [[.function]], returnsPredicateResult := true,
      description := "Wait until the predicate returns a truthy value and return it." },
    { name := "size", returnType := Ty.number, capability := .actionable,
      isListAction := true, description := "Number of elements found by a list selector." },
    { name := "click", returnType := .void, capability := .clickable,
      description := "Click the element." },
    { name := "javascriptClick", returnType := .void, capability := .clickable,
      description := "Click the element using a script." },
    { name := "clear", returnType := .void, capability := .editable,
      description := "Clear the element's value." },
    { name := "clearAndType", returnType := .void, capability := .editable,
      shapes := [[Ty.string]], description := "Clear the value, then type text." },
    { name := "setText", returnType := .void, capability := .editable,
      shapes := [[Ty.string]], description := "Type text into the element." },
    { name := "press", returnType := .void, capability := .editable,
      shapes := [[Ty.string]], description := "Press a key while the element has focus." },
    { name := "flick", returnType := .void, capability := .touchable,
      shapes := [[Ty.number, Ty.number]], description := "Flick by an x/y offset." },
    { name := "dragAndDrop", returnType := .void, capability := .draggable,
      shapes := [[Ty.element], [Ty.element, Ty.number], [Ty.number, Ty.number],
        [Ty.number, Ty.number, Ty.number]],
      description :=
        "Drag to a target element or by an x/y offset, optionally holding for seconds." } ]

/-- The action of a name, if the catalog has one. -/
def find? (name : String) : Option Action :=
  catalog.find? (fun a => a.name == name)

/-- The arities of an action's shapes, in order. -/
def arities (a : Action) : List Nat := a.shapes.map List.length

/-- The shapes of an arity, in order, or the count error listing the arities. -/
def shapesFor (a : Action) (owner : Option String) (count : Nat) : Compiling (List (List Ty)) :=
  match a.shapes.filter (fun shape => shape.length == count) with
  | [] => failWith owner (.argumentCountMismatch a.arities count)
  | shapes => .ok shapes

/-- The text an editor shows for an action: its description, capability and
result type. -/
def summary (a : Action) : String :=
  a.description ++ " (" ++ a.capability.token ++ ", returns " ++ a.returnType.name ++ ")"

end Action

/-- Whether an element of a type, a list or not, may perform an action. -/
def Ty.offers (t : Ty) (a : Action) (isList : Bool) : Bool :=
  t.isBasic && t.hasCapability a.capability && (!a.isListAction || isList)

/-- The action of a name for an element of a type: unknown names and actions
the element may not perform are refused. -/
def lookupAction (owner : Option String) (elementType : Ty) (name elementName : String)
    (isList : Bool) : Compiling Action :=
  match Action.find? name with
  | none => failWith owner (.unknownAction name)
  | some a =>
    if elementType.offers a isList then .ok a
    else failWith owner (.actionNotSupported name elementName elementType.name)

/-- A kind of matcher: its name, the type it tests and the types of its
arguments. -/
structure MatcherKind where
  name : String
  operand : Ty
  argumentTypes : List Ty := []
  deriving DecidableEq, Repr, Inhabited

namespace MatcherKind

/-- The matcher kinds, in order. -/
def catalog : List MatcherKind :=
  [⟨"isTrue", Ty.boolean, []⟩, ⟨"isFalse", Ty.boolean, []⟩,
    ⟨"stringContains", Ty.string, [Ty.string]⟩, ⟨"stringEquals", Ty.string, [Ty.string]⟩]

/-- The matcher kind of a name, or the unknown-type error listing them. -/
def lookup (owner : Option String) (name : String) : Compiling MatcherKind :=
  match catalog.find? (fun m => m.name == name) with
  | some m => .ok m
  | none => failWith owner (.unknownType name (catalog.map MatcherKind.name))

end MatcherKind

/-- A resolved matcher with its parameters. -/
structure Matcher where
  kind : MatcherKind
  parameters : List Parameter
  deriving DecidableEq, Repr, Inhabited

end PageObjects
