import PageObjects.Types.Basic
import PageObjects.Decimal.Text

/-!
# Compilation errors

Every cause that stops the compilation of a page object, with the entity being
compiled when it was found (its owner, such as `method 'open'`) and, once the
error has left the page object, the page object's identifier.

The text of an error is `owner: cause`, or the cause alone without an owner;
after it leaves the page object it reads `page object 'id', owner: cause`. An
empty owner or identifier counts as none.
-/

namespace PageObjects

/-- Why two elements of one scope may not share a selector. -/
inductive ConflictReason where
  /-- Two components of different types. -/
  | componentTypes
  /-- A component and a basic element. -/
  | componentAndBasic
  /-- An element and the root element. -/
  | root
  deriving DecidableEq, Repr

namespace ConflictReason

/-- The text of a reason. -/
def text : ConflictReason → String
  | .componentTypes => "components with the same selector must have the same type"
  | .componentAndBasic => "a component and a basic element cannot have the same selector"
  | .root => "element cannot have the same selector as the root element"

end ConflictReason

/-- A cause that stops compilation. -/
inductive Fault where
  /-- A type token outside the allowed ones. -/
  | unknownType (token : String) (allowed : List String)
  /-- A type reference not of the form `namespace/kind/[sub/]name`. -/
  | invalidTypeReference (reference : String)
  /-- A number of arguments that no expected count allows. -/
  | argumentCountMismatch (expected : List Nat) (actual : Nat)
  /-- A value of one type where another is expected. -/
  | typeMismatch (expected actual : Ty)
  /-- Two parameters of one name. -/
  | duplicateArgumentName (name : String)
  /-- Two elements of one name. -/
  | duplicateElementName (name : String)
  /-- A reference to an element that is not declared. -/
  | unknownElement (name : String)
  /-- Two elements of one scope that share a selector they may not share. -/
  | selectorConflict (reason : ConflictReason) (element other selector : String)
  /-- A selector template that its kind does not accept. -/
  | invalidSelector (selector reason : String)
  /-- An action that no capability knows. -/
  | unknownAction (action : String)
  /-- An action that an element's type does not offer. -/
  | actionNotSupported (action element typeName : String)
  /-- A method body that contradicts its declaration. -/
  | redundantMethodBody (text : String)
  /-- A compose body, or a statement list, that is empty. -/
  | emptyComposeBody
  /-- A method without a body. -/
  | missingMethodBody
  /-- A declared return type that differs from the inferred one. -/
  | returnTypeMismatch (expected actual : Ty)
  /-- Two methods of one name, or a method named like a getter. -/
  | duplicateMethodName (name : String)
  /-- Predicates nested deeper than the limit. -/
  | predicateDepthExceeded (limit : Nat)
  /-- A document that does not follow the grammar. -/
  | malformedDeclaration (text : String)
  /-- An identifier given to two page objects of one batch. -/
  | duplicatePageObject (identifier : String)
  /-- A number with more digits than may be read. -/
  | oversizedNumber (digits : Nat)
  deriving Repr

namespace Fault

/-- The text of a cause. -/
def text : Fault → String
  | .unknownType token allowed =>
    s!"unknown type '{token}', supported types are: " ++ ", ".intercalate allowed
  | .invalidTypeReference reference =>
    "type should have format '<namespace>/<kind>/[<sub package>/]<name>', actual was '" ++
      reference ++ "'"
  | .argumentCountMismatch expected actual =>
    "expected " ++ " or ".intercalate (expected.map toString) ++ s!" parameters, provided {actual}"
  | .typeMismatch expected actual =>
    "expected type is '" ++ expected.name ++ "', actual was '" ++ actual.name ++ "'"
  | .duplicateArgumentName name => s!"duplicate arguments names '{name}'"
  | .duplicateElementName name => s!"element with name '{name}' already exists"
  | .unknownElement name => s!"unknown element with name '{name}'"
  | .selectorConflict reason element other selector =>
    reason.text ++ s!": elements '{element}' and '{other}' share selector " ++ selector
  | .invalidSelector selector reason => s!"invalid selector '{selector}': " ++ reason
  | .unknownAction action => s!"unknown action '{action}'"
  | .actionNotSupported action element typeName =>
    s!"action '{action}' is not supported by element '{element}' of type '{typeName}'"
  | .redundantMethodBody text => text
  | .emptyComposeBody => "compose statements list cannot be empty"
  | .missingMethodBody => "method must declare one of 'compose', 'chain' or 'externalUtility'"
  | .returnTypeMismatch expected actual =>
    "declared return type '" ++ expected.name ++ "' does not match inferred type '" ++
      actual.name ++ "'"
  | .duplicateMethodName name => s!"method with name '{name}' already exists"
  | .predicateDepthExceeded limit => s!"predicates nested deeper than {limit} levels"
  | .malformedDeclaration text => text
  | .duplicatePageObject identifier => s!"duplicate page object name '{identifier}'"
  | .oversizedNumber digits => Decimal.digitLimitMessage digits

/-- The name of the kind of a cause. -/
def kind : Fault → String
  | .unknownType .. => "UnknownType"
  | .invalidTypeReference .. => "InvalidTypeReference"
  | .argumentCountMismatch .. => "ArgumentCountMismatch"
  | .typeMismatch .. => "TypeMismatch"
  | .duplicateArgumentName .. => "DuplicateArgumentName"
  | .duplicateElementName .. => "DuplicateElementName"
  | .unknownElement .. => "UnknownElement"
  | .selectorConflict .componentTypes .. => "SameSelectorDifferentTypes"
  | .selectorConflict .componentAndBasic .. => "ComponentElementDuplicateSelector"
  | .selectorConflict .root .. => "DuplicateWithRootSelector"
  | .invalidSelector .. => "InvalidSelector"
  | .unknownAction .. => "UnknownAction"
  | .actionNotSupported .. => "ActionNotSupported"
  | .redundantMethodBody .. => "RedundantMethodBody"
  | .emptyComposeBody => "EmptyComposeBody"
  | .missingMethodBody => "MissingMethodBody"
  | .returnTypeMismatch .. => "ReturnTypeMismatch"
  | .duplicateMethodName .. => "DuplicateMethodName"
  | .predicateDepthExceeded .. => "PredicateDepthExceeded"
  | .malformedDeclaration .. => "MalformedDeclaration"
  | .duplicatePageObject .. => "DuplicatePageObject"
  | .oversizedNumber .. => "ValueError"

/-- Whether a cause is a fault of the document. The one other cause, a number
too long to read, stops the compiler itself: its text names no owner or page
object, and it ends a batch or a diagnosis at once. -/
def isCompilationFault : Fault → Bool
  | .oversizedNumber .. => false
  | _ => true

/-- Whether a cause is a type mismatch, the one cause under which another
overload of an action is tried. -/
def isTypeMismatch : Fault → Bool
  | .typeMismatch .. => true
  | _ => false

end Fault

/-- A compilation error: its cause, its owner, and the page object it left. -/
structure CompileError where
  fault : Fault
  owner : Option String := none
  pageObject : Option String := none
  deriving Repr

namespace CompileError

/-- An error with an owner. -/
def owned (owner : String) (fault : Fault) : CompileError := ⟨fault, some owner, none⟩

/-- An error without an owner. -/
def plain (fault : Fault) : CompileError := ⟨fault, none, none⟩

/-- Names the page object an error left, unless one is named already. -/
def leave (identifier : String) (e : CompileError) : CompileError :=
  match e.pageObject with
  | some _ => e
  | none => { e with pageObject := some identifier }

/-- The text of an error. -/
def message (e : CompileError) : String :=
  if !e.fault.isCompilationFault then e.fault.text else
  let body :=
    match e.owner with
    | some owner => if owner.isEmpty then e.fault.text else owner ++ ": " ++ e.fault.text
    | none => e.fault.text
  match e.pageObject with
  | some id => if id.isEmpty then body else "page object '" ++ id ++ "', " ++ body
  | none => body

/-- The name of the kind of an error. -/
def kind (e : CompileError) : String := e.fault.kind

end CompileError

/-- A computation that may stop with a compilation error. -/
abbrev Compiling (α : Type) := Except CompileError α

/-- Stops with a cause and an owner. -/
def fail {α : Type} (owner : String) (fault : Fault) : Compiling α :=
  .error (CompileError.owned owner fault)

/-- Stops with a cause and an optional owner. -/
def failWith {α : Type} (owner : Option String) (fault : Fault) : Compiling α :=
  .error ⟨fault, owner, none⟩

end PageObjects
