import PageObjects.Compile.Method

/-!
# Compiled declarations

A compiled page object has two views. The implementation lists every method:
the getters of the declared elements in declaration order (the root's only
when it is exposed), then the declared methods. The interface lists the public
ones, and is absent when the page object implements another type; the
implementation is absent for an interface.

Each method has a signature (name, named parameters, return type, the imports
its signature needs, and the non-blank lines of its description as comments)
and the imports its body needs beyond it. A view's imports merge its
methods' imports in order, each type once; the implementation's start with the
implemented type and end with the utility types.
-/

namespace PageObjects

/-- The signature of a method. -/
structure MethodDeclaration where
  name : String
  parameters : List Parameter
  returnType : Ty
  imports : List Ty
  comments : List String
  deriving Repr, Inhabited

/-- The body of an element getter. -/
structure GetterBody where
  elementName : String
  selector : Option Selector
  scope : Option String
  isList : Bool
  isNullable : Bool
  filter : Option ElementFilter
  deriving Repr, Inhabited

/-- The body of a method of a view: a getter or a compiled method body. -/
inductive Body where
  | getter (body : GetterBody)
  | method (body : MethodBody)
  deriving Repr, Inhabited

/-- A method of the implementation view. -/
structure PageObjectMethod where
  declaration : MethodDeclaration
  body : Body
  isPublic : Bool
  classImports : List Ty
  deriving Repr, Inhabited

/-- The interface view. -/
structure InterfaceView where
  type : TypeName
  methods : List MethodDeclaration
  imports : List Ty
  deriving Repr, Inhabited

/-- The implementation view. -/
structure ImplementationView where
  type : TypeName
  implements : Ty
  methods : List PageObjectMethod
  imports : List Ty
  deriving Repr, Inhabited

/-- A compiled page object. -/
structure Declaration where
  identifier : String
  type : TypeName
  interface : Option InterfaceView
  implementation : Option ImplementationView
  implements : Option Ty
  isInterface : Bool
  description : String
  deriving Repr, Inhabited

/-- The comment lines of a description: its lines that are not blank. -/
def commentLines (description : String) : List String :=
  (Text.splitLines description).filter (fun line => !Text.isBlankText line)

/-- The imports a signature needs: those of its return type, then those of its
parameters' types. -/
def signatureImports (returnType : Ty) (parameters : List Parameter) : List Ty :=
  requiredImports (returnType :: parameters.map Parameter.type)

/-- Merges groups of types in order, each type once. -/
def mergeImports (groups : List (List Ty)) : List Ty :=
  groups.flatten.firstOccurrences

/-- The getter of an element. -/
def Element.getter (e : Element) : PageObjectMethod :=
  let parameters := e.getterParameters
  let returnType := e.getterReturnType
  { declaration :=
      { name := e.getterName, parameters, returnType
        imports := signatureImports returnType parameters
        comments := commentLines e.description }
    body := .getter
      { elementName := e.name, selector := e.selector, scope := e.scope, isList := e.isList
        isNullable := e.isNullable, filter := e.filter }
    isPublic := e.isPublic
    classImports := requiredImports [e.type] }

/-- The types a method body needs beyond its signature: the utility type, the
link types of a chain, or the types of the elements a compose body's
statements target. -/
def MethodBody.types (lookup : String → Option Element) : MethodBody → List Ty
  | .utility type _ _ => [type]
  | .chain links => links.map ChainLink.type
  | .compose statements =>
    statements.filterMap (fun st => (lookup st.elementName).map Element.type)
  | .abstract => []

/-- A compiled method as a method of the implementation view. -/
def CompiledMethod.toMethod (lookup : String → Option Element) (m : CompiledMethod) :
    PageObjectMethod :=
  { declaration :=
      { name := m.name, parameters := m.parameters, returnType := m.returnType
        imports := signatureImports m.returnType m.parameters
        comments := commentLines m.description }
    body := .method m.body
    isPublic := true
    classImports := requiredImports (m.body.types lookup) }

/-- The utility type a method calls, if any. -/
def CompiledMethod.utilityType? (m : CompiledMethod) : Option Ty :=
  match m.body with
  | .utility type _ _ => some type
  | _ => none

/-- Whether a page object lists the getter of an element: every element's but
the root's, which only when it is exposed. -/
def Element.hasGetter (e : Element) : Bool := !e.isRoot || e.isPublic

/-- The methods of the implementation view: the getters of the elements that
have one, then the declared methods. -/
def viewMethods (elements : List Element) (methods : List CompiledMethod) : List PageObjectMethod :=
  let lookup := fun name => elements.find? (fun e => e.name == name)
  (elements.filter Element.hasGetter).map Element.getter ++
    methods.map (CompiledMethod.toMethod lookup)

/-- Assembles the views of a compiled page object. -/
def assemble (identifier : String) (pageType : TypeName) (elements : List Element)
    (methods : List CompiledMethod) (isInterface : Bool) (implements : Option Ty)
    (description : String) : Declaration :=
  let all := viewMethods elements methods
  let visible := all.filter PageObjectMethod.isPublic
  let interface :=
    match implements with
    | some _ => none
    | none =>
      some { type := pageType, methods := visible.map PageObjectMethod.declaration
             imports := mergeImports (visible.map (·.declaration.imports)) }
  let implemented := implements.getD (.custom pageType)
  let utilityTypes := (methods.filterMap CompiledMethod.utilityType?).firstOccurrences
  let implementation :=
    if isInterface then none
    else
      some { type := Naming.implementation pageType, implements := implemented, methods := all
             imports := mergeImports ([[implemented]] ++ all.map (·.declaration.imports) ++
               all.map PageObjectMethod.classImports ++ [utilityTypes]) }
  { identifier, type := pageType, interface, implementation, implements, isInterface, description }

end PageObjects
