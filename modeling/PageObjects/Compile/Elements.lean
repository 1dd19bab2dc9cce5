import PageObjects.Compile.Scope

/-!
# Building elements

An element as declared becomes a declared element: its variant comes from its
type token (`container`, a page-object reference for a component, otherwise a
basic element); its selector is resolved, and only a container may go without
one; its parameters are its scope's followed by its selector's, all named ones
distinct; a filter, allowed only on a selector returning all, narrows it by an
action returning a boolean (or by a matcher on the action's result), or, for a
component, by a matcher alone.

Elements are declared depth-first: each element, then its nested elements,
then those of its shadow root; only basic elements may have nested elements.

The root element takes the document's selector, which requires `root: true`
and may have no parameters, and the document's type token.
-/

namespace PageObjects

/-- The variant an element's type token gives. -/
def elementKindOf : Option TypeToken → ElementKind
  | some (.single "container") => .container
  | some (.single token) => if Naming.isTypeReference token then .custom else .basic
  | _ => .basic

namespace Scope

/-- Resolves the filter of an element. -/
def filterOf (s : Scope) (e : Element) (owner : String) (spec : FilterSpec) :
    Compiling ElementFilter := do
  let returnsAll := match e.selector with
    | some sel => sel.returnsAll
    | none => false
  if !returnsAll then
    fail owner (.malformedDeclaration "filter can only be applied to a selector returning all")
  else
    let r := s.resolver owner
    if e.isCustom then do
      let parameters ← r.resolve spec.args none
      let matcher ← match spec.matcher with
        | some m => do
          let kind ← MatcherKind.lookup (some owner) m.type
          let resolved ← r.matcher m kind.operand
          pure (some resolved)
        | none => pure none
      return { apply := spec.apply, action := none, parameters, matcher, findFirst := spec.findFirst }
    else do
      let action ← lookupAction (some owner) e.type spec.apply e.name false
      let parameters ← r.resolveAction action spec.args
      let matcher ← match spec.matcher with
        | some m => do
          let resolved ← r.matcher m action.returnType
          pure (some resolved)
        | none =>
          if action.returnType != Ty.boolean then
            fail owner (.typeMismatch Ty.boolean action.returnType)
          else pure none
      return { apply := spec.apply, action := some action, parameters, matcher,
               findFirst := spec.findFirst }

/-- The selector an element declares, resolved; none when it declares none. -/
def ownSelector (s : Scope) (owner : String) : Option SelectorSpec → Compiling (Option Selector)
  | some sel => do
    let resolved ← (s.resolver owner).selector sel
    pure (some resolved)
  | none => pure none

/-- The type of an element of a variant: a container's is the container type,
any other's comes from its type token. -/
def typeOfKind (owner : String) (kind : ElementKind) (token : Option TypeToken) : Compiling Ty :=
  if kind == .container then pure .container else elementType owner token

/-- Builds an element declared in the scope of `parent`. -/
def build (s : Scope) (parent : Element) (spec : ElementSpec) : Compiling Element := do
  let owner := s!"element '{spec.name}'"
  let kind := elementKindOf spec.type
  let selector ← s.ownSelector owner spec.selector
  if selector.isNone && kind != .container then
    fail owner (.malformedDeclaration "element must declare a selector")
  else
    let own := match selector with
      | some sel => sel.parameters
      | none => []
    let parameters := parent.parameters ++ own
    Resolver.checkDistinct (some owner) parameters
    let type ← typeOfKind owner kind spec.type
    let base : Element :=
      { kind, name := spec.name, type
        selector := if kind == .container then selector <|> some Selector.containerDefault else selector
        scope := some parent.name, parameters, isPublic := spec.isPublic
        isNullable := spec.isNullable, description := spec.description }
    match spec.filter with
    | some f => do
      let filter ← s.filterOf base owner f
      let e := { base with filter := some filter }
      Resolver.checkDistinct (some owner) e.getterParameters
      return e
    | none => return base

mutual

/-- Declares elements in the scope of `parent`, depth-first. -/
def declareAll (s : Scope) (parent : Element) : List ElementSpec → Compiling Scope
  | [] => .ok s
  | spec :: rest => do
    let s' ← declareOne s parent spec
    declareAll s' parent rest

/-- Declares an element, then its nested and shadow elements. -/
def declareOne (s : Scope) (parent : Element) : ElementSpec → Compiling Scope
  | spec@⟨name, _, _, _, _, elements, shadowElements, _, _⟩ => do
    let e ← s.build parent spec
    let s' ← s.declare e
    if elements.isEmpty && shadowElements.isEmpty then .ok s'
    else if e.kind != .basic then
      fail s!"element '{name}'" (.malformedDeclaration "only basic elements can have nested elements")
    else do
      let s'' ← declareAll s' e elements
      declareAll s'' e shadowElements

end

end Scope

/-- The selector of the root, resolved: the document's, which may have no
parameters; none when the document declares none. -/
def rootSelectorOf (s : Scope) (owner : String) : Option SelectorSpec → Compiling (Option Selector)
  | some sel => do
    let resolved ← (s.resolver owner).selector sel
    if !resolved.parameters.isEmpty then
      fail owner (.malformedDeclaration "root selector cannot have parameters")
    else pure (some resolved)
  | none => pure none

/-- Builds the root element of a page object; without a type token it is
actionable. -/
def rootElement (s : Scope) (spec : PageObjectSpec) : Compiling Element := do
  let owner := "element 'root'"
  if spec.rootSelector.isSome && !spec.isRoot then
    fail owner (.malformedDeclaration "'selector' requires 'root': true")
  else if spec.isRoot && spec.rootSelector.isNone then
    fail owner (.malformedDeclaration "root page object must declare a selector")
  else do
    let selector ← rootSelectorOf s owner spec.rootSelector
    let type ← Scope.elementType owner spec.rootType
    return Element.root type selector spec.exposeRootElement spec.description

/-- Declares the elements of a page object: the root first, then the elements
depth-first, those of the document before those of its shadow root. -/
def declareElements (settings : Settings) (spec : PageObjectSpec) : Compiling Scope := do
  let empty : Scope := { settings }
  let root ← rootElement empty spec
  let s ← empty.declare root
  let s ← s.declareAll root spec.elements
  s.declareAll root spec.shadowElements

end PageObjects
