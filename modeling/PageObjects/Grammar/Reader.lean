import PageObjects.Grammar.Spec
import PageObjects.Json.Display
import PageObjects.Error

/-!
# Reading declarations from documents

The grammar checks the shape of a decoded page-object document: which keys each
object may hold and what kind of value each key holds, and reads it into a
`PageObjectSpec`. Keys are read in a fixed order, and the first fault found is
reported with the path of the value at fault (`elements[0]`, `element 'a'`,
`method 'm' statement.apply`, or `page object` for the document itself).

Each object of a document has a shape, given by its position, and
`Shape.keys` lists the keys an object of each shape may hold. With a strict
grammar an object holding a key its shape does not list is refused, the
unknown keys named in sorted order; otherwise such keys are ignored. A key whose value is null counts as absent where the grammar reads an
optional value.

Nested values are read by recursion on their size within the document.
-/

namespace PageObjects.Grammar

open PageObjects.Json

/-- The owner of a fault at a path: the path, or `page object` at the top. -/
def ownerAt (path : String) : String :=
  if path.isEmpty then "page object" else path

/-- Refuses the document with a text, owned by a path. -/
def reject {α : Type} (path text : String) : Compiling α :=
  fail (ownerAt path) (.malformedDeclaration text)

/-- Refuses the document with a text, owned by a path taken as it is. -/
def rejectAt {α : Type} (path text : String) : Compiling α :=
  failWith (some path) (.malformedDeclaration text)

/-- Requires an object. -/
def expectObject (node : Json) (path : String) : Compiling Unit :=
  match node with
  | .obj _ => .ok ()
  | other => reject path s!"expected an object, got {other.typeName}"

/-- Requires a non-empty text. -/
def expectText (node : Json) (path : String) : Compiling String :=
  match node with
  | .str s => if s.isEmpty then reject path "expected a non-empty string" else .ok s
  | _ => reject path "expected a non-empty string"

/-- Requires a flag. -/
def expectFlag (node : Json) (path : String) : Compiling Bool :=
  match node with
  | .bool b => .ok b
  | _ => reject path "expected a boolean"

/-- The error of a value that should be an array. -/
def notAnArray {α : Type} (node : Json) (path : String) : Compiling α :=
  reject path s!"expected an array, got {node.typeName}"

/-- The value of a key when present and not null, with the evidence that it
is part of the object. -/
def field? (node : Json) (key : String) : Option { v : Json // sizeOf v < sizeOf node } :=
  match node.child? key with
  | some ⟨.null, _⟩ => none
  | other => other

/-- The value of a key when present and not null. -/
def fieldValue? (node : Json) (key : String) : Option Json :=
  (field? node key).map (·.1)

/-- An optional flag: absent or null gives false. -/
def optionalFlag (node : Json) (key path : String) : Compiling Bool :=
  match fieldValue? node key with
  | none => .ok false
  | some v => expectFlag v s!"{path}.{key}"

/-- Refuses keys outside the allowed ones, when the grammar is strict. -/
def checkKeys (strict : Bool) (node : Json) (allowed : List String) (path : String) :
    Compiling Unit :=
  if !strict then .ok ()
  else
    let unknown := (node.keys.filter (fun k => !allowed.contains k)).firstOccurrences
    if unknown.isEmpty then .ok ()
    else
      let sortedUnknown := unknown.mergeSort (fun a b => Text.codeLE a.toList b.toList)
      let sortedAllowed := allowed.mergeSort (fun a b => decide (a ≤ b))
      reject path
        ("unsupported properties " ++ Text.nameListing sortedUnknown ++ ", supported are " ++
          Text.nameListing sortedAllowed)

/-- A type token: a text, or an array of texts. -/
def typeToken (node : Json) (path : String) : Compiling TypeToken :=
  match node with
  | .arr items => do
    let tokens ← items.mapIdxM (fun i item => expectText item s!"{path}[{i}]")
    return .capabilities tokens
  | other => do
    let token ← expectText other path
    return .single token

/-- A description: absent gives the empty text, an array of texts is joined
by line feeds. -/
def description (node : Json) (path : String) : Compiling String :=
  match fieldValue? node "description" with
  | none => .ok ""
  | some (.arr items) => do
    let lines ← items.mapM (fun item => expectText item s!"{path}.description")
    return "\n".intercalate lines
  | some other => expectText other s!"{path}.description"

/-- The locator kinds, in the order the grammar lists them. -/
def locatorKinds : List String := ["css", "accessid", "classchain", "uiautomator"]

/-- The kinds of object a document holds, each read at its own positions. -/
inductive Shape where
  | document | element | shadow | selector | filter | matcher | argument | reference | statement
  | method | link | utility
  deriving DecidableEq, Repr

/-- The keys an object of a shape may hold. -/
def Shape.keys : Shape → List String
  | .document => ["elements", "methods", "interface", "implements", "root", "selector", "type",
      "exposeRootElement", "shadow", "description"]
  | .element => ["name", "type", "selector", "public", "nullable", "elements", "shadow", "filter",
      "description"]
  | .shadow => ["elements"]
  | .selector => locatorKinds ++ ["returnAll", "args"]
  | .filter => ["apply", "args", "matcher", "findFirst"]
  | .matcher => ["type", "args"]
  | .argument => ["value", "name", "type", "predicate"]
  | .reference => ["element", "args"]
  | .statement => ["element", "apply", "args", "matcher", "predicate", "returnType", "returnAll"]
  | .method => ["name", "args", "return", "returnAll", "compose", "chain", "externalUtility",
      "description"]
  | .link => ["element", "type", "returnAll"]
  | .utility => ["type", "invoke", "args"]

/-- The flag under a key when present and not null, else none. -/
def presentFlag? (node : Json) (key path : String) : Compiling (Option Bool) :=
  match fieldValue? node key with
  | none => .ok none
  | some v => do
    let b ← expectFlag v path
    return some b

/-- Whether the value under `type` of an argument allows a predicate: absent, or
exactly the text `function`. -/
def predicateTypeAllowed (node : Json) : Bool :=
  match node.get? "type" with
  | none => true
  | some (.str "function") => true
  | some _ => false

mutual

/-- The arguments of a non-null value at a path. -/
def argumentsOf (strict : Bool) (node : Json) (path : String) : Compiling (List ArgumentSpec) :=
  match node.elements? with
  | some items => items.mapM (fun ⟨item, _⟩ => argumentOf strict item path)
  | none => notAnArray node s!"{path} args"
termination_by 3 * sizeOf node + 0

/-- The arguments under `args`, none when absent or null. -/
def argumentsIn (strict : Bool) (node : Json) (path : String) : Compiling (List ArgumentSpec) :=
  match field? node "args" with
  | some ⟨v, _⟩ => argumentsOf strict v path
  | none => .ok []
termination_by 3 * sizeOf node + 0

/-- One argument. -/
def argumentOf (strict : Bool) (node : Json) (path : String) : Compiling ArgumentSpec := do
  expectObject node s!"{path} argument"
  checkKeys strict node Shape.argument.keys s!"{path} argument"
  let hasValue := node.has "value"
  let hasName := node.has "name"
  let hasPredicate := node.has "predicate"
  if (if hasValue then 1 else 0) + (if hasName then 1 else 0) + (if hasPredicate then 1 else 0) != 1 then
    rejectAt path "argument must declare exactly one of 'value', 'name' with 'type', or 'predicate'"
  else if hasPredicate then
    if !predicateTypeAllowed node then
      rejectAt path "predicate argument must have type 'function'"
    else
      match node.child? "predicate" with
      | some ⟨v, _⟩ => do
        let statements ← statementsOf strict v s!"{path} predicate"
        return .predicate statements
      | none => rejectAt path "predicate argument must have type 'function'"
  else if hasValue then
    match node.child? "value" with
    | some ⟨v, _⟩ => do
      let literal ← literalOf strict v path
      let declared ←
        match node.get? "type" with
        | some t => do
          let token ← expectText t s!"{path} argument type"
          pure (some token)
        | none => pure none
      return .value literal declared
    | none => rejectAt path "argument must declare exactly one of 'value', 'name' with 'type', or 'predicate'"
  else do
    let name ← expectText (node.getD "name") s!"{path} argument name"
    let type ← expectText (node.getD "type") s!"{path} argument type"
    return .named name type
termination_by 3 * sizeOf node + 0

/-- The literal value of a value argument. -/
def literalOf (strict : Bool) (node : Json) (path : String) : Compiling LiteralSpec :=
  match node with
  | .bool b => .ok (.flag b)
  | .int n => .ok (.integer n)
  | .float x => .ok (.decimal x)
  | .str s => .ok (.text s)
  | .obj fields =>
    if (Json.obj fields).has "element" then do
      checkKeys strict (.obj fields) Shape.reference.keys s!"{path} element reference"
      let name ← expectText ((Json.obj fields).getD "element") s!"{path} element reference"
      let args ← argumentsIn strict (.obj fields) path
      return .element name args
    else do
      let spec ← selectorOf strict (.obj fields) s!"{path} selector value"
      return .selector spec
  | other => rejectAt path s!"unsupported argument value of type {other.typeName}"
termination_by 3 * sizeOf node + 2

/-- A selector. -/
def selectorOf (strict : Bool) (node : Json) (path : String) : Compiling SelectorSpec := do
  expectObject node path
  checkKeys strict node Shape.selector.keys path
  let kinds := locatorKinds.filter (fun k => node.has k)
  match kinds with
  | [kind] => do
    let template ← expectText (node.getD kind) s!"{path} selector"
    let args ← argumentsIn strict node path
    let returnsAll ← optionalFlag node "returnAll" path
    return ⟨kind, template, args, returnsAll⟩
  | _ => reject path ("selector must declare exactly one of " ++ Text.nameListing locatorKinds)
termination_by 3 * sizeOf node + 1

/-- A matcher under `matcher`, none when absent or null. -/
def matcherIn (strict : Bool) (node : Json) (path : String) : Compiling (Option MatcherSpec) :=
  match field? node "matcher" with
  | none => .ok none
  | some ⟨m, _⟩ => do
    expectObject m s!"{path} matcher"
    checkKeys strict m Shape.matcher.keys s!"{path} matcher"
    let type ← expectText (m.getD "type") s!"{path} matcher.type"
    let args ← argumentsIn strict m path
    return some ⟨type, args⟩
termination_by 3 * sizeOf node + 1

/-- The statements of a value. -/
def statementsOf (strict : Bool) (node : Json) (path : String) : Compiling (List StatementSpec) :=
  match node.elements? with
  | some items => items.mapM (fun ⟨item, _⟩ => statementOf strict item path)
  | none => notAnArray node s!"{path} statements"
termination_by 3 * sizeOf node + 0

/-- One statement. -/
def statementOf (strict : Bool) (node : Json) (path : String) : Compiling StatementSpec := do
  expectObject node s!"{path} statement"
  checkKeys strict node Shape.statement.keys s!"{path} statement"
  let element ← expectText (node.getD "element") s!"{path} statement.element"
  let apply ← expectText (node.getD "apply") s!"{path} statement.apply"
  let args ← argumentsIn strict node path
  let matcher ← matcherIn strict node path
  let predicate ←
    match field? node "predicate" with
    | some ⟨p, _⟩ => do
      let statements ← statementsOf strict p s!"{path} predicate"
      pure (some statements)
    | none => pure none
  let returnType ←
    match fieldValue? node "returnType" with
    | some t => do
      let token ← expectText t s!"{path} statement.returnType"
      pure (some token)
    | none => pure none
  let returnsAll ← optionalFlag node "returnAll" path
  return ⟨element, apply, args, matcher, predicate, returnType, returnsAll⟩
termination_by 3 * sizeOf node + 2

end

/-- A filter. -/
def filterOf (strict : Bool) (node : Json) (path : String) : Compiling FilterSpec := do
  expectObject node s!"{path} filter"
  checkKeys strict node Shape.filter.keys s!"{path} filter"
  let apply ← expectText (node.getD "apply") s!"{path} filter.apply"
  let args ← argumentsIn strict node path
  let matcher ← matcherIn strict node path
  let findFirst ← optionalFlag node "findFirst" path
  return ⟨apply, args, matcher, findFirst⟩

/-- The type token under `type`, none when absent or null. -/
def typeTokenIn (node : Json) (path : String) : Compiling (Option TypeToken) :=
  match fieldValue? node "type" with
  | some t => do
    let token ← typeToken t path
    pure (some token)
  | none => pure none

mutual

/-- The elements of a non-null value. -/
def elementsOf (strict : Bool) (node : Json) (path : String) : Compiling (List ElementSpec) :=
  match node.elements? with
  | some items => items.mapIdxM (fun i ⟨item, _⟩ => elementOf strict item s!"{path}[{i}]")
  | none => notAnArray node path
termination_by 2 * sizeOf node + 0

/-- The elements under `elements`, none when absent or null. -/
def elementsIn (strict : Bool) (node : Json) (path : String) : Compiling (List ElementSpec) :=
  match field? node "elements" with
  | some ⟨v, _⟩ => elementsOf strict v path
  | none => .ok []
termination_by 2 * sizeOf node + 0

/-- The elements of the shadow root under `shadow`, none when absent or null. -/
def shadowIn (strict : Bool) (node : Json) (path : String) : Compiling (List ElementSpec) :=
  match field? node "shadow" with
  | some ⟨shadow, _⟩ => do
    expectObject shadow path
    checkKeys strict shadow Shape.shadow.keys path
    elementsIn strict shadow s!"{path}.elements"
  | none => .ok []
termination_by 2 * sizeOf node + 0

/-- One element. -/
def elementOf (strict : Bool) (node : Json) (path : String) : Compiling ElementSpec := do
  expectObject node path
  checkKeys strict node Shape.element.keys path
  let name ← expectText (node.getD "name") s!"{path}.name"
  let owner := s!"element '{name}'"
  let type ← typeTokenIn node owner
  let selector ← (match field? node "selector" with
    | some ⟨s, _⟩ => do
      let spec ← selectorOf strict s owner
      pure (some spec)
    | none => pure none)
  let isPublic ← optionalFlag node "public" owner
  let isNullable ← optionalFlag node "nullable" owner
  let elements ← elementsIn strict node s!"{owner}.elements"
  let shadowElements ← shadowIn strict node s!"{owner}.shadow"
  let filter ← (match fieldValue? node "filter" with
    | some f => do
      let spec ← filterOf strict f owner
      pure (some spec)
    | none => pure none)
  let text ← description node owner
  return ⟨name, type, selector, isPublic, isNullable, elements, shadowElements, filter, text⟩
termination_by 2 * sizeOf node + 1

end

/-- The links of a chain. -/
def chainOf (strict : Bool) (node : Json) (path : String) : Compiling (List ChainLinkSpec) :=
  match node with
  | .arr items =>
    items.mapIdxM (fun i link => do
      let linkPath := s!"{path} chain[{i}]"
      expectObject link linkPath
      checkKeys strict link Shape.link.keys linkPath
      let element ← expectText (link.getD "element") s!"{linkPath}.element"
      let type ←
        match fieldValue? link "type" with
        | some t => do
          let token ← expectText t s!"{linkPath}.type"
          pure (some token)
        | none => pure none
      let returnsAll ← optionalFlag link "returnAll" path
      return ⟨element, type, returnsAll⟩)
  | other => notAnArray other s!"{path} chain"

/-- An external utility call. -/
def utilityOf (strict : Bool) (node : Json) (path : String) : Compiling UtilitySpec := do
  expectObject node s!"{path} externalUtility"
  checkKeys strict node Shape.utility.keys s!"{path} externalUtility"
  let type ← expectText (node.getD "type") s!"{path} externalUtility.type"
  let invoke ← expectText (node.getD "invoke") s!"{path} externalUtility.invoke"
  let args ← argumentsIn strict node path
  return ⟨type, invoke, args⟩

/-- One method. -/
def methodOf (strict : Bool) (node : Json) (path : String) : Compiling MethodSpec := do
  expectObject node path
  checkKeys strict node Shape.method.keys path
  let name ← expectText (node.getD "name") s!"{path}.name"
  let owner := s!"method '{name}'"
  let args ← (match node.get? "args" with
    | some .null => pure (some [])
    | some v => do
      let list ← argumentsOf strict v owner
      pure (some list)
    | none => pure none)
  let returnType ← (match fieldValue? node "return" with
    | some r => do
      let token ← typeToken r owner
      pure (some token)
    | none => pure none)
  let returnsAll ← presentFlag? node "returnAll" owner
  let compose ← (match node.get? "compose" with
    | some v => do
      let statements ← statementsOf strict v owner
      pure (some statements)
    | none => pure none)
  let chain ← (match node.get? "chain" with
    | some v => do
      let links ← chainOf strict v owner
      pure (some links)
    | none => pure none)
  let utility ← (match node.get? "externalUtility" with
    | some v => do
      let spec ← utilityOf strict v owner
      pure (some spec)
    | none => pure none)
  let text ← description node owner
  return ⟨name, args, returnType, returnsAll, compose, chain, utility, text⟩

/-- The methods of a page object: an empty value counts as none. -/
def methodsOf (strict : Bool) (node : Json) : Compiling (List MethodSpec) :=
  let listed := match node.get? "methods" with
    | some v => if v.truthy then v else .arr []
    | none => .arr []
  match listed with
  | .arr items => items.mapIdxM (fun i m => methodOf strict m s!"methods[{i}]")
  | other => notAnArray other "methods"

/-- Reads a page-object document. -/
def read (strict : Bool) (tree : Json) : Compiling PageObjectSpec := do
  expectObject tree ""
  checkKeys strict tree Shape.document.keys ""
  let isInterface ← optionalFlag tree "interface" ""
  let isRoot ← optionalFlag tree "root" ""
  let exposeRootElement ← optionalFlag tree "exposeRootElement" ""
  let text ← description tree ""
  let implements ← (match fieldValue? tree "implements" with
    | some v => do
      let token ← expectText v "implements"
      pure (some token)
    | none => pure none)
  let rootSelector ← (match fieldValue? tree "selector" with
    | some v => do
      let spec ← selectorOf strict v "selector"
      pure (some spec)
    | none => pure none)
  let rootType ← typeTokenIn tree "type"
  let elements ← elementsIn strict tree "elements"
  let shadowElements ← shadowIn strict tree "shadow"
  let methods ← methodsOf strict tree
  return { elements, shadowElements, methods, isInterface, implements, isRoot, rootSelector,
           rootType, exposeRootElement, description := text }

end PageObjects.Grammar
