import PageObjects.Compile.Elements

/-!
# Compiling methods

A method declares exactly one body, unless its page object is an interface,
whose methods declare none and become abstract:

* a compose body, a list of statements, each applying an action to an element
  (or calling a component); the last statement's result is the method's;
* a chain of component getters, starting at a declared component;
* a call of an external utility type.

A statement's predicate arguments and its filtering predicate are compiled as
statement lists one level deeper; levels beyond the settings' limit are
refused. A statement on a list element runs once per element (fans out), and
its result is then a list, unless it is `void` or a list already.

A compose method's parameters are collected over its statements in order: an
element's getter parameters at its first use, then those of the statement's
filter statements, its own named arguments, those of its predicate
statements, and its matcher's named arguments.
-/

namespace PageObjects

/-- A compiled compose statement. -/
structure Statement where
  elementName : String
  getterName : String
  actionName : String
  action : Option Action
  elementParameters : List Parameter := []
  parameters : List Parameter := []
  predicate : List Statement := []
  filter : List Statement := []
  matcher : Option Matcher := none
  fanOut : Bool := false
  returnType : Ty := .void
  isLast : Bool := false
  deriving Repr, Inhabited

/-- A compiled link of a chain. -/
structure ChainLink where
  elementName : String
  getterName : String
  type : Ty
  returnsAll : Bool
  deriving DecidableEq, Repr, Inhabited

/-- A compiled method body. -/
inductive MethodBody where
  | compose (statements : List Statement)
  | chain (links : List ChainLink)
  | utility (type : Ty) (invoke : String) (parameters : List Parameter)
  | abstract
  deriving Repr, Inhabited

/-- A compiled method. -/
structure CompiledMethod where
  name : String
  parameters : List Parameter
  returnType : Ty
  body : MethodBody
  description : String
  deriving Repr, Inhabited

/-- The type of a page-object reference: any other token is refused. -/
def pageObjectType (owner : String) (token : String) : Compiling Ty :=
  if !Naming.isTypeReference token then fail owner (.invalidTypeReference token)
  else do
    let t ← Naming.typeName token
    return .custom t

mutual

/-- Adds the parameters of a statement to those collected, given the elements
already used. -/
def collectStatement : List String × List Parameter → Statement → List String × List Parameter
  | (seen, collected), ⟨elementName, _, _, _, elementParameters, parameters, predicate, filter,
      matcher, _, _, _⟩ =>
    let (seen, collected) :=
      if seen.contains elementName then (seen, collected)
      else (elementName :: seen, collected ++ namedOnly elementParameters)
    let (seen, collected) := collectStatements (seen, collected) filter
    let collected := collected ++ namedOnly parameters
    let (seen, collected) := collectStatements (seen, collected) predicate
    let collected := collected ++ match matcher with
      | some m => namedOnly m.parameters
      | none => []
    (seen, collected)

/-- Adds the parameters of statements in order. -/
def collectStatements : List String × List Parameter → List Statement → List String × List Parameter
  | state, [] => state
  | state, statement :: rest => collectStatements (collectStatement state statement) rest

end

/-- The parameters of a compose body, collected over its statements. -/
def collectParameters (statements : List Statement) : List Parameter :=
  (collectStatements ([], []) statements).2

namespace Scope

/-- The result type of a component statement: `void` unless a result type is
declared, a list of it with `returnAll`. -/
def componentResult (owner : String) (returnType : Option String) (returnsAll : Bool) :
    Compiling Ty :=
  match returnType with
  | none =>
    if returnsAll then fail owner (.redundantMethodBody "'returnAll' requires 'returnType'")
    else .ok .void
  | some token => do
    let t ← resolveType owner token
    return if returnsAll then .list t else t

/-- Refuses a statement list nested deeper than the limit, or empty. -/
def checkLevel (s : Scope) (owner : String) (depth : Nat) (specs : List StatementSpec) :
    Compiling Unit :=
  if s.settings.maxPredicateDepth < depth then
    fail owner (.predicateDepthExceeded s.settings.maxPredicateDepth)
  else if specs.isEmpty then fail owner .emptyComposeBody
  else .ok ()

/-- What a statement does with its element: the action it applies, its
parameters, its result and whether it runs once per element. A component is
called, a container refused, and any other element applies an action of its
type, whose result may be the predicate's. -/
def statementCall (s : Scope) (owner : String) (e : Element) (apply : String)
    (args : List ArgumentSpec) (returnType : Option String) (returnsAll : Bool)
    (predicate : List Statement) : Compiling (Option Action × List Parameter × Ty × Bool) :=
  let r := s.resolver owner
  match e.kind with
  | .container => fail owner (.actionNotSupported apply e.name e.type.name)
  | .custom => do
    let parameters ← r.resolve args none
    let result ← componentResult owner returnType returnsAll
    pure (none, parameters, result, e.isList)
  | _ => do
    if returnType.isSome || returnsAll then
      fail owner
        (.malformedDeclaration "'returnType' and 'returnAll' apply only to component statements")
    else do
      let action ← lookupAction (some owner) e.type apply e.name e.isList
      let parameters ← r.resolveAction action args
      let result := if action.returnsPredicateResult then
          (match predicate.getLast? with
            | some last => last.returnType
            | none => action.returnType)
        else action.returnType
      pure (some action, parameters, result, e.isList && !action.isListAction)

/-- The matcher of a statement, applied to its result; a statement with a
matcher gives a boolean. -/
def statementMatcher (s : Scope) (owner : String) :
    Option MatcherSpec → Ty → Compiling (Option Matcher × Ty)
  | some m, result => do
    let resolved ← (s.resolver owner).matcher m result
    pure (some resolved, Ty.boolean)
  | none, result => pure (none, result)

/-- The compiled statements of a filter, whose last one must give a boolean. -/
def filterResult (owner : String) (compiled : List Statement) : Compiling (List Statement) :=
  match compiled.getLast? with
  | some last =>
    if last.returnType != Ty.boolean then fail owner (.typeMismatch Ty.boolean last.returnType)
    else pure compiled
  | none => pure compiled

mutual

/-- Compiles the statements of a list, the last one marked. -/
def compileSequence (s : Scope) (owner : String) (depth : Nat) :
    List StatementSpec → Compiling (List Statement)
  | [] => .ok []
  | spec :: rest => do
    let statement ← compileStatement s owner depth rest.isEmpty spec
    let others ← compileSequence s owner depth rest
    return statement :: others

/-- Compiles the predicate arguments of a statement; a second one is refused. -/
def compilePredicates (s : Scope) (owner : String) (depth : Nat) :
    List ArgumentSpec → List Statement → Compiling (List Statement)
  | [], found => .ok found
  | .predicate statements :: rest, found =>
    if !found.isEmpty then
      fail owner (.malformedDeclaration "only one predicate argument is supported")
    else do
      s.checkLevel owner (depth + 1) statements
      let compiled ← compileSequence s owner (depth + 1) statements
      compilePredicates s owner depth rest compiled
  | _ :: rest, found => compilePredicates s owner depth rest found

/-- Compiles one statement. -/
def compileStatement (s : Scope) (owner : String) (depth : Nat) (isLast : Bool) :
    StatementSpec → Compiling Statement
  | ⟨elementName, apply, args, matcherSpec, filterSpec, returnType, returnsAll⟩ => do
    let e ← (s.resolver owner).element elementName
    let predicate ← compilePredicates s owner depth args []
    let (action, parameters, result, fanOut) ←
      s.statementCall owner e apply args returnType returnsAll predicate
    let (matcher, result) ← s.statementMatcher owner matcherSpec result
    let filter ← (match filterSpec with
      | some specs =>
        if !e.isList then
          fail owner (.malformedDeclaration s!"predicate can only filter a list element, '{e.name}' is not")
        else do
          s.checkLevel owner (depth + 1) specs
          let compiled ← compileSequence s owner (depth + 1) specs
          filterResult owner compiled
      | none => pure [])
    let result := if fanOut && !result.isVoid && !result.isList then .list result else result
    return { elementName := e.name, getterName := e.getterName, actionName := apply, action
             elementParameters := e.getterParameters, parameters, predicate, filter, matcher
             fanOut, returnType := result, isLast }

end

/-- The declared return type of a method, if any; `returnAll` requires one. -/
def declaredReturn (owner : String) (spec : MethodSpec) : Compiling (Option Ty) :=
  match spec.returnType with
  | none =>
    if spec.returnsAll.isSome then fail owner (.redundantMethodBody "'returnAll' requires 'return'")
    else .ok none
  | some token => do
    let t ← match token with
      | .capabilities tokens => Registry.basicElementType (some owner) (tokens.map Json.str)
      | .single t => resolveType owner t
    return some (if spec.returnsAll == some true then .list t else t)

/-- Compiles an abstract method of an interface. -/
def compileAbstract (s : Scope) (owner : String) (spec : MethodSpec) : Compiling CompiledMethod := do
  let parameters ← (s.resolver owner).resolve (spec.args.getD []) none
  let returnType ← declaredReturn owner spec
  return { name := spec.name, parameters := namedOnly parameters, returnType := returnType.getD .void
           body := .abstract, description := spec.description }

/-- Compiles a compose method. -/
def compileCompose (s : Scope) (owner : String) (spec : MethodSpec) (specs : List StatementSpec) :
    Compiling CompiledMethod := do
  if specs.isEmpty then fail owner .emptyComposeBody
  else if spec.args.isSome then fail owner (.redundantMethodBody "compose method cannot declare 'args'")
  else do
    let declared ← declaredReturn owner spec
    s.checkLevel owner 0 specs
    let statements ← compileSequence s owner 0 specs
    let inferred := (statements.getLast?.map Statement.returnType).getD .void
    match declared with
    | some d =>
      if d != inferred then fail owner (.returnTypeMismatch d inferred) else pure ()
    | none => pure ()
    let parameters := collectParameters statements
    Resolver.checkDistinct (some owner) parameters
    return { name := spec.name, parameters, returnType := inferred, body := .compose statements
             description := spec.description }

/-- What a chain method declares beside its links, which it may not. -/
def chainRedundancies (spec : MethodSpec) : List String :=
  (if spec.args.isSome then ["args"] else []) ++ (if spec.returnType.isSome then ["return"] else []) ++
    (if spec.returnsAll.isSome then ["returnAll"] else [])

/-- The element a chain starts at: a declared component, of the type its link
declares, if it declares one. -/
def chainStart (s : Scope) (owner : String) (firstLink : ChainLinkSpec) : Compiling Element := do
  let first ← (s.resolver owner).element firstLink.element
  if !first.isCustom then
    fail owner
      (.malformedDeclaration s!"chain must start with a component element, '{first.name}' is not")
  else do
    match firstLink.type with
    | some token => do
      let declared ← pageObjectType owner token
      if declared != first.type then fail owner (.typeMismatch first.type declared) else pure ()
    | none => pure ()
    pure first

/-- A link of a chain after the first, which must declare its type. -/
def chainLink (owner : String) (link : ChainLinkSpec) : Compiling ChainLink :=
  match link.type with
  | none => fail owner (.malformedDeclaration s!"chain link '{link.element}' must declare a type")
  | some token => do
    let t ← pageObjectType owner token
    pure { elementName := link.element, getterName := "get" ++ Text.capitalize link.element
           type := t, returnsAll := link.returnsAll }

/-- Compiles a chain method. -/
def compileChain (s : Scope) (owner : String) (spec : MethodSpec) (links : List ChainLinkSpec) :
    Compiling CompiledMethod :=
  let redundant := chainRedundancies spec
  if !redundant.isEmpty then
    fail owner (.redundantMethodBody ("chain method cannot declare " ++ Text.nameListing redundant))
  else
    match links with
    | [] => fail owner (.malformedDeclaration "chain cannot be empty")
    | firstLink :: rest => do
      let first ← s.chainStart owner firstLink
      let head : ChainLink :=
        { elementName := first.name, getterName := first.getterName, type := first.type
          returnsAll := first.isList || firstLink.returnsAll }
      let tail ← rest.mapM (chainLink owner)
      let compiled := head :: tail
      let last := (compiled.getLast?.map ChainLink.type).getD first.type
      let returnType := if compiled.any ChainLink.returnsAll then .list last else last
      return { name := spec.name, parameters := first.getterParameters, returnType
               body := .chain compiled, description := spec.description }

/-- Compiles an external utility method. -/
def compileUtility (s : Scope) (owner : String) (spec : MethodSpec) (utility : UtilitySpec) :
    Compiling CompiledMethod := do
  if spec.args.isSome then fail owner (.redundantMethodBody "utility method cannot declare 'args'")
  else do
    let type ← pageObjectType owner utility.type
    let parameters ← (s.resolver owner).resolve utility.args none
    let returnType ← declaredReturn owner spec
    return { name := spec.name, parameters := namedOnly parameters, returnType := returnType.getD .void
             body := .utility type utility.invoke parameters, description := spec.description }

/-- The names of the bodies a method declares, in order. -/
def bodyNames (spec : MethodSpec) : List String :=
  (if spec.compose.isSome then ["compose"] else []) ++ (if spec.chain.isSome then ["chain"] else []) ++
    (if spec.utility.isSome then ["externalUtility"] else [])

/-- Compiles a method of a page object, abstract in an interface. -/
def compileMethod (s : Scope) (isInterface : Bool) (spec : MethodSpec) : Compiling CompiledMethod :=
  let owner := s!"method '{spec.name}'"
  let bodies := bodyNames spec
  if bodies.length > 1 then
    fail owner (.redundantMethodBody
      ("method can declare only one of 'compose', 'chain' or 'externalUtility', found " ++
        Text.nameListing bodies))
  else if isInterface then
    match bodies with
    | body :: _ => fail owner (.redundantMethodBody s!"interface method cannot declare '{body}'")
    | [] => s.compileAbstract owner spec
  else
    match spec.compose, spec.chain, spec.utility with
    | some statements, _, _ => s.compileCompose owner spec statements
    | none, some links, _ => s.compileChain owner spec links
    | none, none, some utility => s.compileUtility owner spec utility
    | none, none, none => fail owner .missingMethodBody

end Scope

end PageObjects
