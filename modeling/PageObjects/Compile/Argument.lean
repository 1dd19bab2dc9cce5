import PageObjects.Compile.Element
import PageObjects.Grammar.Spec
import PageObjects.Types.Registry
import PageObjects.Selector.Template
import PageObjects.Decimal.Text

/-!
# Resolving arguments

Arguments as declared become parameters. A named argument becomes a named
parameter of its declared type; a literal is written as code (`true`, `false`,
decimal numbers, texts in their JSON form, selectors as `kind("template", …)`,
element references as getter calls `getX(…)`) and checked against a declared
type; a predicate gives no parameter, its statements being compiled by the
caller, and counts as a `function`.

When the types expected are known, the number of arguments must match, and
each argument must fit the type expected at its place: equal to it, or any
basic element where the generic element is expected. Named parameters must
have distinct names.

The arguments of a selector literal or an element reference must themselves be
literals; a selector's placeholders give the types its arguments must have.

An action with several shapes takes the first shape of the call's arity that
fits; when none fits, the mismatch against the first is reported.
-/

namespace PageObjects

/-- Whether a value of type `actual` may stand where `expected` is declared:
the same type, or any basic element where the generic element is expected. -/
def accepts (expected actual : Ty) : Bool :=
  expected == actual || (expected == Ty.element && actual.isBasic)

/-- The code and type of a scalar literal. -/
def scalarCode : LiteralSpec → Option (String × Ty)
  | .flag true => some ("true", Ty.boolean)
  | .flag false => some ("false", Ty.boolean)
  | .integer n => some (Decimal.intText n, Ty.number)
  | .decimal x => some (Decimal.Binary64.text Decimal.NumberStyle.listing x, Ty.number)
  | .text s => some (Text.jsonQuote s, Ty.string)
  | _ => none

/-- Whether an argument is a literal. -/
def ArgumentSpec.isValue : ArgumentSpec → Bool
  | .value .. => true
  | _ => false

/-- The code of a selector literal: `kind("template")`, or with the codes of
its arguments after the template. -/
def Selector.literalCode (s : Selector) : String :=
  match s.parameters with
  | [] => s.render
  | parameters =>
    let values := parameters.filterMap (fun
      | .literal value _ => some value
      | .named .. => none)
    s.kind.token ++ "(" ++ Text.jsonQuote s.template ++ ", " ++ ", ".intercalate values ++ ")"

/-- The code of a getter call with literal arguments. -/
def getterCall (getter : String) (values : List Parameter) : String :=
  let codes := values.filterMap (fun
    | .literal value _ => some value
    | .named .. => none)
  getter ++ "(" ++ ", ".intercalate codes ++ ")"

/-- What resolving arguments needs: the owner of its errors and the declared
elements, looked up by name. -/
structure Resolver where
  owner : Option String
  lookup : String → Option Element

namespace Resolver

/-- Stops with a cause owned by the resolver's owner. -/
def refuse {α : Type} (r : Resolver) (fault : Fault) : Compiling α :=
  failWith r.owner fault

/-- The declared element of a name. -/
def element (r : Resolver) (name : String) : Compiling Element :=
  match r.lookup name with
  | some e => .ok e
  | none => r.refuse (.unknownElement name)

/-- The placeholder types of a normalised template, as types. -/
def placeholderTys (template : String) : List Ty :=
  (Selector.placeholderTypes template).map Ty.primitive

/-- Fails when two named parameters share a name. -/
def checkDistinct (owner : Option String) (parameters : List Parameter) : Compiling Unit :=
  match repeatedName? parameters with
  | some name => failWith owner (.duplicateArgumentName name)
  | none => .ok ()

/-- The error of nested arguments that are not all literals. -/
def requireLiterals (r : Resolver) (args : List ArgumentSpec) (what : String) : Compiling Unit :=
  if args.all ArgumentSpec.isValue then .ok ()
  else r.refuse (.malformedDeclaration s!"arguments of nested {what} must be literal values")

/-- Fails when the expected count differs from the number of arguments. -/
def checkCount (r : Resolver) (args : List ArgumentSpec) : Option (List Ty) → Compiling Unit
  | some expected =>
    if expected.length != args.length then
      r.refuse (.argumentCountMismatch [expected.length] args.length)
    else .ok ()
  | none => .ok ()

mutual

/-- Resolves arguments in order against the types expected at their places;
`done` holds the parameters resolved so far, reversed. -/
def resolveEach (r : Resolver) : List ArgumentSpec → Option (List Ty) → List Parameter →
    Compiling (List Parameter)
  | [], _, done => .ok done.reverse
  | arg :: rest, expected, done => do
    let parameter ← resolveOne r arg
    let actual := match parameter with
      | some p => p.type
      | none => .function
    let (here, later) := match expected with
      | some (t :: ts) => (some t, some ts)
      | _ => (none, none)
    match here with
    | some t =>
      if !accepts t actual then r.refuse (.typeMismatch t actual)
      else resolveEach r rest later (match parameter with
        | some p => p :: done
        | none => done)
    | none =>
      resolveEach r rest later (match parameter with
        | some p => p :: done
        | none => done)

/-- Resolves one argument; a predicate gives no parameter. -/
def resolveOne (r : Resolver) : ArgumentSpec → Compiling (Option Parameter)
  | .predicate _ => .ok none
  | .named name type => do
    let t ← Registry.resolveArgument r.owner type
    return some (.named name t)
  | .value literal declared => do
    let p ← literalOf r literal
    match declared with
    | some token => do
      let t ← Registry.resolveArgument r.owner token
      if !accepts t p.type then r.refuse (.typeMismatch t p.type)
      else return some p
    | none => return some p

/-- Writes a literal as code. -/
def literalOf (r : Resolver) : LiteralSpec → Compiling Parameter
  | .selector spec => do
    let s ← selectorOf r spec true
    return .literal s.literalCode .locator
  | .element name args => do
    let e ← r.element name
    let expected := (namedOnly e.parameters).map Parameter.type
    requireLiterals r args s!"element '{name}'"
    checkCount r args (some expected)
    let values ← resolveEach r args (some expected) []
    checkDistinct r.owner values
    return .literal (getterCall e.getterName values) e.referenceType
  | other =>
    match scalarCode other with
    | some (code, t) => .ok (.literal code t)
    | none => r.refuse (.malformedDeclaration "unsupported literal value")

/-- Resolves a selector; with `literalOnly` its arguments must be literals and
take the types of the placeholders. -/
def selectorOf (r : Resolver) : SelectorSpec → Bool → Compiling Selector
  | ⟨kindToken, template, args, returnsAll⟩, literalOnly => do
    let kind ← LocatorKind.resolve r.owner kindToken
    let normal ← normalizeTemplate r.owner kind template
    let expected := placeholderTys normal
    if literalOnly then do
      requireLiterals r args s!"selector '{normal}'"
      checkCount r args (some expected)
      let values ← resolveEach r args (some expected) []
      checkDistinct r.owner values
      let parameters := (values.zip expected).map (fun (p, t) =>
        match p with
        | .literal value _ => Parameter.literal value t
        | other => other)
      return { kind, template := normal, parameters, returnsAll }
    else do
      checkCount r args (some expected)
      let parameters ← resolveEach r args (some expected) []
      checkDistinct r.owner parameters
      return { kind, template := normal, parameters, returnsAll }

end

/-- Resolves arguments, against expected types when they are known. -/
def resolve (r : Resolver) (args : List ArgumentSpec) (expected : Option (List Ty)) :
    Compiling (List Parameter) := do
  checkCount r args expected
  let parameters ← resolveEach r args expected []
  checkDistinct r.owner parameters
  return parameters

/-- Resolves a selector whose arguments become parameters. -/
def selector (r : Resolver) (spec : SelectorSpec) : Compiling Selector :=
  selectorOf r spec false

/-- Resolves arguments against each shape of their arity in turn: the first
that fits wins; when none fits, the mismatch against the first is reported. -/
def resolveShapes (r : Resolver) (args : List ArgumentSpec) :
    List (List Ty) → Option CompileError → Compiling (List Parameter)
  | [], some first => .error first
  | [], none => .ok []
  | shape :: rest, first =>
    match resolve r args (some shape) with
    | .ok parameters => .ok parameters
    | .error e =>
      if e.fault.isTypeMismatch then resolveShapes r args rest (first <|> some e)
      else .error e

/-- Resolves the arguments of an action call. -/
def resolveAction (r : Resolver) (a : Action) (args : List ArgumentSpec) :
    Compiling (List Parameter) := do
  let shapes ← a.shapesFor r.owner args.length
  resolveShapes r args shapes none

/-- Resolves a matcher applied to a result of the operand type. -/
def matcher (r : Resolver) (spec : MatcherSpec) (operand : Ty) : Compiling Matcher := do
  let kind ← MatcherKind.lookup r.owner spec.type
  if operand != kind.operand then r.refuse (.typeMismatch kind.operand operand)
  else do
    let parameters ← resolve r spec.args (some kind.argumentTypes)
    return ⟨kind, parameters⟩

end Resolver

end PageObjects
