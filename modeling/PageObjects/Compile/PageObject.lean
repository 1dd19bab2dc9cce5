import PageObjects.Compile.Declaration
import PageObjects.Grammar.Reader

/-!
# Compiling page objects

A page object compiles in stages, the first error winning: the grammar reads
the document; its identifier names its type; the root element is built and
declared; the elements are declared depth-first, those of the document before
those of its shadow root; each method is compiled and then checked against the
names of earlier methods and of every getter; the implemented type is named
last. An error that leaves a page object names its identifier.

A batch compiles every page object and succeeds only if all do and no
identifier repeats; otherwise it reports, in order of first occurrence, each
repeated identifier as a duplicate and each other failing one with its error.
-/

namespace PageObjects

/-- Adds a compiled method after checking its name against the methods before
it and the getters of all elements. -/
def addMethod (elements : List Element) (methods : List CompiledMethod) (m : CompiledMethod) :
    Compiling (List CompiledMethod) :=
  if methods.any (fun other => other.name == m.name) ||
      elements.any (fun e => e.getterName == m.name) then
    fail s!"method '{m.name}'" (.duplicateMethodName m.name)
  else .ok (methods ++ [m])

/-- Compiles the methods of a page object in order. -/
def compileMethods (s : Scope) (isInterface : Bool) (specs : List MethodSpec) :
    Compiling (List CompiledMethod) :=
  specs.foldlM (fun methods spec => do
    let m ← s.compileMethod isInterface spec
    addMethod s.elements methods m) []

/-- The type a page object implements, if it names one. -/
def implementedType : Option String → Compiling (Option Ty)
  | none => .ok none
  | some token =>
    if !Naming.isTypeReference token then
      .error (CompileError.plain
        (.malformedDeclaration s!"'implements' must reference a page object type, got '{token}'"))
    else do
      let t ← Naming.typeName token
      return some (.custom t)

/-- Compiles a page object read by the grammar. -/
def compileSpec (settings : Settings) (identifier : Json) (spec : PageObjectSpec) :
    Compiling Declaration := do
  let pageType ← Naming.typeNameOfValue identifier
  let s ← declareElements settings spec
  let methods ← compileMethods s spec.isInterface spec.methods
  let implements ← implementedType spec.implements
  return assemble identifier.plain pageType s.elements methods spec.isInterface implements
    spec.description

/-- Names the page object an error left: a null identifier names none, an
empty one names it without text. -/
def CompileError.leaving (identifier : Json) (e : CompileError) : CompileError :=
  match identifier with
  | .null => e
  | other => e.leave (if other.truthy then other.plain else "")

/-- Compiles a page-object document under an identifier. -/
def compile (settings : Settings) (identifier : Json) (tree : Json) : Compiling Declaration :=
  match Grammar.read settings.strictGrammar tree >>= compileSpec settings identifier with
  | .ok declaration => .ok declaration
  | .error e => .error (e.leaving identifier)

/-- Whether two identifiers are the same key: equal texts, equal numbers (a
flag counting as zero or one, zeros of either sign equal), or both null.
Not-a-number equals no number, but every not-a-number a document holds is the
one value its reader makes for `NaN`, and a key matches itself. -/
def Json.sameKey : Json → Json → Bool
  | .str a, .str b => a == b
  | .null, .null => true
  | .int a, .int b => a == b
  | .bool a, .bool b => a == b
  | .bool a, .int b => (if a then 1 else 0) == b
  | .int a, .bool b => a == (if b then 1 else 0)
  | .float .nan, .float .nan => true
  | .float a, .float b => a.sameNumber b
  | .float a, .int b => a.equalsInt b
  | .int a, .float b => b.equalsInt a
  | .float a, .bool b => a.equalsInt (if b then 1 else 0)
  | .bool a, .float b => b.equalsInt (if a then 1 else 0)
  | _, _ => false

/-- The outcome of a batch that failed: each failing identifier with its error. -/
structure BatchFailure where
  failures : List (Json × CompileError)
  deriving Repr

/-- The text of a failed batch. -/
def BatchFailure.message (b : BatchFailure) : String :=
  s!"{b.failures.length} page object(s) failed to compile:" ++
    String.join (b.failures.map (fun (id, e) => "\n  " ++ id.plain ++ ": " ++ e.message))

/-- Keeps an identifier's first place in a list of keyed outcomes. -/
def keepFirst {α : Type} (entries : List (Json × α)) (key : Json) (value : α) : List (Json × α) :=
  if entries.any (fun entry => entry.1.sameKey key) then
    entries.map (fun entry => if entry.1.sameKey key then (entry.1, value) else entry)
  else entries ++ [(key, value)]

/-- Why a batch gives no declarations. -/
inductive BatchError where
  /-- Some page objects failed, each with its error. -/
  | failed (b : BatchFailure)
  /-- A page object stopped the compiler itself. -/
  | stopped (e : CompileError)
  /-- An identifier is a list or an object, which cannot key the outcomes. -/
  | unkeyable (identifier : Json)
  deriving Repr

/-- The text of a batch error that is not a list of failures. -/
def BatchError.message : BatchError → String
  | .failed b => b.message
  | .stopped e => e.message
  | .unkeyable identifier => "unhashable type: '" ++ identifier.typeName ++ "'"

/-- Whether an identifier can key the outcomes of a batch: any value but a
list or an object. -/
def Json.isKey : Json → Bool
  | .arr _ | .obj _ => false
  | _ => true

/-- The first error among outcomes that stops the compiler itself. -/
def firstStop (outcomes : List (Json × Compiling Declaration)) : Option CompileError :=
  outcomes.findSome? fun (_, outcome) =>
    match outcome with
    | .error e => if e.fault.isCompilationFault then none else some e
    | .ok _ => none

/-- The declarations of a batch whose page objects were all compiled, or its
failures: a repeated identifier fails with the repeat, keeping its first
place, and every other failing page object with its own error. -/
def collectOutcomes (sources : List (Json × Json)) (outcomes : List (Json × Compiling Declaration)) :
    Except BatchFailure (List (Json × Declaration)) :=
  let repeated := fun id => (sources.filter (fun source => source.1.sameKey id)).length > 1
  let (declarations, failures) :=
    outcomes.foldl (fun (acc : List (Json × Declaration) × List (Json × CompileError)) (id, outcome) =>
      let (declarations, failures) := acc
      if repeated id then
        (declarations, keepFirst failures id (CompileError.plain (.duplicatePageObject id.plain)))
      else
        match outcome with
        | .error e => (declarations, keepFirst failures id e)
        | .ok d => (keepFirst declarations id d, failures)) ([], [])
  if failures.isEmpty then .ok declarations else .error ⟨failures⟩

/-- Compiles a batch of page objects. Every page object is compiled first, in
order, and one that stops the compiler ends the batch; then every identifier
must be able to key the outcomes. -/
def compileAll (settings : Settings) (sources : List (Json × Json)) :
    Except BatchError (List (Json × Declaration)) :=
  let outcomes := sources.map (fun (id, tree) => (id, compile settings id tree))
  match firstStop outcomes, sources.find? (fun source => !source.1.isKey) with
  | some e, _ => .error (.stopped e)
  | none, some (identifier, _) => .error (.unkeyable identifier)
  | none, none => (collectOutcomes sources outcomes).mapError .failed

end PageObjects
