import Mathlib.Tactic.Tauto
import PageObjects.Proofs.MethodNames
import PageObjects.Proofs.Statements

/-!
# Signatures and the bodies they describe

A compiled method declares its parameters from its body. A compose method
collects them over its statements in order: the getter parameters of a
statement's element the first time the element is used, then those of the
statement's filter statements, its own named arguments, those of its predicate
statements, and the named arguments of its matcher. An external utility method
declares the named arguments of its call, and a chain the getter parameters of
the component it starts at.

The walk skips the getter parameters of an element it has used before. That is
sound because every statement on one element carries the same getter
parameters, those of the element its name looks up (`Consistent`), at whatever
depth it stands. `collectStatements_collects` shows that, given this, the walk
collects exactly the parameters that some statement below the list passes by
name; `signatures_close_over_bodies` states the result for every method of an
accepted page object.
-/

namespace PageObjects

/-- The parameters a statement passes by name: its element's getter
parameters, its own arguments and its matcher's arguments. -/
def Statement.namedArguments (st : Statement) : List Parameter :=
  namedOnly st.elementParameters ++ namedOnly st.parameters ++
    match st.matcher with
    | some m => namedOnly m.parameters
    | none => []

/-- A parameter that a statement at some depth below a list passes by name. -/
def NamedIn (statements : List Statement) (p : Parameter) : Prop :=
  ∃ below st, Statement.Within below st statements ∧ p ∈ st.namedArguments

namespace Statement

variable {below : Nat} {st outer : Statement} {rest : List Statement}

theorem within_singleton :
    Statement.Within below st [outer] ↔
      (below = 0 ∧ st = outer) ∨
        ∃ deeper, below = deeper + 1 ∧
          (Statement.Within deeper st outer.predicate ∨ Statement.Within deeper st outer.filter) := by
  rw [within_cons]
  simp only [not_within_nil, or_false]

/-- A statement below a list stands below its head or below its tail. -/
theorem within_cons_iff :
    Statement.Within below st (outer :: rest) ↔
      Statement.Within below st [outer] ∨ Statement.Within below st rest := by
  rw [within_cons, within_singleton, or_assoc]

end Statement

theorem namedIn_nil {p : Parameter} : ¬ NamedIn [] p := by
  rintro ⟨below, st, within, -⟩
  exact Statement.not_within_nil within

theorem namedIn_cons {outer : Statement} {rest : List Statement} {p : Parameter} :
    NamedIn (outer :: rest) p ↔ NamedIn [outer] p ∨ NamedIn rest p := by
  constructor
  · rintro ⟨below, st, within, passed⟩
    rcases Statement.within_cons_iff.mp within with head | later
    · exact .inl ⟨below, st, head, passed⟩
    · exact .inr ⟨below, st, later, passed⟩
  · rintro (⟨below, st, head, passed⟩ | ⟨below, st, later, passed⟩)
    · exact ⟨below, st, Statement.within_cons_iff.mpr (.inl head), passed⟩
    · exact ⟨below, st, Statement.within_cons_iff.mpr (.inr later), passed⟩

/-- A statement passes what it passes itself, and what the statements of its
predicate and of its filter pass. -/
theorem namedIn_singleton {outer : Statement} {p : Parameter} :
    NamedIn [outer] p ↔
      p ∈ outer.namedArguments ∨ NamedIn outer.predicate p ∨ NamedIn outer.filter p := by
  constructor
  · rintro ⟨below, st, within, passed⟩
    rcases Statement.within_singleton.mp within with ⟨-, rfl⟩ | ⟨deeper, -, inner | inner⟩
    · exact .inl passed
    · exact .inr (.inl ⟨deeper, st, inner, passed⟩)
    · exact .inr (.inr ⟨deeper, st, inner, passed⟩)
  · rintro (passed | ⟨below, st, inner, passed⟩ | ⟨below, st, inner, passed⟩)
    · exact ⟨0, outer, .listed (List.mem_singleton_self outer), passed⟩
    · exact ⟨below + 1, st, .predicate (List.mem_singleton_self outer) inner, passed⟩
    · exact ⟨below + 1, st, .filter (List.mem_singleton_self outer) inner, passed⟩

theorem Statement.isNamed_of_namedArguments {st : Statement} {p : Parameter}
    (passed : p ∈ st.namedArguments) : p.isNamed = true := by
  unfold namedArguments namedOnly at passed
  split at passed <;> simp only [List.mem_append, List.mem_filter, List.not_mem_nil] at passed <;>
    tauto

/-! ## Collecting over statements -/

section Collection

variable (params : String → List Parameter)

/-- The elements a walk has used have their getter parameters among those it
collected. -/
def Covers (state : List String × List Parameter) : Prop :=
  ∀ name ∈ state.1, ∀ p ∈ namedOnly (params name), p ∈ state.2

/-- Every statement below a list carries the getter parameters that `params`
gives its element. -/
def Consistent (statements : List Statement) : Prop :=
  ∀ below st, Statement.Within below st statements → st.elementParameters = params st.elementName

/-- What a walk over statements does to its state: it keeps the elements it
used covered, and adds exactly the parameters the statements pass by name. -/
structure Collects (statements : List Statement) (before after : List String × List Parameter) :
    Prop where
  covers : Covers params after
  mem_iff : ∀ p, p ∈ after.2 ↔ p ∈ before.2 ∨ NamedIn statements p

variable {params}

theorem Covers.append {seen : List String} {collected more : List Parameter}
    (covers : Covers params (seen, collected)) : Covers params (seen, collected ++ more) :=
  fun name used p passed => List.mem_append_left more (covers name used p passed)

theorem consistent_cons {outer : Statement} {rest : List Statement} :
    Consistent params (outer :: rest) ↔ Consistent params [outer] ∧ Consistent params rest := by
  constructor
  · intro consistent
    exact ⟨fun below st within => consistent below st (Statement.within_cons_iff.mpr (.inl within)),
      fun below st within => consistent below st (Statement.within_cons_iff.mpr (.inr within))⟩
  · rintro ⟨head, tail⟩ below st within
    rcases Statement.within_cons_iff.mp within with inner | later
    · exact head below st inner
    · exact tail below st later

section Use

variable {seen : List String} {collected : List Parameter} {name : String}
  {elementParameters : List Parameter}

/-- The state after a statement uses its element: unchanged when the element
was used before, with the element's getter parameters otherwise. -/
def useElement (seen : List String) (collected : List Parameter) (name : String)
    (elementParameters : List Parameter) : List String × List Parameter :=
  if seen.contains name then (seen, collected)
  else (name :: seen, collected ++ namedOnly elementParameters)

theorem Covers.use (covers : Covers params (seen, collected))
    (own : elementParameters = params name) :
    Covers params (useElement seen collected name elementParameters) := by
  unfold useElement
  split
  · exact covers
  · intro used member p passed
    rcases List.mem_cons.mp member with rfl | earlier
    · rw [← own] at passed
      exact List.mem_append_right _ passed
    · exact List.mem_append_left _ (covers used earlier p passed)

/-- Using an element adds its getter parameters, or finds them collected
already. -/
theorem mem_useElement (covers : Covers params (seen, collected))
    (own : elementParameters = params name) {p : Parameter} :
    p ∈ (useElement seen collected name elementParameters).2 ↔
      p ∈ collected ∨ p ∈ namedOnly elementParameters := by
  unfold useElement
  split
  · rename_i used
    refine ⟨.inl, fun collectedOrOwn => collectedOrOwn.elim id fun passed => ?_⟩
    rw [own] at passed
    exact covers name (List.contains_iff_mem.mp used) p passed
  · exact List.mem_append

end Use

/-- One statement: its element's parameters on first use, then its filter's,
its own, its predicate's and its matcher's. -/
theorem collectStatement_eq {seen seen₁ seen₂ seen₃ : List String}
    {collected collected₁ collected₂ collected₃ : List Parameter} {st : Statement}
    (used : useElement seen collected st.elementName st.elementParameters = (seen₁, collected₁))
    (filtered : collectStatements (seen₁, collected₁) st.filter = (seen₂, collected₂))
    (predicated : collectStatements (seen₂, collected₂ ++ namedOnly st.parameters) st.predicate =
      (seen₃, collected₃)) :
    collectStatement (seen, collected) st =
      (seen₃, collected₃ ++ match st.matcher with
        | some m => namedOnly m.parameters
        | none => []) := by
  cases st
  unfold useElement at used
  rw [collectStatement.eq_def]
  dsimp only at *
  rw [used]
  dsimp only
  rw [filtered]
  dsimp only
  exact congrArg (fun state => (state.1, state.2 ++ _)) predicated

/--
The walk over statements whose every statement carries its element's getter
parameters, from a state whose used elements are covered, collects exactly the
parameters the statements pass by name, at any depth.
-/
theorem collectStatements_collects {state : List String × List Parameter}
    {statements : List Statement} (covers : Covers params state)
    (consistent : Consistent params statements) :
    Collects params statements state (collectStatements state statements) := by
  -- one induction over the walk: a statement through its filter and its predicate,
  -- a list through its head and its tail
  refine collectStatements.induct
    (fun state st => Covers params state → Consistent params [st] →
      Collects params [st] state (collectStatement state st))
    (fun state statements => Covers params state → Consistent params statements →
      Collects params statements state (collectStatements state statements))
    ?statement ?nil ?cons state statements covers consistent
  case statement =>
    intro seen collected elementName getterName actionName action elementParameters parameters
      predicate filter matcher fanOut returnType isLast seen₁ collected₁ used seen₂ collected₂
      filtered passed seen₃ collected₃ predicated filterIH predicateIH covers consistent
    have own : elementParameters = params elementName :=
      consistent 0 _ (.listed (List.mem_singleton_self _))
    have used : useElement seen collected elementName elementParameters = (seen₁, collected₁) := used
    have filterRun := filterIH (used ▸ Covers.use covers own)
      fun below st within => consistent (below + 1) st (.filter (List.mem_singleton_self _) within)
    rw [filtered] at filterRun
    have predicateRun := predicateIH filterRun.covers.append
      fun below st within => consistent (below + 1) st (.predicate (List.mem_singleton_self _) within)
    rw [predicated] at predicateRun
    rw [collectStatement_eq used filtered predicated]
    refine ⟨predicateRun.covers.append, fun p => ?_⟩
    have usedMem := mem_useElement covers own (p := p)
    have filterMem := filterRun.mem_iff p
    have predicateMem := predicateRun.mem_iff p
    rw [used] at usedMem
    simp only [passed, List.mem_append] at usedMem filterMem predicateMem
    rw [List.mem_append, predicateMem, filterMem, usedMem, namedIn_singleton, Statement.namedArguments]
    simp only [List.mem_append, or_assoc, or_left_comm, or_comm]
  case nil =>
    intro state covers _
    exact ⟨covers, fun p => ⟨.inl, fun kept => kept.elim id fun passed => absurd passed namedIn_nil⟩⟩
  case cons =>
    intro state st rest stIH restIH covers consistent
    obtain ⟨head, tail⟩ := consistent_cons.mp consistent
    have stRun := stIH covers head
    have restRun := restIH stRun.covers tail
    refine ⟨restRun.covers, fun p => ?_⟩
    rw [collectStatements, restRun.mem_iff, stRun.mem_iff, @namedIn_cons st rest p, or_assoc]

/-- The parameters of a compose body are exactly those its statements pass by
name, when every statement carries its element's getter parameters. -/
theorem mem_collectParameters {statements : List Statement} (consistent : Consistent params statements)
    {p : Parameter} : p ∈ collectParameters statements ↔ NamedIn statements p := by
  have run : Collects params statements ([], []) (collectStatements ([], []) statements) :=
    collectStatements_collects (fun _ used => absurd used List.not_mem_nil) consistent
  rw [collectParameters, run.mem_iff]
  simp

end Collection

/-! ## Compiled statements carry their elements' getter parameters -/

/-- The getter parameters of the element a name looks up. -/
def Scope.getterParametersOf (s : Scope) (name : String) : List Parameter :=
  ((s.lookup name).map Element.getterParameters).getD []

theorem Scope.compileStatement_consistent {s : Scope} {owner : String} {depth : Nat} {isLast : Bool}
    {spec : StatementSpec} {st : Statement}
    (compiled : s.compileStatement owner depth isLast spec = .ok st) :
    st.elementParameters = s.getterParametersOf st.elementName := by
  obtain ⟨e, found, named, -, -, parameters, -⟩ := compileStatement_eq_ok compiled
  rw [named, (lookup_eq_some found).2, getterParametersOf, found, parameters]
  rfl

/-- Every statement of a compiled compose body, at any depth, carries the getter
parameters of its element. -/
theorem Scope.compileSequence_consistent {s : Scope} {owner : String} {depth : Nat}
    {specs : List StatementSpec} {statements : List Statement}
    (compiled : s.compileSequence owner depth specs = .ok statements) :
    Consistent s.getterParametersOf statements :=
  fun below st within =>
    (compileSequence_reaches (fun _ st => st.elementParameters = s.getterParametersOf st.elementName)
      compileStatement_consistent compiled below st within).1

/-! ## What a compiled method declares -/

/-- What the parameters of a method with a body must be: those collected over a
compose body whose statements carry their elements' getter parameters, the
named arguments of a utility call, or the getter parameters of the declared
element a chain's first link names. -/
def MethodBody.Declares (s : Scope) (parameters : List Parameter) : MethodBody → Prop
  | .compose statements =>
    parameters = collectParameters statements ∧ Consistent s.getterParametersOf statements
  | .utility _ _ arguments => parameters = namedOnly arguments
  | .chain links =>
    ∃ link rest, links = link :: rest ∧
      ∃ e ∈ s.elements, e.name = link.elementName ∧ parameters = e.getterParameters
  | .abstract => True

/-- Every compiled method declares what its body requires. -/
theorem Scope.compileMethod_declares {s : Scope} {isInterface : Bool} {spec : MethodSpec}
    {c : CompiledMethod} (compiled : s.compileMethod isInterface spec = .ok c) :
    c.body.Declares s c.parameters := by
  obtain ⟨owner, ⟨-, -, abstract⟩ | ⟨specs, -, composed⟩ | ⟨links, -, -, chained⟩ |
      ⟨utility, -, -, -, called⟩⟩ := compileMethod_eq_ok compiled
  · obtain ⟨parameters, -, -, body⟩ := compileAbstract_eq_ok abstract
    rw [body]
    trivial
  · obtain ⟨statements, -, sequenced, body, collected, -⟩ := compileCompose_built composed
    rw [body]
    exact ⟨collected, compileSequence_consistent sequenced⟩
  · obtain ⟨firstLink, rest, first, tail, -, started, declared, body⟩ := compileChain_eq_ok chained
    obtain ⟨found, -⟩ := chainStart_eq_ok started
    rw [body]
    exact ⟨_, tail, rfl, first, (lookup_eq_some found).1, rfl, declared⟩
  · obtain ⟨type, parameters, -, declared, body⟩ := compileUtility_eq_ok called
    rw [body]
    exact declared

/-! ## The methods of the implementation -/

section Views

variable {elements : List Element} {methods : List CompiledMethod} {m : PageObjectMethod}

/-- A method of the implementation is the getter of an element that has one, or
a compiled method. -/
theorem mem_viewMethods :
    m ∈ viewMethods elements methods ↔
      (∃ e ∈ elements, e.hasGetter = true ∧ e.getter = m) ∨
        ∃ c ∈ methods, c.toMethod (fun name => elements.find? (fun e => e.name == name)) = m := by
  simp [viewMethods, and_assoc]

/-- A method of the implementation with a compiled body is a compiled method,
with its parameters. -/
theorem viewMethods_compiled {body : MethodBody} (member : m ∈ viewMethods elements methods)
    (compiledBody : m.body = .method body) :
    ∃ c ∈ methods, c.body = body ∧ m.declaration.parameters = c.parameters := by
  rcases mem_viewMethods.mp member with ⟨e, -, -, rfl⟩ | ⟨c, listed, rfl⟩
  · simp [Element.getter] at compiledBody
  · simp only [CompiledMethod.toMethod, Body.method.injEq] at compiledBody
    exact ⟨c, listed, compiledBody, rfl⟩

end Views

/-- Every method of the implementation of an accepted page object with a
compiled body declares what its body requires. -/
theorem AcceptedRun.implementation_declares {settings : Settings} {identifier tree : Json}
    {declaration : Declaration} (run : AcceptedRun settings identifier tree declaration)
    {view : ImplementationView} (listed : view ∈ declaration.implementation) {m : PageObjectMethod}
    (member : m ∈ view.methods) {body : MethodBody} (compiledBody : m.body = .method body) :
    body.Declares run.scope m.declaration.parameters := by
  rw [run.assembled] at listed
  rw [assemble_implementation_methods listed] at member
  obtain ⟨c, listedMethod, rfl, parameters⟩ := viewMethods_compiled member compiledBody
  obtain ⟨spec, -, methodCompiled⟩ := compileMethods_mem run.compiled c listedMethod
  rw [parameters]
  exact Scope.compileMethod_declares methodCompiled

/--
Every method signature of an accepted page object closes over its body. A
compose method declares the parameters collected over its statements, and these
are exactly the named parameters that its statements pass at any depth of
predicates and filters: their elements' getter parameters, their arguments and
their matchers' arguments, each with its type. An external utility method
declares the named arguments of its call, in order, and a chain method the
getter parameters of the declared element its first link names.
-/
theorem signatures_close_over_bodies {settings : Settings} {identifier tree : Json}
    {declaration : Declaration} (accepted : compile settings identifier tree = .ok declaration) :
    ∃ run : AcceptedRun settings identifier tree declaration,
      ∀ view ∈ declaration.implementation, ∀ m ∈ view.methods,
        (∀ statements, m.body = .method (.compose statements) →
          m.declaration.parameters = collectParameters statements ∧
            ∀ p, p ∈ m.declaration.parameters ↔ NamedIn statements p) ∧
        (∀ type invoke arguments, m.body = .method (.utility type invoke arguments) →
          m.declaration.parameters = namedOnly arguments) ∧
        (∀ links, m.body = .method (.chain links) →
          ∃ link rest, links = link :: rest ∧ ∃ e ∈ run.scope.elements,
            e.name = link.elementName ∧ m.declaration.parameters = e.getter.declaration.parameters) := by
  obtain ⟨run⟩ := AcceptedRun.of_compile accepted
  refine ⟨run, fun view listed m member => ⟨fun statements composed => ?_,
    fun type invoke arguments called => run.implementation_declares listed member called,
    fun links chained => run.implementation_declares listed member chained⟩⟩
  obtain ⟨collected, consistent⟩ := run.implementation_declares listed member composed
  exact ⟨collected, fun p => collected ▸ mem_collectParameters consistent⟩

/-- A compose method that uses an element with a scope parameter twice is
accepted, and declares exactly the parameters its statements pass: the scope
parameter, collected once, and its own argument. -/
theorem compose_signature_on_repeated_element :
    ∃ declaration, compile {} (.str "a/b/c") (.obj [
        ("elements", .arr [
          .obj [("name", .str "item"), ("public", .bool true),
            ("selector", .obj [("css", .str ".item[%s]"),
              ("args", .arr [.obj [("name", .str "key"), ("type", .str "string")]])])],
          .obj [("name", .str "part"), ("type", .str "a/b/part"), ("selector", .obj [("css", .str ".part")])]]),
        ("methods", .arr [
          .obj [("name", .str "read"), ("compose", .arr [
            .obj [("element", .str "item"), ("apply", .str "getAttribute"),
              ("args", .arr [.obj [("name", .str "attribute"), ("type", .str "string")]])],
            .obj [("element", .str "item"), ("apply", .str "getText")]])],
          .obj [("name", .str "open"), ("chain", .arr [.obj [("element", .str "part")]])]])]) = .ok declaration ∧
      ∀ view ∈ declaration.implementation, ∀ m ∈ view.methods, ∀ statements,
        m.body = .method (.compose statements) →
          ∀ p, p ∈ m.declaration.parameters ↔ NamedIn statements p := by
  obtain ⟨declaration, accepted⟩ := exists_ok_of_toBool
    (show (compile {} (.str "a/b/c") (.obj [
        ("elements", .arr [
          .obj [("name", .str "item"), ("public", .bool true),
            ("selector", .obj [("css", .str ".item[%s]"),
              ("args", .arr [.obj [("name", .str "key"), ("type", .str "string")]])])],
          .obj [("name", .str "part"), ("type", .str "a/b/part"), ("selector", .obj [("css", .str ".part")])]]),
        ("methods", .arr [
          .obj [("name", .str "read"), ("compose", .arr [
            .obj [("element", .str "item"), ("apply", .str "getAttribute"),
              ("args", .arr [.obj [("name", .str "attribute"), ("type", .str "string")]])],
            .obj [("element", .str "item"), ("apply", .str "getText")]])],
          .obj [("name", .str "open"), ("chain", .arr [.obj [("element", .str "part")]])]])])).toBool = true by decide +kernel)
  obtain ⟨run, closes⟩ := signatures_close_over_bodies accepted
  exact ⟨declaration, accepted, fun view listed m member statements composed =>
    ((closes view listed m member).1 statements composed).2⟩

end PageObjects
