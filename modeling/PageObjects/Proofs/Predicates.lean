import PageObjects.Proofs.GetterCalls

/-!
# Where predicate arguments are compiled

An argument may be a predicate: a list of statements. Resolving arguments
gives a predicate no parameter and leaves its statements to the caller. A
compose statement compiles the predicate among its own arguments one level
deeper and keeps the result; no other caller does.

`compileSpec_clearLoosePredicates` makes the second half exact. A loose
predicate is a predicate argument of a method's own arguments, of an external
utility, or of an element filter or its matcher. Clearing the statements of
every loose predicate leaves the compilation as it was, error or declaration,
although an empty statement list is refused wherever statements are compiled.

For the first half, `StatementSpec.Nested` reaches a declared statement at any
depth below a compose body. `compileSequence_nested` finds its compilation at
the same depth below the compiled body, and `compilePredicates_of_mem`
compiles its predicate argument into that statement's predicate. A matcher
never takes a predicate (`Resolver.matcher_predicate_free`).

`predicates_compiled_only_in_compose` puts the two halves together for an
accepted document.
-/

namespace PageObjects

/-! ## Loose predicates are never read -/

/-- The argument with the statements of a predicate cleared; any other argument
is kept. -/
def ArgumentSpec.clearPredicate : ArgumentSpec → ArgumentSpec
  | .predicate _ => .predicate []
  | other => other

def MatcherSpec.clearPredicates (m : MatcherSpec) : MatcherSpec :=
  { m with args := m.args.map ArgumentSpec.clearPredicate }

@[simp]
theorem MatcherSpec.clearPredicates_type (m : MatcherSpec) : m.clearPredicates.type = m.type :=
  rfl

def FilterSpec.clearPredicates (f : FilterSpec) : FilterSpec :=
  { f with args := f.args.map ArgumentSpec.clearPredicate
           matcher := f.matcher.map MatcherSpec.clearPredicates }

mutual

/-- The element with the predicates of its filter cleared, and those of its
nested and shadow elements. -/
def ElementSpec.clearPredicates : ElementSpec → ElementSpec
  | ⟨name, type, selector, isPublic, isNullable, elements, shadowElements, filter, description⟩ =>
    ⟨name, type, selector, isPublic, isNullable, ElementSpec.clearAllPredicates elements,
      ElementSpec.clearAllPredicates shadowElements, filter.map FilterSpec.clearPredicates, description⟩

def ElementSpec.clearAllPredicates : List ElementSpec → List ElementSpec
  | [] => []
  | spec :: rest => spec.clearPredicates :: ElementSpec.clearAllPredicates rest

end

def UtilitySpec.clearPredicates (u : UtilitySpec) : UtilitySpec :=
  { u with args := u.args.map ArgumentSpec.clearPredicate }

/-- The method with the predicates of its own arguments and of its external
utility cleared; its compose statements are kept. -/
def MethodSpec.clearLoosePredicates (spec : MethodSpec) : MethodSpec :=
  { spec with args := spec.args.map (List.map ArgumentSpec.clearPredicate)
              utility := spec.utility.map UtilitySpec.clearPredicates }

section

variable (spec : MethodSpec)

@[simp] theorem MethodSpec.clearLoosePredicates_name : spec.clearLoosePredicates.name = spec.name := rfl
@[simp] theorem MethodSpec.clearLoosePredicates_compose :
    spec.clearLoosePredicates.compose = spec.compose := rfl
@[simp] theorem MethodSpec.clearLoosePredicates_chain : spec.clearLoosePredicates.chain = spec.chain := rfl
@[simp] theorem MethodSpec.clearLoosePredicates_utility :
    spec.clearLoosePredicates.utility = spec.utility.map UtilitySpec.clearPredicates := rfl

end

/-- The page object with the statements of every loose predicate cleared: those
of its methods' own arguments and external utilities, and of its elements'
filters and their matchers. -/
def PageObjectSpec.clearLoosePredicates (spec : PageObjectSpec) : PageObjectSpec :=
  { spec with elements := ElementSpec.clearAllPredicates spec.elements
              shadowElements := ElementSpec.clearAllPredicates spec.shadowElements
              methods := spec.methods.map MethodSpec.clearLoosePredicates }

namespace Resolver

variable (r : Resolver)

theorem resolveOne_clearPredicate (arg : ArgumentSpec) :
    r.resolveOne arg.clearPredicate = r.resolveOne arg := by
  cases arg with
  | predicate statements => simp only [ArgumentSpec.clearPredicate, resolveOne]
  | value literal declared => rfl
  | named name type => rfl

theorem resolveEach_clearPredicate (args : List ArgumentSpec) (expected : Option (List Ty))
    (done : List Parameter) :
    r.resolveEach (args.map ArgumentSpec.clearPredicate) expected done =
      r.resolveEach args expected done := by
  induction args generalizing expected done with
  | nil => rfl
  | cons arg rest restIH => simp only [List.map_cons, resolveEach, resolveOne_clearPredicate, restIH]

theorem checkCount_clearPredicate (args : List ArgumentSpec) (expected : Option (List Ty)) :
    r.checkCount (args.map ArgumentSpec.clearPredicate) expected = r.checkCount args expected := by
  cases expected <;> simp only [checkCount, List.length_map]

/-- Resolving arguments never reads the statements of a predicate. -/
theorem resolve_clearPredicate (args : List ArgumentSpec) (expected : Option (List Ty)) :
    r.resolve (args.map ArgumentSpec.clearPredicate) expected = r.resolve args expected := by
  simp only [resolve, checkCount_clearPredicate, resolveEach_clearPredicate]

theorem resolveShapes_clearPredicate (args : List ArgumentSpec) (shapes : List (List Ty))
    (first : Option CompileError) :
    r.resolveShapes (args.map ArgumentSpec.clearPredicate) shapes first =
      r.resolveShapes args shapes first := by
  induction shapes generalizing first with
  | nil => cases first <;> simp only [resolveShapes]
  | cons shape rest restIH => simp only [resolveShapes, resolve_clearPredicate, restIH]

theorem resolveAction_clearPredicate (a : Action) (args : List ArgumentSpec) :
    r.resolveAction a (args.map ArgumentSpec.clearPredicate) = r.resolveAction a args := by
  simp only [resolveAction, List.length_map, resolveShapes_clearPredicate]

theorem matcher_clearPredicates (m : MatcherSpec) (operand : Ty) :
    r.matcher m.clearPredicates operand = r.matcher m operand := by
  simp only [matcher, MatcherSpec.clearPredicates, resolve_clearPredicate]

end Resolver

namespace Scope

variable (s : Scope)

theorem filterOf_clearPredicates (e : Element) (owner : String) (f : FilterSpec) :
    s.filterOf e owner f.clearPredicates = s.filterOf e owner f := by
  obtain ⟨apply, args, matcher, findFirst⟩ := f
  cases matcher <;>
    simp only [filterOf, FilterSpec.clearPredicates, Option.map, MatcherSpec.clearPredicates_type,
      Resolver.resolve_clearPredicate, Resolver.resolveAction_clearPredicate,
      Resolver.matcher_clearPredicates]

theorem build_clearPredicates (parent : Element) (spec : ElementSpec) :
    s.build parent spec.clearPredicates = s.build parent spec := by
  obtain ⟨name, type, selector, isPublic, isNullable, elements, shadowElements, filter, description⟩ := spec
  -- the nested elements are not read here; only the filter differs
  cases filter with
  | none => rfl
  | some f =>
      simp only [build, ElementSpec.clearPredicates, Option.map, filterOf_clearPredicates]
      rfl

theorem clearAllPredicates_isEmpty (specs : List ElementSpec) :
    (ElementSpec.clearAllPredicates specs).isEmpty = specs.isEmpty := by
  cases specs <;> rfl

theorem declareAll_clearPredicates (parent : Element) (specs : List ElementSpec) :
    s.declareAll parent (ElementSpec.clearAllPredicates specs) = s.declareAll parent specs := by
  refine declareAll.induct
    (fun s parent specs => s.declareAll parent (ElementSpec.clearAllPredicates specs) =
      s.declareAll parent specs)
    (fun s parent spec => s.declareOne parent spec.clearPredicates = s.declareOne parent spec)
    (fun s parent name type selector isPublic isNullable elements shadowElements filter description
      elementsIH shadowIH => ?_)
    (fun s parent => rfl)
    (fun s parent spec rest specIH restIH => ?_) s parent specs
  · have built := build_clearPredicates s parent
      ⟨name, type, selector, isPublic, isNullable, elements, shadowElements, filter, description⟩
    simp only [ElementSpec.clearPredicates] at built ⊢
    simp only [declareOne, built, clearAllPredicates_isEmpty, elementsIH, shadowIH]
  · simp only [ElementSpec.clearAllPredicates, declareAll, specIH, restIH]

theorem declareElements_clearLoosePredicates (settings : Settings) (spec : PageObjectSpec) :
    declareElements settings spec.clearLoosePredicates = declareElements settings spec := by
  simp only [declareElements, PageObjectSpec.clearLoosePredicates, declareAll_clearPredicates]
  rfl

variable (owner : String)

theorem compileAbstract_clearLoosePredicates (spec : MethodSpec) :
    s.compileAbstract owner spec.clearLoosePredicates = s.compileAbstract owner spec := by
  obtain ⟨name, args, returnType, returnsAll, compose, chain, utility, description⟩ := spec
  cases args with
  | none => rfl
  | some args =>
      simp only [compileAbstract, MethodSpec.clearLoosePredicates, Option.map, Option.getD,
        Resolver.resolve_clearPredicate]
      rfl

theorem compileCompose_clearLoosePredicates (spec : MethodSpec) (specs : List StatementSpec) :
    s.compileCompose owner spec.clearLoosePredicates specs = s.compileCompose owner spec specs := by
  simp only [compileCompose, MethodSpec.clearLoosePredicates, Option.isSome_map]
  rfl

theorem compileChain_clearLoosePredicates (spec : MethodSpec) (links : List ChainLinkSpec) :
    s.compileChain owner spec.clearLoosePredicates links = s.compileChain owner spec links := by
  simp only [compileChain, chainRedundancies, MethodSpec.clearLoosePredicates, Option.isSome_map]
  rfl

theorem compileUtility_clearLoosePredicates (spec : MethodSpec) (utility : UtilitySpec) :
    s.compileUtility owner spec.clearLoosePredicates utility.clearPredicates =
      s.compileUtility owner spec utility := by
  simp only [compileUtility, MethodSpec.clearLoosePredicates, UtilitySpec.clearPredicates,
    Option.isSome_map, Resolver.resolve_clearPredicate]
  rfl

theorem compileMethod_clearLoosePredicates (isInterface : Bool) (spec : MethodSpec) :
    s.compileMethod isInterface spec.clearLoosePredicates = s.compileMethod isInterface spec := by
  have named : bodyNames spec.clearLoosePredicates = bodyNames spec := by
    rw [bodyNames, bodyNames, MethodSpec.clearLoosePredicates_compose,
      MethodSpec.clearLoosePredicates_chain, MethodSpec.clearLoosePredicates_utility]
    cases spec.utility <;> rfl
  unfold compileMethod
  rw [named, MethodSpec.clearLoosePredicates_name, MethodSpec.clearLoosePredicates_compose,
    MethodSpec.clearLoosePredicates_chain, MethodSpec.clearLoosePredicates_utility]
  cases spec.compose <;> cases spec.chain <;> cases spec.utility <;>
    simp only [Option.map, compileAbstract_clearLoosePredicates, compileCompose_clearLoosePredicates,
      compileChain_clearLoosePredicates, compileUtility_clearLoosePredicates]

end Scope

theorem compileMethods_clearLoosePredicates (s : Scope) (isInterface : Bool) (specs : List MethodSpec) :
    compileMethods s isInterface (specs.map MethodSpec.clearLoosePredicates) =
      compileMethods s isInterface specs := by
  simp only [compileMethods, List.foldlM_map, Scope.compileMethod_clearLoosePredicates]

/-- Clearing the statements of every loose predicate changes no compilation. -/
theorem compileSpec_clearLoosePredicates (settings : Settings) (identifier : Json)
    (spec : PageObjectSpec) :
    compileSpec settings identifier spec.clearLoosePredicates = compileSpec settings identifier spec := by
  have declared := Scope.declareElements_clearLoosePredicates settings spec
  simp only [compileSpec, declared]
  simp only [PageObjectSpec.clearLoosePredicates, compileMethods_clearLoosePredicates]

/-! ## Predicates of compose statements -/

/-- A statement declared in a list, or in a predicate argument or the filter of
a statement of the list, `depth` levels below it. -/
inductive StatementSpec.Nested : Nat → StatementSpec → List StatementSpec → Prop
  | listed {st : StatementSpec} {specs : List StatementSpec} :
      st ∈ specs → StatementSpec.Nested 0 st specs
  | predicate {depth : Nat} {st outer : StatementSpec} {specs inner : List StatementSpec} :
      outer ∈ specs → .predicate inner ∈ outer.args → StatementSpec.Nested depth st inner →
        StatementSpec.Nested (depth + 1) st specs
  | filter {depth : Nat} {st outer : StatementSpec} {specs inner : List StatementSpec} :
      outer ∈ specs → outer.predicate = some inner → StatementSpec.Nested depth st inner →
        StatementSpec.Nested (depth + 1) st specs

/-- A compiled statement calls a declared element: a component, with no action,
or an element whose type offers the action the statement names. -/
def Statement.Calls (s : Scope) (st : Statement) : Prop :=
  ∃ e ∈ s.elements, e.name = st.elementName ∧
    ((e.kind = .custom ∧ st.action = none) ∨
      ∃ a, st.action = some a ∧ a.name = st.actionName ∧ e.type.offers a e.isList = true)

theorem lookupAction_eq_ok {owner : Option String} {t : Ty} {name elementName : String}
    {isList : Bool} {a : Action} (looked : lookupAction owner t name elementName isList = .ok a) :
    a.name = name ∧ t.offers a isList = true := by
  unfold lookupAction at looked
  split at looked
  · exact absurd looked failWith_ne_ok
  · rename_i found
    split at looked
    · rename_i offered
      cases looked
      exact ⟨by simpa using List.find?_some found, offered⟩
    · exact absurd looked failWith_ne_ok

namespace Resolver

variable {r : Resolver}

theorem accepts_function {t : Ty} (fits : accepts t .function = true) : t = .function := by
  simpa [accepts, Ty.isBasic] using fits

/-- Arguments, as many as the types expected and none of those a function, are
resolved only when none of them is a predicate. -/
theorem resolveEach_predicate_free : ∀ {args : List ArgumentSpec} {expected : List Ty}
    {done values : List Parameter}, args.length = expected.length → Ty.function ∉ expected →
    r.resolveEach args (some expected) done = .ok values → ∀ inner, .predicate inner ∉ args
  | [], _, _, _, _, _, _ => fun _ member => absurd member List.not_mem_nil
  | _ :: _, [], _, _, counted, _, _ => absurd counted (by simp)
  | arg :: rest, t :: ts, done, values, counted, noFunction, resolved => by
      obtain ⟨parameter, resolvedOne, fits, later⟩ := resolveEach_cons_eq_ok resolved
      intro inner member
      rcases List.mem_cons.mp member with rfl | deeper
      · -- a predicate gives no parameter, which stands where a function is expected
        rw [resolveOne.eq_1, Except.ok.injEq] at resolvedOne
        subst resolvedOne
        exact noFunction (accepts_function fits ▸ List.mem_cons_self)
      · exact resolveEach_predicate_free (by simpa using counted)
          (fun member => noFunction (List.mem_cons_of_mem t member)) later inner deeper

/-- A matcher never takes a predicate: no kind of matcher expects a function. -/
theorem matcher_predicate_free {spec : MatcherSpec} {operand : Ty} {m : Matcher}
    (matched : r.matcher spec operand = .ok m) : ∀ inner, .predicate inner ∉ spec.args := by
  unfold matcher at matched
  obtain ⟨kind, looked, matched⟩ := bind_eq_ok.mp matched
  split at matched
  · exact absurd matched (by simp [refuse])
  · obtain ⟨parameters, resolved, -⟩ := bind_eq_ok.mp matched
    unfold resolve at resolved
    obtain ⟨⟨⟩, counted, resolved⟩ := bind_eq_ok.mp resolved
    obtain ⟨values, resolvedEach, -⟩ := bind_eq_ok.mp resolved
    have functionFree : ∀ k ∈ MatcherKind.catalog, Ty.function ∉ k.argumentTypes := by decide
    unfold MatcherKind.lookup at looked
    split at looked
    · rename_i found
      cases looked
      exact resolveEach_predicate_free (checkCount_eq_ok counted).symm
        (functionFree kind (List.mem_of_find?_eq_some found)) resolvedEach
    · exact absurd looked failWith_ne_ok

end Resolver

namespace Scope

variable {s : Scope} {owner : String}

theorem statementMatcher_predicate_free {spec : Option MatcherSpec} {result : Ty}
    {matched : Option Matcher × Ty} (typed : s.statementMatcher owner spec result = .ok matched) :
    ∀ m ∈ spec, ∀ inner, .predicate inner ∉ m.args := by
  intro m member
  rw [Option.mem_def] at member
  subst member
  rw [statementMatcher] at typed
  obtain ⟨resolved, matcherResolved, -⟩ := bind_eq_ok.mp typed
  exact Resolver.matcher_predicate_free matcherResolved

theorem statementCall_eq_ok {e : Element} {apply : String} {args : List ArgumentSpec}
    {returnType : Option String} {returnsAll : Bool} {predicate : List Statement}
    {action : Option Action} {parameters : List Parameter} {result : Ty} {fanOut : Bool}
    (called : s.statementCall owner e apply args returnType returnsAll predicate =
      .ok (action, parameters, result, fanOut)) :
    (e.kind = .custom ∧ action = none) ∨
      ∃ a, action = some a ∧ lookupAction (some owner) e.type apply e.name e.isList = .ok a := by
  unfold statementCall at called
  split at called
  · exact absurd called fail_ne_ok
  · rename_i custom
    obtain ⟨_, -, called⟩ := bind_eq_ok.mp called
    obtain ⟨_, -, called⟩ := bind_eq_ok.mp called
    cases pure_eq_ok.mp called
    exact .inl ⟨custom, rfl⟩
  · split at called
    · exact absurd called fail_ne_ok
    · obtain ⟨a, looked, called⟩ := bind_eq_ok.mp called
      obtain ⟨_, -, called⟩ := bind_eq_ok.mp called
      cases pure_eq_ok.mp called
      exact .inr ⟨a, rfl, looked⟩

theorem compileStatement_calls {depth : Nat} {isLast : Bool} {spec : StatementSpec} {st : Statement}
    (compiled : s.compileStatement owner depth isLast spec = .ok st) : st.Calls s := by
  obtain ⟨e, found, named, -, acted, -, -, ⟨result, called, -⟩, -⟩ := compileStatement_eq_ok compiled
  obtain ⟨member, -⟩ := lookup_eq_some found
  refine ⟨e, member, named.symm, ?_⟩
  rcases statementCall_eq_ok called with custom | ⟨a, chosen, looked⟩
  · exact .inl custom
  · obtain ⟨actionNamed, offered⟩ := lookupAction_eq_ok looked
    exact .inr ⟨a, chosen, actionNamed.trans acted.symm, offered⟩

theorem compileSequence_mem {depth : Nat} {specs : List StatementSpec} {statements : List Statement}
    (compiled : s.compileSequence owner depth specs = .ok statements) :
    ∀ spec ∈ specs, ∃ isLast st, s.compileStatement owner depth isLast spec = .ok st ∧
      st ∈ statements := by
  induction specs generalizing statements with
  | nil => exact fun _ member => absurd member List.not_mem_nil
  | cons head rest restIH =>
      rw [compileSequence.eq_2] at compiled
      obtain ⟨st, stated, compiled⟩ := bind_eq_ok.mp compiled
      obtain ⟨others, sequenced, listed⟩ := bind_eq_ok.mp compiled
      obtain rfl := pure_eq_ok.mp listed
      intro spec member
      rcases List.mem_cons.mp member with rfl | later
      · exact ⟨_, st, stated, List.mem_cons_self⟩
      · obtain ⟨isLast, other, otherCompiled, otherListed⟩ := restIH sequenced spec later
        exact ⟨isLast, other, otherCompiled, List.mem_cons_of_mem st otherListed⟩

theorem compileSequence_ne_nil {depth : Nat} {specs : List StatementSpec}
    {statements : List Statement} (compiled : s.compileSequence owner depth specs = .ok statements)
    (declared : specs ≠ []) : statements ≠ [] := by
  obtain ⟨spec, member⟩ := List.exists_mem_of_ne_nil specs declared
  obtain ⟨-, st, -, listed⟩ := compileSequence_mem compiled spec member
  exact List.ne_nil_of_mem listed

/-- The predicates of a statement compile to what was found before when its
arguments hold none, and otherwise, when none was found before, to the one
predicate they hold, compiled one level deeper. -/
theorem compilePredicates_eq_ok {depth : Nat} {args : List ArgumentSpec}
    {found result : List Statement}
    (compiled : s.compilePredicates owner depth args found = .ok result) :
    ((∀ inner, .predicate inner ∉ args) ∧ result = found) ∨
      (found = [] ∧ ∃ inner, .predicate inner ∈ args ∧
        (∀ other, .predicate other ∈ args → other = inner) ∧
        s.checkLevel owner (depth + 1) inner = .ok () ∧
        s.compileSequence owner (depth + 1) inner = .ok result) := by
  induction args generalizing found with
  | nil =>
      rw [compilePredicates.eq_1, Except.ok.injEq] at compiled
      exact .inl ⟨fun _ member => absurd member List.not_mem_nil, compiled.symm⟩
  | cons arg rest restIH =>
      by_cases isPredicate : ∃ statements, arg = .predicate statements
      · obtain ⟨statements, rfl⟩ := isPredicate
        rw [compilePredicates.eq_2] at compiled
        split at compiled
        · exact absurd compiled fail_ne_ok
        · rename_i free
          obtain ⟨⟨⟩, leveled, compiled⟩ := bind_eq_ok.mp compiled
          obtain ⟨nested, sequenced, compiled⟩ := bind_eq_ok.mp compiled
          -- a second predicate would find the first one compiled, which is not empty
          have nonempty := compileSequence_ne_nil sequenced (checkLevel_eq_ok.mp leveled).2
          rcases restIH compiled with ⟨noneLater, rfl⟩ | ⟨empty, -⟩
          · refine .inr ⟨by simpa using free, statements, List.mem_cons_self,
              fun other member => ?_, leveled, sequenced⟩
            rcases List.mem_cons.mp member with same | later
            · exact ArgumentSpec.predicate.inj same
            · exact absurd later (noneLater other)
          · exact absurd empty nonempty
      · -- any other argument is passed over
        have notPredicate : ∀ statements, arg = .predicate statements → False :=
          fun statements same => isPredicate ⟨statements, same⟩
        rw [compilePredicates.eq_3 _ _ _ _ _ _ notPredicate] at compiled
        have inRest : ∀ inner, .predicate inner ∈ arg :: rest → .predicate inner ∈ rest :=
          fun inner member => (List.mem_cons.mp member).resolve_left
            (fun same => notPredicate inner same.symm)
        rcases restIH compiled with ⟨noneLater, same⟩ | ⟨empty, inner, member, unique, found⟩
        · exact .inl ⟨fun inner member => noneLater inner (inRest inner member), same⟩
        · exact .inr ⟨empty, inner, List.mem_cons_of_mem _ member,
            fun other member => unique other (inRest other member), found⟩

/-- A predicate argument of a statement is compiled one level deeper, within
the settings' limit, into the predicate of the compiled statement. -/
theorem compilePredicates_of_mem {depth : Nat} {args : List ArgumentSpec} {result : List Statement}
    {inner : List StatementSpec} (compiled : s.compilePredicates owner depth args [] = .ok result)
    (member : .predicate inner ∈ args) :
    depth + 1 ≤ s.settings.maxPredicateDepth ∧ s.compileSequence owner (depth + 1) inner = .ok result := by
  rcases compilePredicates_eq_ok compiled with ⟨noPredicate, -⟩ | ⟨-, only, -, unique, leveled, sequenced⟩
  · exact absurd member (noPredicate inner)
  · rw [unique inner member]
    exact ⟨(checkLevel_eq_ok.mp leveled).1, sequenced⟩

/-- Every statement declared at any depth below a compiled list is compiled,
at its own depth, into a statement standing as deep below the compiled list. -/
theorem compileSequence_nested {below : Nat} {st : StatementSpec} {specs : List StatementSpec}
    (nested : st.Nested below specs) :
    ∀ {depth statements}, s.compileSequence owner depth specs = .ok statements →
      ∃ isLast compiled, s.compileStatement owner (depth + below) isLast st = .ok compiled ∧
        compiled.Within below statements := by
  induction nested with
  | listed member =>
      intro depth statements sequenced
      obtain ⟨isLast, compiled, stated, listed⟩ := compileSequence_mem sequenced _ member
      exact ⟨isLast, compiled, stated, .listed listed⟩
  | @predicate below _ _ _ _ member argument _ insideIH =>
      intro depth statements sequenced
      obtain ⟨outerLast, outer, outerCompiled, listed⟩ := compileSequence_mem sequenced _ member
      obtain ⟨-, -, -, -, -, -, predicated, -⟩ := compileStatement_eq_ok outerCompiled
      obtain ⟨isLast, compiled, stated, within⟩ :=
        insideIH (compilePredicates_of_mem predicated argument).2
      refine ⟨isLast, compiled, ?_, .predicate listed within⟩
      rwa [Nat.add_right_comm, Nat.add_assoc] at stated
  | @filter below _ _ _ _ member declared _ insideIH =>
      intro depth statements sequenced
      obtain ⟨outerLast, outer, outerCompiled, listed⟩ := compileSequence_mem sequenced _ member
      obtain ⟨-, -, -, -, -, -, -, -, filtered, -⟩ := compileStatement_eq_ok outerCompiled
      obtain ⟨isLast, compiled, stated, within⟩ := insideIH (filtered _ declared).2
      refine ⟨isLast, compiled, ?_, .filter listed within⟩
      rwa [Nat.add_right_comm, Nat.add_assoc] at stated

end Scope

theorem compileMethods_complete {s : Scope} {isInterface : Bool} {specs : List MethodSpec}
    {methods : List CompiledMethod} (compiled : compileMethods s isInterface specs = .ok methods) :
    ∀ spec ∈ specs, ∃ m ∈ methods, s.compileMethod isInterface spec = .ok m := by
  unfold compileMethods at compiled
  -- over the fold, the methods added so far stay, and each declared one adds its compilation
  suffices keeps : ∀ {specs : List MethodSpec} {done methods : List CompiledMethod},
      specs.foldlM (fun methods spec => do
        let m ← s.compileMethod isInterface spec
        addMethod s.elements methods m) done = .ok methods →
      done ⊆ methods ∧ ∀ spec ∈ specs, ∃ m ∈ methods, s.compileMethod isInterface spec = .ok m from
    (keeps compiled).2
  intro specs
  induction specs with
  | nil =>
      intro done methods run
      rw [List.foldlM_nil, pure_eq_ok] at run
      exact ⟨run ▸ List.Subset.refl done, fun _ member => absurd member List.not_mem_nil⟩
  | cons spec rest restIH =>
      intro done methods run
      rw [List.foldlM_cons] at run
      obtain ⟨next, stepped, restRun⟩ := bind_eq_ok.mp run
      obtain ⟨m, methodCompiled, added⟩ := bind_eq_ok.mp stepped
      obtain ⟨-, -, rfl⟩ := addMethod_eq_ok_iff.mp added
      obtain ⟨kept, later⟩ := restIH restRun
      refine ⟨fun x member => kept (List.mem_append_left _ member), fun other member => ?_⟩
      rcases List.mem_cons.mp member with rfl | declared
      · exact ⟨m, kept (List.mem_append_right _ (List.mem_singleton_self m)), methodCompiled⟩
      · exact later other declared

theorem Scope.compileMethod_compose {s : Scope} {isInterface : Bool} {spec : MethodSpec}
    {m : CompiledMethod} {specs : List StatementSpec}
    (compiled : s.compileMethod isInterface spec = .ok m) (composed : spec.compose = some specs) :
    ∃ owner, s.compileCompose owner spec specs = .ok m := by
  obtain ⟨owner, ⟨-, bodiless, -⟩ | ⟨declared, composed', body⟩ | ⟨-, uncomposed, -⟩ |
      ⟨-, uncomposed, -⟩⟩ := compileMethod_eq_ok compiled
  · simp [bodyNames, composed] at bodiless
  · rw [composed, Option.some.injEq] at composed'
    exact ⟨owner, composed' ▸ body⟩
  · simp [composed] at uncomposed
  · simp [composed] at uncomposed

/-- Every statement declared at any depth below a compose method of an accepted
page object is compiled, at its depth, into a statement of that method's body. -/
theorem AcceptedRun.compose_nested {settings : Settings} {identifier tree : Json}
    {declaration : Declaration} (run : AcceptedRun settings identifier tree declaration)
    {ms : MethodSpec} (declared : ms ∈ run.spec.methods) {specs : List StatementSpec}
    (composed : ms.compose = some specs) {depth : Nat} {st : StatementSpec}
    (nested : st.Nested depth specs) :
    ∃ m ∈ run.methods, ∃ statements, m.body = .compose statements ∧
      ∃ owner isLast compiled, run.scope.compileStatement owner depth isLast st = .ok compiled ∧
        compiled.Within depth statements := by
  obtain ⟨m, member, methodCompiled⟩ := compileMethods_complete run.compiled ms declared
  obtain ⟨owner, composedCompiled⟩ := Scope.compileMethod_compose methodCompiled composed
  obtain ⟨statements, -, sequenced, body⟩ := Scope.compileCompose_eq_ok composedCompiled
  obtain ⟨isLast, compiled, stated, within⟩ := Scope.compileSequence_nested nested sequenced
  rw [Nat.zero_add] at stated
  exact ⟨m, member, statements, body, owner, isLast, compiled, stated, within⟩

/--
Predicate arguments are compiled in compose statements and nowhere else. In an
accepted page object, every statement declared below a compose method, at any
depth, is compiled into a statement of that method's body; its predicate
argument is compiled one level deeper, within the settings' limit, into that
statement's predicate, whose statements each call a declared element; and its
matcher takes no predicate. Every other predicate argument is never read: with
the statements of all of them cleared, the page object compiles to the same
declaration.
-/
theorem predicates_compiled_only_in_compose {settings : Settings} {identifier tree : Json}
    {declaration : Declaration} (accepted : compile settings identifier tree = .ok declaration) :
    ∃ run : AcceptedRun settings identifier tree declaration,
      (∀ ms ∈ run.spec.methods, ∀ specs, ms.compose = some specs →
        ∀ depth (st : StatementSpec), st.Nested depth specs →
          ∃ m ∈ run.methods, ∃ statements, m.body = .compose statements ∧
            ∃ owner isLast compiled, run.scope.compileStatement owner depth isLast st = .ok compiled ∧
              compiled.Within depth statements ∧
              (∀ inner, .predicate inner ∈ st.args →
                depth + 1 ≤ settings.maxPredicateDepth ∧
                run.scope.compileSequence owner (depth + 1) inner = .ok compiled.predicate ∧
                ∀ p ∈ compiled.predicate, p.Calls run.scope) ∧
              ∀ matcher ∈ st.matcher, ∀ inner, .predicate inner ∉ matcher.args) ∧
      compileSpec settings identifier run.spec.clearLoosePredicates = .ok declaration := by
  obtain ⟨run⟩ := AcceptedRun.of_compile accepted
  have compiled : compileSpec settings identifier run.spec = .ok declaration :=
    compileSpec_eq_ok_iff.mpr ⟨run.pageType, run.scope, run.methods, run.implements, run.named,
      run.declared, run.compiled, run.implemented, run.assembled⟩
  refine ⟨run, fun ms declared specs composed depth st nested => ?_,
    (compileSpec_clearLoosePredicates settings identifier run.spec).trans compiled⟩
  obtain ⟨m, member, statements, body, owner, isLast, compiledStatement, stated, within⟩ :=
    run.compose_nested declared composed nested
  obtain ⟨-, -, -, -, -, -, predicated, ⟨result, -, typed, typedMatcher⟩, -⟩ :=
    Scope.compileStatement_eq_ok stated
  refine ⟨m, member, statements, body, owner, isLast, compiledStatement, stated, within,
    fun inner argument => ?_, Scope.statementMatcher_predicate_free typedMatcher⟩
  obtain ⟨bounded, sequenced⟩ := Scope.compilePredicates_of_mem predicated argument
  rw [declareElements_settings run.declared] at bounded
  -- the statements of the predicate are those listed at depth zero below it
  have calling := Scope.compileSequence_reaches (fun _ st => st.Calls run.scope)
    Scope.compileStatement_calls sequenced
  exact ⟨bounded, sequenced, fun p listed => (calling 0 p (.listed listed)).1⟩

/-- A page object that waits in a compose statement for a predicate, and whose
component filter takes a predicate on an undeclared element, compiles as it
would with the filter's predicate cleared. -/
theorem filter_predicate_cleared_beside_waiting :
    ∃ declaration, compile {} (.str "a/b/c") (.obj [
        ("elements", .arr [.obj [("name", .str "btn"), ("selector", .obj [("css", .str ".b")])],
          .obj [("name", .str "items"), ("type", .str "a/b/item"),
            ("selector", .obj [("css", .str ".i"), ("returnAll", .bool true)]),
            ("filter", .obj [("apply", .str "isOk"),
              ("args", .arr [.obj [("predicate", .arr [.obj [("element", .str "missing"),
                ("apply", .str "x")]])]]),
              ("matcher", .obj [("type", .str "isTrue")])])]]),
        ("methods", .arr [.obj [("name", .str "m"),
          ("compose", .arr [.obj [("element", .str "btn"), ("apply", .str "waitFor"),
            ("args", .arr [.obj [("predicate", .arr [.obj [("element", .str "btn"),
              ("apply", .str "isVisible")]])]])]])]])]) = .ok declaration ∧
      ∃ spec, Grammar.read ({} : Settings).strictGrammar (.obj [
        ("elements", .arr [.obj [("name", .str "btn"), ("selector", .obj [("css", .str ".b")])],
          .obj [("name", .str "items"), ("type", .str "a/b/item"),
            ("selector", .obj [("css", .str ".i"), ("returnAll", .bool true)]),
            ("filter", .obj [("apply", .str "isOk"),
              ("args", .arr [.obj [("predicate", .arr [.obj [("element", .str "missing"),
                ("apply", .str "x")]])]]),
              ("matcher", .obj [("type", .str "isTrue")])])]]),
        ("methods", .arr [.obj [("name", .str "m"),
          ("compose", .arr [.obj [("element", .str "btn"), ("apply", .str "waitFor"),
            ("args", .arr [.obj [("predicate", .arr [.obj [("element", .str "btn"),
              ("apply", .str "isVisible")]])]])]])]])]) = .ok spec ∧
        compileSpec {} (.str "a/b/c") spec.clearLoosePredicates = .ok declaration := by
  obtain ⟨declaration, accepted⟩ := exists_ok_of_toBool
    (show (compile {} (.str "a/b/c") (.obj [
        ("elements", .arr [.obj [("name", .str "btn"), ("selector", .obj [("css", .str ".b")])],
          .obj [("name", .str "items"), ("type", .str "a/b/item"),
            ("selector", .obj [("css", .str ".i"), ("returnAll", .bool true)]),
            ("filter", .obj [("apply", .str "isOk"),
              ("args", .arr [.obj [("predicate", .arr [.obj [("element", .str "missing"),
                ("apply", .str "x")]])]]),
              ("matcher", .obj [("type", .str "isTrue")])])]]),
        ("methods", .arr [.obj [("name", .str "m"),
          ("compose", .arr [.obj [("element", .str "btn"), ("apply", .str "waitFor"),
            ("args", .arr [.obj [("predicate", .arr [.obj [("element", .str "btn"),
              ("apply", .str "isVisible")]])]])]])]])])).toBool = true by decide +kernel)
  obtain ⟨run, -, cleared⟩ := predicates_compiled_only_in_compose accepted
  exact ⟨declaration, accepted, run.spec, run.read, cleared⟩

/-- A page object whose external utility takes a predicate on an element it does
not declare is accepted. -/
theorem utility_predicate_on_undeclared_element_accepted :
    ∃ declaration, compile {} (.str "a/b/c") (.obj [("methods", .arr [.obj [("name", .str "m"),
          ("externalUtility", .obj [("type", .str "a/b/util"), ("invoke", .str "f"),
            ("args", .arr [.obj [("predicate", .arr [.obj [("element", .str "missing"),
              ("apply", .str "x")]])]])])]])]) = .ok declaration ∧
      ∀ run : AcceptedRun {} (.str "a/b/c") (.obj [("methods", .arr [.obj [("name", .str "m"),
          ("externalUtility", .obj [("type", .str "a/b/util"), ("invoke", .str "f"),
            ("args", .arr [.obj [("predicate", .arr [.obj [("element", .str "missing"),
              ("apply", .str "x")]])]])])]])]) declaration, run.scope.lookup "missing" = none := by
  obtain ⟨declaration, accepted⟩ := exists_ok_of_toBool
    (show (compile {} (.str "a/b/c") (.obj [("methods", .arr [.obj [("name", .str "m"),
          ("externalUtility", .obj [("type", .str "a/b/util"), ("invoke", .str "f"),
            ("args", .arr [.obj [("predicate", .arr [.obj [("element", .str "missing"),
              ("apply", .str "x")]])]])])]])])).toBool = true by decide +kernel)
  refine ⟨declaration, accepted, fun run => ?_⟩
  have undeclared : (Grammar.read ({} : Settings).strictGrammar (.obj [("methods", .arr [.obj [("name", .str "m"),
          ("externalUtility", .obj [("type", .str "a/b/util"), ("invoke", .str "f"),
            ("args", .arr [.obj [("predicate", .arr [.obj [("element", .str "missing"),
              ("apply", .str "x")]])]])])]])]) >>= declareElements {}).toOption.map
      (fun s => (s.lookup "missing").isNone) = some true := by decide +kernel
  rw [run.read, ok_bind, run.declared] at undeclared
  simpa [Except.toOption] using undeclared

end PageObjects
