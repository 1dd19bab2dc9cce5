import PageObjects.Proofs.PredicateDepth

/-!
# Well-formed compose bodies

A compose statement is compiled from its declaration and the element it
targets. `Statement.WellFormed` collects what a compiled statement holds of
both: the lists below it mark their last statement, a filter stands on a list
element and ends with a boolean, a matcher tests the call's result and turns it
into a boolean, the statement fans out over a list element unless its action
takes the list whole, and a component is called where any other element applies
an action its type offers.

Each stage of `compileStatement` has its own lemma here (the call, the matcher,
the filter), and `compileStatement_wellFormed` assembles them.
`compileSequence_reaches` carries the property to every statement below a body,
at any depth, and `compose_bodies_well_formed` states it for every compose
method of an accepted page object, together with the method's return type: the
last top-level statement's, which a declared return type has to equal.
-/

namespace PageObjects

/-- The result an action gives its statement: its own, or the last predicate
statement's for an action that returns what its predicate returns. -/
def Action.resultAfter (a : Action) (predicate : List Statement) : Ty :=
  if a.returnsPredicateResult then
    match predicate.getLast? with
    | some last => last.returnType
    | none => a.returnType
  else a.returnType

namespace Statement

/-- A list of statements marks exactly its last statement. -/
def MarksLast (statements : List Statement) : Prop :=
  ∀ (i : Nat) (h : i < statements.length), statements[i].isLast = true ↔ i + 1 = statements.length

theorem marksLast_nil : MarksLast [] :=
  fun _ h => absurd h (Nat.not_lt_zero _)

/-- A statement marked last exactly when nothing follows it heads a list that
marks its last statement when its tail does. -/
theorem marksLast_cons {st : Statement} {rest : List Statement} (head : st.isLast = rest.isEmpty)
    (tail : MarksLast rest) : MarksLast (st :: rest) := by
  intro i h
  cases i with
  | zero => cases rest <;> simp [head]
  | succ i =>
      have later := tail i (by simpa using h)
      simpa using later

/-- What a compiled statement holds of the element `e` it targets and of the
statement `spec` it was declared as, compiled for `owner` in the scope `s`. -/
structure WellFormed (s : Scope) (owner : String) (spec : StatementSpec) (e : Element)
    (st : Statement) : Prop where
  /-- The statement targets the element its declaration names. -/
  target : s.lookup spec.element = some e ∧ st.elementName = e.name
  /-- The predicate and the filter each mark their last statement. -/
  marked : MarksLast st.predicate ∧ MarksLast st.filter
  /-- A filter stands on a list element, and its last statement gives a boolean. -/
  filtered : st.filter ≠ [] → e.isList = true ∧ st.filter.getLast?.map returnType = some .boolean
  /-- A matcher tests the result of the call, the action's or the component's,
  and the statement then gives a boolean, or one per element. -/
  matched : ∀ m, st.matcher = some m →
    (∀ a, st.action = some a → m.kind.operand = a.resultAfter st.predicate) ∧
    (st.action = none → Scope.componentResult owner spec.returnType spec.returnsAll = .ok m.kind.operand) ∧
    (st.returnType = .boolean ∨ st.returnType = .list .boolean)
  /-- The statement runs once per element of a list element, unless its action
  takes the list whole. -/
  fansOut : st.fanOut = true ↔ e.isList = true ∧ ∀ a, st.action = some a → a.isListAction = false
  /-- Run once per element, the statement gives nothing or a list. -/
  fannedOut : st.fanOut = true → st.returnType.isVoid = true ∨ st.returnType.isList = true
  /-- A component is called; any other element applies an action. -/
  component : st.action = none ↔ e.kind = .custom
  /-- An action's capability is held by the element's basic type, and a list
  action applies to a list element only. -/
  offered : ∀ a, st.action = some a → e.type.isBasic = true ∧ e.type.hasCapability a.capability = true ∧
    (a.isListAction = true → e.isList = true)

end Statement

theorem Ty.offers_iff {t : Ty} {a : Action} {isList : Bool} :
    t.offers a isList = true ↔
      t.isBasic = true ∧ t.hasCapability a.capability = true ∧ (a.isListAction = true → isList = true) := by
  unfold Ty.offers
  cases a.isListAction <;> simp [and_assoc]

/-- A result given once per element, wrapped in a list unless it is nothing or
a list already, is nothing or a list. -/
theorem Ty.void_or_list_of_wrapped {t w : Ty}
    (wrapped : w = if (true && !t.isVoid && !t.isList) = true then t.list else t) :
    w.isVoid = true ∨ w.isList = true := by
  subst wrapped
  split
  · exact .inr rfl
  · rename_i kept
    cases voided : t.isVoid
    · cases listed : t.isList
      · simp [voided, listed] at kept
      · exact .inr rfl
    · exact .inl rfl

/-- A matcher is resolved only for a result of the type its kind tests. -/
theorem Resolver.matcher_operand {r : Resolver} {spec : MatcherSpec} {operand : Ty} {m : Matcher}
    (matched : r.matcher spec operand = .ok m) : m.kind.operand = operand := by
  unfold Resolver.matcher at matched
  obtain ⟨kind, -, matched⟩ := bind_eq_ok.mp matched
  split at matched
  · exact absurd matched (by simp [Resolver.refuse])
  · rename_i same
    obtain ⟨parameters, -, built⟩ := bind_eq_ok.mp matched
    cases pure_eq_ok.mp built
    simp only [bne_iff_ne, ne_eq, Decidable.not_not] at same
    exact same.symm

namespace Scope

variable {s : Scope} {owner : String}

section Call

variable {e : Element} {apply : String} {args : List ArgumentSpec} {returnType : Option String}
  {returnsAll : Bool} {predicate : List Statement} {action : Option Action} {parameters : List Parameter}
  {result : Ty} {fanOut : Bool}
  (called : s.statementCall owner e apply args returnType returnsAll predicate =
    .ok (action, parameters, result, fanOut))
include called

/-- A statement's call: a component is called for its declared result, once
per element of a list; any other element applies the action it names, which
its type offers, once per element of a list unless the action takes the list
whole. -/
theorem statementCall_result :
    (e.kind = .custom ∧ action = none ∧ fanOut = e.isList ∧
        componentResult owner returnType returnsAll = .ok result) ∨
      (e.kind ≠ .custom ∧ ∃ a, action = some a ∧
        lookupAction (some owner) e.type apply e.name e.isList = .ok a ∧
        result = a.resultAfter predicate ∧ fanOut = (e.isList && !a.isListAction)) := by
  unfold statementCall at called
  split at called
  · exact absurd called fail_ne_ok
  · rename_i custom
    obtain ⟨_, -, called⟩ := bind_eq_ok.mp called
    obtain ⟨componentTyped, resolved, called⟩ := bind_eq_ok.mp called
    cases pure_eq_ok.mp called
    exact .inl ⟨custom, rfl, rfl, resolved⟩
  · rename_i _ notCustom
    split at called
    · exact absurd called fail_ne_ok
    · obtain ⟨a, looked, called⟩ := bind_eq_ok.mp called
      obtain ⟨_, -, called⟩ := bind_eq_ok.mp called
      cases pure_eq_ok.mp called
      exact .inr ⟨notCustom, a, rfl, looked, rfl, rfl⟩

/-- The result of a call: the action's, or the component's declared one. -/
theorem statementCall_operand :
    (∀ a, action = some a → result = a.resultAfter predicate) ∧
      (action = none → componentResult owner returnType returnsAll = .ok result) := by
  rcases statementCall_result called with ⟨-, rfl, -, resolved⟩ | ⟨-, a, rfl, -, resulted, -⟩
  · refine ⟨fun _ acted => ?_, fun _ => resolved⟩
    cases acted
  · refine ⟨fun _ acted => Option.some.inj acted ▸ resulted, fun acted => ?_⟩
    cases acted

theorem statementCall_fanOut :
    fanOut = true ↔ e.isList = true ∧ ∀ a, action = some a → a.isListAction = false := by
  rcases statementCall_result called with ⟨-, rfl, rfl, -⟩ | ⟨-, a, rfl, -, -, rfl⟩ <;> simp

theorem statementCall_component : action = none ↔ e.kind = .custom := by
  rcases statementCall_result called with ⟨custom, rfl, -⟩ | ⟨notCustom, a, rfl, -⟩
  · simp [custom]
  · simp [notCustom]

theorem statementCall_offered (a : Action) (acted : action = some a) :
    e.type.isBasic = true ∧ e.type.hasCapability a.capability = true ∧
      (a.isListAction = true → e.isList = true) := by
  rcases statementCall_result called with ⟨-, rfl, -⟩ | ⟨-, a', rfl, looked, -⟩
  · cases acted
  · cases acted
    exact Ty.offers_iff.mp (lookupAction_eq_ok looked).2

end Call

/-- A statement without a matcher keeps its call's result; a matcher tests that
result and gives a boolean. -/
theorem statementMatcher_result {spec : Option MatcherSpec} {result typed : Ty} {matcher : Option Matcher}
    (matched : s.statementMatcher owner spec result = .ok (matcher, typed)) :
    (matcher = none ∧ typed = result) ∨ ∃ m, matcher = some m ∧ m.kind.operand = result ∧ typed = .boolean := by
  cases spec with
  | none =>
      rw [statementMatcher] at matched
      cases pure_eq_ok.mp matched
      exact .inl ⟨rfl, rfl⟩
  | some spec =>
      rw [statementMatcher] at matched
      obtain ⟨resolved, resolvedOk, built⟩ := bind_eq_ok.mp matched
      cases pure_eq_ok.mp built
      exact .inr ⟨resolved, rfl, Resolver.matcher_operand resolvedOk, rfl⟩

/-- An accepted filter that is not empty ends with a boolean. -/
theorem filterResult_last {compiled filter : List Statement} (checked : filterResult owner compiled = .ok filter)
    (nonempty : filter ≠ []) : filter.getLast?.map Statement.returnType = some .boolean := by
  unfold filterResult at checked
  split at checked
  · rename_i last found
    split at checked
    · exact absurd checked fail_ne_ok
    · rename_i boolean
      cases pure_eq_ok.mp checked
      simpa [found] using boolean
  · rename_i noLast
    cases pure_eq_ok.mp checked
    exact absurd (List.getLast?_eq_none_iff.mp noLast) nonempty

/--
The stages of an accepted statement, as the statement records them: its
element looked up, its predicate compiled from its arguments, its call and its
matcher, and its filter, empty or compiled one level deeper on a list element;
its result is the matcher's, once per element when it fans out, and it is
marked last as it was asked to be.
-/
theorem compileStatement_parts {depth : Nat} {isLast : Bool} {spec : StatementSpec} {st : Statement}
    (compiled : s.compileStatement owner depth isLast spec = .ok st) :
    ∃ e result typed, s.lookup spec.element = some e ∧ st.elementName = e.name ∧
      s.compilePredicates owner depth spec.args [] = .ok st.predicate ∧
      s.statementCall owner e spec.apply spec.args spec.returnType spec.returnsAll st.predicate =
        .ok (st.action, st.parameters, result, st.fanOut) ∧
      s.statementMatcher owner spec.matcher result = .ok (st.matcher, typed) ∧
      (st.filter = [] ∨ e.isList = true ∧ ∃ specs compiledFilter,
        s.compileSequence owner (depth + 1) specs = .ok compiledFilter ∧
        filterResult owner compiledFilter = .ok st.filter) ∧
      st.returnType = (if st.fanOut && !typed.isVoid && !typed.isList then .list typed else typed) ∧
      st.isLast = isLast := by
  obtain ⟨elementName, apply, args, matcherSpec, filterSpec, returnType, returnsAll⟩ := spec
  rw [compileStatement.eq_1] at compiled
  obtain ⟨e, found, compiled⟩ := bind_eq_ok.mp compiled
  obtain ⟨predicate, predicated, compiled⟩ := bind_eq_ok.mp compiled
  obtain ⟨⟨action, parameters, result, fanOut⟩, called, compiled⟩ := bind_eq_ok.mp compiled
  obtain ⟨⟨matcher, typed⟩, matched, compiled⟩ := bind_eq_ok.mp compiled
  obtain ⟨filter, filtered, built⟩ := bind_eq_ok.mp compiled
  obtain rfl := pure_eq_ok.mp built
  refine ⟨e, result, typed, Resolver.element_eq_ok.mp found, rfl, predicated, called, matched, ?_, rfl, rfl⟩
  -- a declared filter is compiled only on a list element
  cases filterSpec with
  | none => exact .inl (pure_eq_ok.mp filtered).symm
  | some specs =>
      dsimp only at filtered
      split at filtered
      · exact absurd filtered fail_ne_ok
      · rename_i listed
        obtain ⟨⟨⟩, -, filtered⟩ := bind_eq_ok.mp filtered
        obtain ⟨compiledFilter, sequenced, checked⟩ := bind_eq_ok.mp filtered
        exact .inr ⟨by simpa using listed, specs, compiledFilter, sequenced, checked⟩

theorem compileSequence_length {depth : Nat} {specs : List StatementSpec} {statements : List Statement}
    (compiled : s.compileSequence owner depth specs = .ok statements) : statements.length = specs.length := by
  induction specs generalizing statements with
  | nil =>
      rw [compileSequence.eq_1, Except.ok.injEq] at compiled
      rw [← compiled]
      rfl
  | cons spec rest restIH =>
      rw [compileSequence.eq_2] at compiled
      obtain ⟨st, -, compiled⟩ := bind_eq_ok.mp compiled
      obtain ⟨others, sequenced, listed⟩ := bind_eq_ok.mp compiled
      obtain rfl := pure_eq_ok.mp listed
      simp [restIH sequenced]

/-- A compiled list marks exactly its last statement. -/
theorem compileSequence_marksLast {depth : Nat} {specs : List StatementSpec} {statements : List Statement}
    (compiled : s.compileSequence owner depth specs = .ok statements) : Statement.MarksLast statements := by
  induction specs generalizing statements with
  | nil =>
      rw [compileSequence.eq_1, Except.ok.injEq] at compiled
      rw [← compiled]
      exact Statement.marksLast_nil
  | cons spec rest restIH =>
      rw [compileSequence.eq_2] at compiled
      obtain ⟨st, stated, compiled⟩ := bind_eq_ok.mp compiled
      obtain ⟨others, sequenced, listed⟩ := bind_eq_ok.mp compiled
      obtain rfl := pure_eq_ok.mp listed
      -- the head is asked to be last exactly when the declarations end with it
      obtain ⟨-, -, -, -, -, -, -, -, -, -, marked⟩ := compileStatement_parts stated
      have sameLength := compileSequence_length sequenced
      refine Statement.marksLast_cons ?_ (restIH sequenced)
      rw [marked]
      cases rest <;> cases others <;> simp_all

/-- The predicate of an accepted statement is empty or a compiled list. -/
theorem compilePredicates_marksLast {depth : Nat} {args : List ArgumentSpec} {predicate : List Statement}
    (compiled : s.compilePredicates owner depth args [] = .ok predicate) : Statement.MarksLast predicate := by
  rcases compilePredicates_eq_ok compiled with ⟨-, rfl⟩ | ⟨-, inner, -, -, -, sequenced⟩
  · exact Statement.marksLast_nil
  · exact compileSequence_marksLast sequenced

/-- The filter of an accepted statement, empty or compiled on a list element,
marks its last statement and ends with a boolean. -/
theorem filter_wellFormed {depth : Nat} {e : Element} {filter : List Statement}
    (filtered : filter = [] ∨ e.isList = true ∧ ∃ specs compiledFilter,
      s.compileSequence owner (depth + 1) specs = .ok compiledFilter ∧
      filterResult owner compiledFilter = .ok filter) :
    Statement.MarksLast filter ∧
      (filter ≠ [] → e.isList = true ∧ filter.getLast?.map Statement.returnType = some .boolean) := by
  rcases filtered with rfl | ⟨listed, specs, compiledFilter, sequenced, checked⟩
  · exact ⟨Statement.marksLast_nil, fun nonempty => absurd rfl nonempty⟩
  · refine ⟨?_, fun nonempty => ⟨listed, filterResult_last checked nonempty⟩⟩
    rw [filterResult_eq_ok checked]
    exact compileSequence_marksLast sequenced

/-- Every accepted statement is well formed for the element it targets. -/
theorem compileStatement_wellFormed {depth : Nat} {isLast : Bool} {spec : StatementSpec} {st : Statement}
    (compiled : s.compileStatement owner depth isLast spec = .ok st) :
    ∃ e, st.WellFormed s owner spec e := by
  obtain ⟨e, result, typed, found, named, predicated, called, matched, filtered, typedResult, -⟩ :=
    compileStatement_parts compiled
  obtain ⟨filterMarked, filterLast⟩ := filter_wellFormed filtered
  refine ⟨e, ⟨found, named⟩, ⟨compilePredicates_marksLast predicated, filterMarked⟩, filterLast, ?_,
    statementCall_fanOut called, fun fanned => Ty.void_or_list_of_wrapped (fanned ▸ typedResult),
    statementCall_component called, statementCall_offered called⟩
  -- the matcher tests the call's result and turns it into a boolean
  intro m present
  rcases statementMatcher_result matched with ⟨absent, -⟩ | ⟨m', same, operand, rfl⟩
  · rw [absent] at present
    cases present
  · rw [same, Option.some.injEq] at present
    subst present
    obtain ⟨actionResult, componentTyped⟩ := statementCall_operand called
    refine ⟨fun a acted => operand.trans (actionResult a acted), fun acted => ?_, ?_⟩
    · rw [operand]
      exact componentTyped acted
    · rw [typedResult]
      cases st.fanOut <;> simp [Ty.boolean, Ty.isVoid, Ty.isList]

/-- A declared return type gives some type, and only a declared one does. -/
theorem declaredReturn_isSome {spec : MethodSpec} {declared : Option Ty}
    (resolved : declaredReturn owner spec = .ok declared) : declared.isSome = spec.returnType.isSome := by
  unfold declaredReturn at resolved
  split at resolved
  · rename_i undeclared
    split at resolved
    · exact absurd resolved fail_ne_ok
    · cases resolved
      simp [undeclared]
  · rename_i token declaredToken
    -- a capability list or a single type: either gives some type
    dsimp only at resolved
    split at resolved <;>
    · obtain ⟨t, -, built⟩ := bind_eq_ok.mp resolved
      cases pure_eq_ok.mp built
      simp [declaredToken]

/-- A compose method returns what the last statement of its body returns, which
its declared return type, if any, equals. -/
theorem compileCompose_returnType {spec : MethodSpec} {specs : List StatementSpec} {m : CompiledMethod}
    (compiled : s.compileCompose owner spec specs = .ok m) :
    ∃ statements, s.compileSequence owner 0 specs = .ok statements ∧ m.body = .compose statements ∧
      (∃ last, statements.getLast? = some last ∧ m.returnType = last.returnType) ∧
      (spec.returnType.isSome → declaredReturn owner spec = .ok (some m.returnType)) := by
  rw [compileCompose.eq_1] at compiled
  split at compiled
  · exact absurd compiled fail_ne_ok
  · split at compiled
    · exact absurd compiled fail_ne_ok
    · obtain ⟨declared, resolved, compiled⟩ := bind_eq_ok.mp compiled
      obtain ⟨⟨⟩, leveled, compiled⟩ := bind_eq_ok.mp compiled
      obtain ⟨statements, sequenced, compiled⟩ := bind_eq_ok.mp compiled
      -- the body is not empty, so it has a last statement
      obtain ⟨last, lastFound⟩ : ∃ last, statements.getLast? = some last :=
        Option.isSome_iff_exists.mp (List.getLast?_isSome.mpr
          (compileSequence_ne_nil sequenced (checkLevel_eq_ok.mp leveled).2))
      refine ⟨statements, sequenced, ?_⟩
      -- a declared return type is compared with the inferred one; both branches build the same method
      cases declared with
      | none =>
          obtain ⟨⟨⟩, -, built⟩ := bind_eq_ok.mp compiled
          obtain rfl := pure_eq_ok.mp built
          refine ⟨rfl, ⟨last, lastFound, by simp [lastFound]⟩, fun declaredToken => ?_⟩
          simp [← declaredReturn_isSome resolved] at declaredToken
      | some d =>
          dsimp only at compiled
          split at compiled
          · obtain ⟨_, failed, -⟩ := bind_eq_ok.mp compiled
            exact absurd failed fail_ne_ok
          · rename_i same
            obtain ⟨⟨⟩, -, built⟩ := bind_eq_ok.mp compiled
            obtain rfl := pure_eq_ok.mp built
            refine ⟨rfl, ⟨last, lastFound, by simp [lastFound]⟩, fun _ => ?_⟩
            rw [resolved]
            simpa using same

/-- A compiled method with a compose body is the compose method its declaration
holds. -/
theorem compileMethod_compose_body {isInterface : Bool} {spec : MethodSpec} {m : CompiledMethod}
    {statements : List Statement} (compiled : s.compileMethod isInterface spec = .ok m)
    (body : m.body = .compose statements) :
    ∃ owner specs, spec.compose = some specs ∧ s.compileCompose owner spec specs = .ok m := by
  obtain ⟨owner, ⟨-, -, abstract⟩ | ⟨specs, composed, composeCompiled⟩ | ⟨links, -, -, chained⟩ |
      ⟨utility, -, -, -, called⟩⟩ := compileMethod_eq_ok compiled
  · obtain ⟨-, -, -, abstractBody⟩ := compileAbstract_eq_ok abstract
    rw [abstractBody] at body
    cases body
  · exact ⟨owner, specs, composed, composeCompiled⟩
  · obtain ⟨chain, chainBody⟩ := compileChain_body chained
    rw [chainBody] at body
    cases body
  · obtain ⟨_, _, -, -, utilityBody⟩ := compileUtility_eq_ok called
    rw [utilityBody] at body
    cases body

end Scope

/--
The compose bodies of an accepted page object are well formed. Every list of
statements, the body and every predicate and filter below it, marks exactly its
last statement; every statement at any depth is well formed for the element it
targets and the statement it was declared as; and the method returns what the
last statement of its body returns, which its declared return type, when it
declares one, equals.
-/
theorem compose_bodies_well_formed {settings : Settings} {identifier tree : Json} {declaration : Declaration}
    (accepted : compile settings identifier tree = .ok declaration) :
    ∃ run : AcceptedRun settings identifier tree declaration,
      ∀ m ∈ run.methods, ∀ statements, m.body = .compose statements →
        Statement.MarksLast statements ∧
        (∃ last, statements.getLast? = some last ∧ m.returnType = last.returnType) ∧
        ∃ spec ∈ run.spec.methods, ∃ owner,
          (spec.returnType.isSome → Scope.declaredReturn owner spec = .ok (some m.returnType)) ∧
          ∀ depth (st : Statement), st.Within depth statements →
            ∃ statementSpec e, st.WellFormed run.scope owner statementSpec e := by
  obtain ⟨run⟩ := AcceptedRun.of_compile accepted
  refine ⟨run, fun m member statements body => ?_⟩
  obtain ⟨spec, declared, methodCompiled⟩ := compileMethods_mem run.compiled m member
  obtain ⟨owner, specs, -, composed⟩ := Scope.compileMethod_compose_body methodCompiled body
  obtain ⟨compiledStatements, sequenced, composedBody, returned, declaredReturn⟩ :=
    Scope.compileCompose_returnType composed
  rw [composedBody, MethodBody.compose.injEq] at body
  subst body
  refine ⟨Scope.compileSequence_marksLast sequenced, returned, spec, declared, owner, declaredReturn,
    fun depth st within => ?_⟩
  -- every statement below the body was compiled for this method's owner
  obtain ⟨wellFormed, -⟩ := Scope.compileSequence_reaches
    (fun _ st => ∃ statementSpec e, st.WellFormed run.scope owner statementSpec e)
    (fun compiled => ⟨_, Scope.compileStatement_wellFormed compiled⟩) sequenced depth st within
  exact wellFormed

/-- The compose method of a page object with a filtered list is well formed. -/
theorem filtered_list_body_well_formed :
    ∃ declaration, compile {} (.str "a/b/c") filteredListDocument = .ok declaration ∧
      ∃ run : AcceptedRun {} (.str "a/b/c") filteredListDocument declaration,
        ∀ m ∈ run.methods, ∀ statements, m.body = .compose statements →
          Statement.MarksLast statements ∧
          (∃ last, statements.getLast? = some last ∧ m.returnType = last.returnType) ∧
          ∃ spec ∈ run.spec.methods, ∃ owner,
            (spec.returnType.isSome → Scope.declaredReturn owner spec = .ok (some m.returnType)) ∧
            ∀ depth (st : Statement), st.Within depth statements →
              ∃ statementSpec e, st.WellFormed run.scope owner statementSpec e := by
  obtain ⟨declaration, accepted⟩ := exists_ok_of_toBool
    (show (compile {} (.str "a/b/c") filteredListDocument).toBool = true by decide +kernel)
  exact ⟨declaration, accepted, compose_bodies_well_formed accepted⟩

end PageObjects
