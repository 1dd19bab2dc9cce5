import PageObjects.Proofs.Stages

/-!
# Compiled compose statements

A compose statement is compiled in stages: its element is looked up by name,
its predicate argument is compiled one level deeper, its call is made (an
action of its element's type, or a method of a component), its matcher is
applied to the call's result, and its filter is compiled one level deeper.
`compileStatement_eq_ok` says what an accepted statement holds of each stage.

Statements nest: a statement holds the statements of its predicate and of its
filter. `Statement.Within` reaches a statement at any depth below a list.
`compileSequence_reaches` carries a property that every compiled statement has
to every statement of a compiled list, at whatever depth it stands, and shows
that no nested statement lies deeper than the settings allow;
`compileMethods_bounded` does the same for every compose method of a page
object.
-/

namespace PageObjects

/-- A statement of a list, or one nested in the predicate or the filter of a
statement of the list, `depth` levels below it. -/
inductive Statement.Within : Nat → Statement → List Statement → Prop
  | listed {st : Statement} {statements : List Statement} :
      st ∈ statements → Statement.Within 0 st statements
  | predicate {depth : Nat} {st outer : Statement} {statements : List Statement} :
      outer ∈ statements → Statement.Within depth st outer.predicate →
        Statement.Within (depth + 1) st statements
  | filter {depth : Nat} {st outer : Statement} {statements : List Statement} :
      outer ∈ statements → Statement.Within depth st outer.filter →
        Statement.Within (depth + 1) st statements

namespace Statement

theorem not_within_nil {depth : Nat} {st : Statement} : ¬ Statement.Within depth st [] := by
  rintro (⟨member⟩ | ⟨member, _⟩ | ⟨member, _⟩) <;> cases member

/-- A statement below a list stands in its head, below its head, or in its
tail. -/
theorem within_cons {depth : Nat} {st outer : Statement} {rest : List Statement} :
    Statement.Within depth st (outer :: rest) ↔
      (depth = 0 ∧ st = outer) ∨
        (∃ below, depth = below + 1 ∧
          (Statement.Within below st outer.predicate ∨ Statement.Within below st outer.filter)) ∨
        Statement.Within depth st rest := by
  constructor
  · rintro (⟨member⟩ | ⟨member, nested⟩ | ⟨member, nested⟩)
    · rcases List.mem_cons.mp member with rfl | later
      · exact .inl ⟨rfl, rfl⟩
      · exact .inr (.inr (.listed later))
    · rcases List.mem_cons.mp member with rfl | later
      · exact .inr (.inl ⟨_, rfl, .inl nested⟩)
      · exact .inr (.inr (.predicate later nested))
    · rcases List.mem_cons.mp member with rfl | later
      · exact .inr (.inl ⟨_, rfl, .inr nested⟩)
      · exact .inr (.inr (.filter later nested))
  · rintro (⟨rfl, rfl⟩ | ⟨below, rfl, nested | nested⟩ | later)
    · exact .listed List.mem_cons_self
    · exact .predicate List.mem_cons_self nested
    · exact .filter List.mem_cons_self nested
    · rcases later with ⟨member⟩ | ⟨member, nested⟩ | ⟨member, nested⟩
      · exact .listed (List.mem_cons_of_mem _ member)
      · exact .predicate (List.mem_cons_of_mem _ member) nested
      · exact .filter (List.mem_cons_of_mem _ member) nested

end Statement

/-- The element a resolver finds by name is declared under that name. -/
theorem Scope.lookup_eq_some {s : Scope} {name : String} {e : Element}
    (found : s.lookup name = some e) : e ∈ s.elements ∧ e.name = name := by
  unfold Scope.lookup at found
  exact ⟨List.mem_of_find?_eq_some found, by simpa using List.find?_some found⟩

theorem Resolver.element_eq_ok {r : Resolver} {name : String} {e : Element} :
    r.element name = .ok e ↔ r.lookup name = some e := by
  unfold Resolver.element
  split <;> simp_all [Resolver.refuse, failWith]

namespace Scope

variable {s : Scope} {owner : String}

/-- A level of statements is accepted when it is not deeper than the settings
allow and not empty. -/
theorem checkLevel_eq_ok {depth : Nat} {specs : List StatementSpec} :
    s.checkLevel owner depth specs = .ok () ↔ depth ≤ s.settings.maxPredicateDepth ∧ specs ≠ [] := by
  unfold checkLevel
  split
  · rename_i deeper
    simp only [fail_ne_ok, false_iff, not_and]
    intro within
    exact absurd deeper (Nat.not_lt.mpr within)
  · rename_i within
    split <;> simp_all

theorem filterResult_eq_ok {compiled filter : List Statement} (checked : filterResult owner compiled = .ok filter) :
    filter = compiled := by
  unfold filterResult at checked
  split at checked
  · split at checked
    · simp at checked
    · exact (pure_eq_ok.mp checked).symm
  · exact (pure_eq_ok.mp checked).symm

/--
What an accepted statement holds of each stage of its compilation: it targets
a declared element through that element's getter, its predicate is its
predicate argument compiled one level deeper, its call and matcher are those
of its declaration, and its filter, if it declares one, is compiled one level
deeper too.
-/
theorem compileStatement_eq_ok {depth : Nat} {isLast : Bool} {spec : StatementSpec}
    {st : Statement} (compiled : s.compileStatement owner depth isLast spec = .ok st) :
    ∃ e, s.lookup spec.element = some e ∧ st.elementName = e.name ∧
      st.getterName = e.getterName ∧ st.actionName = spec.apply ∧
      st.elementParameters = e.getterParameters ∧
      s.compilePredicates owner depth spec.args [] = .ok st.predicate ∧
      (∃ result, s.statementCall owner e spec.apply spec.args spec.returnType spec.returnsAll
        st.predicate = .ok (st.action, st.parameters, result, st.fanOut) ∧
        ∃ typed, s.statementMatcher owner spec.matcher result = .ok (st.matcher, typed)) ∧
      (∀ specs, spec.predicate = some specs →
        s.checkLevel owner (depth + 1) specs = .ok () ∧
          s.compileSequence owner (depth + 1) specs = .ok st.filter) ∧
      (spec.predicate = none → st.filter = []) := by
  obtain ⟨elementName, apply, args, matcherSpec, filterSpec, returnType, returnsAll⟩ := spec
  rw [compileStatement.eq_1] at compiled
  -- one stage at a time: the stages bind tuples, which the matches then take apart
  obtain ⟨e, found, compiled⟩ := bind_eq_ok.mp compiled
  obtain ⟨predicate, predicated, compiled⟩ := bind_eq_ok.mp compiled
  obtain ⟨⟨action, parameters, result, fanOut⟩, called, compiled⟩ := bind_eq_ok.mp compiled
  obtain ⟨⟨matcher, matched⟩, typedMatcher, compiled⟩ := bind_eq_ok.mp compiled
  obtain ⟨filter, filtered, built⟩ := bind_eq_ok.mp compiled
  obtain rfl := pure_eq_ok.mp built
  refine ⟨e, Resolver.element_eq_ok.mp found, rfl, rfl, rfl, rfl, predicated,
    ⟨result, called, matched, typedMatcher⟩, fun specs declared => ?_, fun declared => ?_⟩
  · subst declared
    dsimp only at filtered
    split at filtered
    · simp at filtered
    · obtain ⟨done, leveled, compiledFilter, sequenced, checked⟩ := by
        simpa only [bind_eq_ok] using filtered
      rw [filterResult_eq_ok checked]
      exact ⟨leveled, sequenced⟩
  · subst declared
    exact (pure_eq_ok.mp filtered).symm

/-! ## Statements at every depth -/

section Depths

variable (holds : Nat → Statement → Prop) (limit : Nat)

/-- Every statement below a list compiled at `depth` has `holds` at the depth
it was compiled at, and every nested one lies within `limit`. -/
def Reaches (depth : Nat) (statements : List Statement) : Prop :=
  ∀ (below : Nat) (st : Statement), st.Within below statements →
    holds (depth + below) st ∧ (0 < below → depth + below ≤ limit)

/-- Every statement below a list compiled at `depth` has `holds` at the depth
it was compiled at, and lies within `limit`, the list's own statements too. -/
def Bounded (depth : Nat) (statements : List Statement) : Prop :=
  ∀ (below : Nat) (st : Statement), st.Within below statements →
    holds (depth + below) st ∧ depth + below ≤ limit

variable {holds limit}

theorem Reaches.bounded {depth : Nat} {statements : List Statement}
    (reaches : Reaches holds limit depth statements) (level : depth ≤ limit) :
    Bounded holds limit depth statements := by
  intro below st within
  obtain ⟨holding, nested⟩ := reaches below st within
  refine ⟨holding, ?_⟩
  cases below with
  | zero => exact level
  | succ below => exact nested (Nat.succ_pos below)

theorem bounded_nil {depth : Nat} : Bounded holds limit depth [] :=
  fun _ _ within => absurd within Statement.not_within_nil

/-- A statement with `holds` at `depth`, whose predicate and filter are bounded
one level deeper, heads a list that reaches as far as its tail. -/
theorem Reaches.cons {depth : Nat} {st : Statement} {rest : List Statement}
    (head : holds depth st) (predicate : Bounded holds limit (depth + 1) st.predicate)
    (filter : Bounded holds limit (depth + 1) st.filter) (tail : Reaches holds limit depth rest) :
    Reaches holds limit depth (st :: rest) := by
  intro below nested within
  rcases Statement.within_cons.mp within with ⟨rfl, rfl⟩ | ⟨deeper, rfl, inner | inner⟩ | later
  · exact ⟨head, fun positive => absurd positive (Nat.lt_irrefl 0)⟩
  · obtain ⟨holding, bound⟩ := predicate deeper nested inner
    rw [Nat.add_right_comm] at holding bound
    exact ⟨holding, fun _ => bound⟩
  · obtain ⟨holding, bound⟩ := filter deeper nested inner
    rw [Nat.add_right_comm] at holding bound
    exact ⟨holding, fun _ => bound⟩
  · exact tail below nested later

end Depths

/--
A property that every compiled statement has at the depth it was compiled at,
once the statements of its predicate have it one level deeper, holds of every
statement of a compiled list, at whatever depth below the list it stands; and
every nested statement lies within the settings' limit.
-/
theorem compileSequence_reaches_after (holds : Nat → Statement → Prop)
    (each : ∀ {depth isLast spec st}, s.compileStatement owner depth isLast spec = .ok st →
      (∀ x ∈ st.predicate, holds (depth + 1) x) → holds depth st)
    {depth : Nat} {specs : List StatementSpec} {statements : List Statement}
    (compiled : s.compileSequence owner depth specs = .ok statements) :
    Reaches holds s.settings.maxPredicateDepth depth statements := by
  -- one induction over the three functions: a list reaches as far as its statements,
  -- and the predicate and the filter of a statement are bounded one level deeper
  refine compileSequence.induct
    (fun depth specs => ∀ {statements}, s.compileSequence owner depth specs = .ok statements →
      Reaches holds s.settings.maxPredicateDepth depth statements)
    (fun depth isLast spec => ∀ {st}, s.compileStatement owner depth isLast spec = .ok st →
      Bounded holds s.settings.maxPredicateDepth (depth + 1) st.predicate ∧
        Bounded holds s.settings.maxPredicateDepth (depth + 1) st.filter)
    (fun depth args found => Bounded holds s.settings.maxPredicateDepth (depth + 1) found →
      ∀ {result}, s.compilePredicates owner depth args found = .ok result →
        Bounded holds s.settings.maxPredicateDepth (depth + 1) result)
    (fun depth isLast elementName apply args matcherSpec filterSpec returnType returnsAll
      predicateIH filterIH st compiled => ?_)
    (fun depth statements compiled => ?_)
    (fun depth spec rest specIH restIH statements compiled => ?_)
    (fun depth found bounded result compiled => ?_)
    (fun depth statements rest found taken bounded result compiled => ?_)
    (fun depth statements rest found free statementsIH restIH bounded result compiled => ?_)
    (fun depth head rest found notPredicate restIH bounded result compiled => ?_)
    depth specs compiled
  · -- a statement: its predicate from its arguments, its filter from its declaration
    obtain ⟨-, -, -, -, -, -, predicated, -, declared, undeclared⟩ := compileStatement_eq_ok compiled
    refine ⟨predicateIH bounded_nil predicated, ?_⟩
    cases filterSpec with
    | none => rw [undeclared rfl]; exact bounded_nil
    | some specs =>
        obtain ⟨leveled, sequenced⟩ := declared specs rfl
        exact (filterIH sequenced).bounded (checkLevel_eq_ok.mp leveled).1
  · rw [compileSequence.eq_1, Except.ok.injEq] at compiled
    subst compiled
    exact fun _ _ within => absurd within Statement.not_within_nil
  · rw [compileSequence.eq_2] at compiled
    obtain ⟨st, stated, compiled⟩ := bind_eq_ok.mp compiled
    obtain ⟨others, sequenced, listed⟩ := bind_eq_ok.mp compiled
    obtain rfl := pure_eq_ok.mp listed
    obtain ⟨predicate, filter⟩ := specIH stated
    have predicated : ∀ x ∈ st.predicate, holds (depth + 1) x :=
      fun x member => (predicate 0 x (.listed member)).1
    exact Reaches.cons (each stated predicated) predicate filter (restIH sequenced)
  · rw [compilePredicates.eq_1, Except.ok.injEq] at compiled
    exact compiled ▸ bounded
  · rw [compilePredicates.eq_2, if_pos taken] at compiled
    exact absurd compiled fail_ne_ok
  · rw [compilePredicates.eq_2, if_neg free] at compiled
    obtain ⟨done, leveled, compiled⟩ := bind_eq_ok.mp compiled
    obtain ⟨nested, sequenced, compiled⟩ := bind_eq_ok.mp compiled
    exact restIH nested ((statementsIH sequenced).bounded (checkLevel_eq_ok.mp leveled).1) compiled
  · rw [compilePredicates.eq_3 _ _ _ _ _ _ notPredicate] at compiled
    exact restIH bounded compiled

/--
A property that every compiled statement has at the depth it was compiled at
holds of every statement of a compiled list, at whatever depth below the list
it stands; and every nested statement lies within the settings' limit.
-/
theorem compileSequence_reaches (holds : Nat → Statement → Prop)
    (each : ∀ {depth isLast spec st}, s.compileStatement owner depth isLast spec = .ok st →
      holds depth st)
    {depth : Nat} {specs : List StatementSpec} {statements : List Statement}
    (compiled : s.compileSequence owner depth specs = .ok statements) :
    Reaches holds s.settings.maxPredicateDepth depth statements :=
  compileSequence_reaches_after holds (fun stated _ => each stated) compiled

/-! ## The bodies of compiled methods -/

/-- A compose method holds its statements compiled at the top level, which the
settings allow and which is not empty, and declares the parameters collected
over them, checked for distinct names. -/
theorem compileCompose_built {spec : MethodSpec} {specs : List StatementSpec}
    {m : CompiledMethod} (compiled : s.compileCompose owner spec specs = .ok m) :
    ∃ statements, s.checkLevel owner 0 specs = .ok () ∧
      s.compileSequence owner 0 specs = .ok statements ∧ m.body = .compose statements ∧
      m.parameters = collectParameters statements ∧
      Resolver.checkDistinct (some owner) m.parameters = .ok () := by
  rw [compileCompose.eq_1] at compiled
  split at compiled
  · exact absurd compiled fail_ne_ok
  · split at compiled
    · exact absurd compiled fail_ne_ok
    · obtain ⟨declared, -, compiled⟩ := bind_eq_ok.mp compiled
      obtain ⟨⟨⟩, leveled, compiled⟩ := bind_eq_ok.mp compiled
      obtain ⟨statements, sequenced, compiled⟩ := bind_eq_ok.mp compiled
      refine ⟨statements, leveled, sequenced, ?_⟩
      -- the declared return type is checked on one branch; both go on to the same tail
      dsimp only at compiled
      split at compiled
      · split at compiled
        · obtain ⟨_, failed, -⟩ := bind_eq_ok.mp compiled
          exact absurd failed fail_ne_ok
        · obtain ⟨⟨⟩, distinct, built⟩ := bind_eq_ok.mp compiled
          obtain rfl := pure_eq_ok.mp built
          exact ⟨rfl, rfl, distinct⟩
      · obtain ⟨⟨⟩, distinct, built⟩ := bind_eq_ok.mp compiled
        obtain rfl := pure_eq_ok.mp built
        exact ⟨rfl, rfl, distinct⟩

/-- A compose method holds its statements compiled at the top level, which the
settings allow and which is not empty. -/
theorem compileCompose_eq_ok {spec : MethodSpec} {specs : List StatementSpec}
    {m : CompiledMethod} (compiled : s.compileCompose owner spec specs = .ok m) :
    ∃ statements, s.checkLevel owner 0 specs = .ok () ∧
      s.compileSequence owner 0 specs = .ok statements ∧ m.body = .compose statements := by
  obtain ⟨statements, leveled, sequenced, body, -, -⟩ := compileCompose_built compiled
  exact ⟨statements, leveled, sequenced, body⟩

/-- A chain starts at a declared component. -/
theorem chainStart_eq_ok {link : ChainLinkSpec} {first : Element}
    (started : s.chainStart owner link = .ok first) :
    s.lookup link.element = some first ∧ first.isCustom = true := by
  unfold chainStart at started
  obtain ⟨e, found, started⟩ := bind_eq_ok.mp started
  split at started
  · exact absurd started fail_ne_ok
  · rename_i custom
    -- a declared type is compared with the component's; either way the component is kept
    have kept : e = first := by
      split at started
      · obtain ⟨declared, -, started⟩ := bind_eq_ok.mp started
        split at started
        · obtain ⟨_, failed, -⟩ := bind_eq_ok.mp started
          exact absurd failed fail_ne_ok
        · exact pure_eq_ok.mp started
      · exact pure_eq_ok.mp started
    subst kept
    exact ⟨Resolver.element_eq_ok.mp found, by simpa using custom⟩

/-- A chain method starts at a component and declares that component's getter
parameters. -/
theorem compileChain_eq_ok {spec : MethodSpec} {links : List ChainLinkSpec} {m : CompiledMethod}
    (compiled : s.compileChain owner spec links = .ok m) :
    ∃ firstLink rest first tail, links = firstLink :: rest ∧ s.chainStart owner firstLink = .ok first ∧
      m.parameters = first.getterParameters ∧
      m.body = .chain ({ elementName := first.name, getterName := first.getterName, type := first.type
                         returnsAll := first.isList || firstLink.returnsAll } :: tail) := by
  unfold compileChain at compiled
  dsimp only at compiled
  split at compiled
  · exact absurd compiled fail_ne_ok
  · split at compiled
    · exact absurd compiled fail_ne_ok
    · rename_i firstLink rest
      obtain ⟨first, started, compiled⟩ := bind_eq_ok.mp compiled
      obtain ⟨tail, -, built⟩ := bind_eq_ok.mp compiled
      obtain rfl := pure_eq_ok.mp built
      exact ⟨firstLink, rest, first, tail, rfl, started, rfl, rfl⟩

theorem compileChain_body {spec : MethodSpec} {links : List ChainLinkSpec} {m : CompiledMethod}
    (compiled : s.compileChain owner spec links = .ok m) : ∃ chain, m.body = .chain chain := by
  obtain ⟨firstLink, rest, first, tail, -, -, -, body⟩ := compileChain_eq_ok compiled
  exact ⟨_, body⟩

/-- An external utility method calls its utility with its arguments resolved,
and takes their named ones as its parameters. -/
theorem compileUtility_eq_ok {spec : MethodSpec} {utility : UtilitySpec} {m : CompiledMethod}
    (compiled : s.compileUtility owner spec utility = .ok m) :
    ∃ type parameters, (s.resolver owner).resolve utility.args none = .ok parameters ∧
      m.parameters = namedOnly parameters ∧ m.body = .utility type utility.invoke parameters := by
  rw [compileUtility.eq_1] at compiled
  split at compiled
  · exact absurd compiled fail_ne_ok
  · obtain ⟨type, -, compiled⟩ := bind_eq_ok.mp compiled
    obtain ⟨parameters, resolved, compiled⟩ := bind_eq_ok.mp compiled
    obtain ⟨returnType, -, built⟩ := bind_eq_ok.mp compiled
    obtain rfl := pure_eq_ok.mp built
    exact ⟨type, parameters, resolved, rfl, rfl⟩

/-- An abstract method takes the named ones of its arguments, resolved, as its
parameters. -/
theorem compileAbstract_eq_ok {spec : MethodSpec} {m : CompiledMethod}
    (compiled : s.compileAbstract owner spec = .ok m) :
    ∃ parameters, (s.resolver owner).resolve (spec.args.getD []) none = .ok parameters ∧
      m.parameters = namedOnly parameters ∧ m.body = .abstract := by
  rw [compileAbstract.eq_1] at compiled
  obtain ⟨parameters, resolved, compiled⟩ := bind_eq_ok.mp compiled
  obtain ⟨returnType, -, built⟩ := bind_eq_ok.mp compiled
  obtain rfl := pure_eq_ok.mp built
  exact ⟨parameters, resolved, rfl, rfl⟩

/-- A compiled method is the compilation of the one body its declaration has,
and abstract in an interface. -/
theorem compileMethod_eq_ok {isInterface : Bool} {spec : MethodSpec} {m : CompiledMethod}
    (compiled : s.compileMethod isInterface spec = .ok m) :
    ∃ owner, (isInterface = true ∧ bodyNames spec = [] ∧ s.compileAbstract owner spec = .ok m) ∨
      (∃ specs, spec.compose = some specs ∧ s.compileCompose owner spec specs = .ok m) ∨
      (∃ links, spec.compose = none ∧ spec.chain = some links ∧ s.compileChain owner spec links = .ok m) ∨
      (∃ utility, spec.compose = none ∧ spec.chain = none ∧ spec.utility = some utility ∧
        s.compileUtility owner spec utility = .ok m) := by
  unfold compileMethod at compiled
  dsimp only at compiled
  split at compiled
  · exact absurd compiled fail_ne_ok
  · split at compiled
    · rename_i interface
      split at compiled
      · exact absurd compiled fail_ne_ok
      · rename_i bodiless
        exact ⟨_, .inl ⟨interface, bodiless, compiled⟩⟩
    · split at compiled
      · rename_i composed
        exact ⟨_, .inr (.inl ⟨_, composed, compiled⟩)⟩
      · rename_i uncomposed chained
        exact ⟨_, .inr (.inr (.inl ⟨_, uncomposed, chained, compiled⟩))⟩
      · rename_i uncomposed unchained called
        exact ⟨_, .inr (.inr (.inr ⟨_, uncomposed, unchained, called, compiled⟩))⟩
      · exact absurd compiled fail_ne_ok

/--
A property that every compiled statement has at the depth it was compiled at
holds of every statement of every compose method of a page object, at any
depth, and no statement lies deeper than the settings allow.
-/
theorem compileMethods_bounded (holds : Nat → Statement → Prop)
    (each : ∀ {owner depth isLast spec st}, s.compileStatement owner depth isLast spec = .ok st →
      holds depth st)
    {isInterface : Bool} {specs : List MethodSpec} {methods : List CompiledMethod}
    (compiled : compileMethods s isInterface specs = .ok methods) {m : CompiledMethod}
    (member : m ∈ methods) {statements : List Statement} (compose : m.body = .compose statements) :
    Bounded holds s.settings.maxPredicateDepth 0 statements := by
  obtain ⟨spec, -, methodCompiled⟩ := compileMethods_mem compiled m member
  obtain ⟨owner, ⟨-, -, abstract⟩ | ⟨specs, -, composed⟩ | ⟨links, -, -, chained⟩ |
      ⟨utility, -, -, -, called⟩⟩ := compileMethod_eq_ok methodCompiled
  · obtain ⟨-, -, -, body⟩ := compileAbstract_eq_ok abstract
    rw [body] at compose
    cases compose
  · obtain ⟨composedStatements, leveled, sequenced, body⟩ := compileCompose_eq_ok composed
    rw [body, MethodBody.compose.injEq] at compose
    subst compose
    exact (compileSequence_reaches holds each sequenced).bounded (checkLevel_eq_ok.mp leveled).1
  · obtain ⟨chain, body⟩ := compileChain_body chained
    rw [body] at compose
    cases compose
  · obtain ⟨_, _, -, -, body⟩ := compileUtility_eq_ok called
    rw [body] at compose
    cases compose

end Scope

end PageObjects
