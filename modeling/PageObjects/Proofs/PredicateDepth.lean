import PageObjects.Proofs.Predicates

/-!
# How deeply predicates nest

A compose body is a list of statements, and a statement opens a list one
level deeper in its predicate argument and in its filter. The settings bound
that nesting: a list more than `maxPredicateDepth` levels below the body is
refused with `predicateDepthExceeded`.

The limit is exact in both directions. In an accepted page object, every
compiled statement stands within the limit below its compose body, and every
statement list declared below a compose body, at any depth, is compiled at
that depth; so a document with a list deeper than the limit is refused,
whatever else is wrong with it.

The limit is the only setting the compiler stages after the grammar read.
`Deepens` relates a run under one limit to the same run under a deeper one:
both end the same, or the shallower run refuses a list for its depth. It is
closed under `bind`, holds of the depth check, and is carried through the
statement recursion and every stage of a compilation (`compile_deepens`), the
element stage not reading the settings at all. An accepted page object is
therefore accepted, with the same declaration, under every deeper limit, and
two settings with the same limit and the same grammar compile alike.
-/

namespace PageObjects

/-! ## Runs under two limits -/

section Deepening

variable {α β : Type} {shallow deep : Nat}

/-- A run under the limit `shallow` beside the same run under `deep`: the same
result, or, when `shallow` is the smaller limit, a refusal of a statement list
nested deeper than `shallow`. -/
def Deepens (shallow deep : Nat) (x y : Compiling α) : Prop :=
  x = y ∨ (shallow < deep ∧ ∃ e, x = .error e ∧ e.fault = .predicateDepthExceeded shallow)

namespace Deepens

theorem refl {x : Compiling α} : Deepens shallow deep x x := .inl rfl

theorem bind {x y : Compiling α} {f g : α → Compiling β} (first : Deepens shallow deep x y)
    (rest : ∀ a, Deepens shallow deep (f a) (g a)) : Deepens shallow deep (x >>= f) (y >>= g) := by
  rcases first with rfl | ⟨deeper, e, rfl, refused⟩
  · cases x with
    | error e => exact refl
    | ok a => exact rest a
  · exact .inr ⟨deeper, e, rfl, refused⟩

theorem foldlM {γ : Type} {f g : β → γ → Compiling β} {items : List γ} {init : β}
    (each : ∀ acc, ∀ item ∈ items, Deepens shallow deep (f acc item) (g acc item)) :
    Deepens shallow deep (items.foldlM f init) (items.foldlM g init) := by
  induction items generalizing init with
  | nil => exact refl
  | cons item rest restIH =>
      rw [List.foldlM_cons, List.foldlM_cons]
      exact bind (each init item List.mem_cons_self) fun next =>
        restIH fun acc other member => each acc other (List.mem_cons_of_mem item member)

/-- What the shallower run accepts, the deeper run accepts alike. -/
theorem eq_ok {x y : Compiling α} {a : α} (deepens : Deepens shallow deep x y)
    (accepted : x = .ok a) : y = .ok a := by
  rcases deepens with same | ⟨-, e, refused, -⟩
  · exact same ▸ accepted
  · rw [accepted] at refused
    cases refused

/-- Under the same limit the two runs are one. -/
theorem eq_of_le {x y : Compiling α} (deepens : Deepens shallow deep x y) (within : deep ≤ shallow) :
    x = y :=
  deepens.resolve_right fun ⟨deeper, _⟩ => absurd within (Nat.not_le.mpr deeper)

end Deepens

end Deepening

/-! ## The statement recursion -/

namespace Scope

variable {s : Scope} {b : Settings} {owner : String}

theorem checkLevel_deepens (deeper : s.settings.maxPredicateDepth ≤ b.maxPredicateDepth) {depth : Nat}
    {specs : List StatementSpec} :
    Deepens s.settings.maxPredicateDepth b.maxPredicateDepth (s.checkLevel owner depth specs)
      ({ s with settings := b }.checkLevel owner depth specs) := by
  unfold checkLevel
  dsimp only
  by_cases within : depth ≤ s.settings.maxPredicateDepth
  · rw [if_neg (Nat.not_lt.mpr within), if_neg (Nat.not_lt.mpr (Nat.le_trans within deeper))]
    exact Deepens.refl
  · rw [if_pos (Nat.lt_of_not_le within)]
    -- refused under both limits: the refusals differ only when the limits do
    by_cases same : s.settings.maxPredicateDepth = b.maxPredicateDepth
    · rw [if_pos (same ▸ Nat.lt_of_not_le within), same]
      exact Deepens.refl
    · exact .inr ⟨Nat.lt_of_le_of_ne deeper same, _, rfl, rfl⟩

/-- A statement list compiled under a deeper limit: apart from the depth checks,
the compiler reads only the declared elements, which the two scopes share. -/
theorem compileSequence_deepens (deeper : s.settings.maxPredicateDepth ≤ b.maxPredicateDepth)
    {depth : Nat} {specs : List StatementSpec} :
    Deepens s.settings.maxPredicateDepth b.maxPredicateDepth (s.compileSequence owner depth specs)
      ({ s with settings := b }.compileSequence owner depth specs) := by
  refine compileSequence.induct
    (fun depth specs => Deepens s.settings.maxPredicateDepth b.maxPredicateDepth
      (s.compileSequence owner depth specs) ({ s with settings := b }.compileSequence owner depth specs))
    (fun depth isLast spec => Deepens s.settings.maxPredicateDepth b.maxPredicateDepth
      (s.compileStatement owner depth isLast spec)
      ({ s with settings := b }.compileStatement owner depth isLast spec))
    (fun depth args found => Deepens s.settings.maxPredicateDepth b.maxPredicateDepth
      (s.compilePredicates owner depth args found)
      ({ s with settings := b }.compilePredicates owner depth args found))
    (fun depth isLast elementName apply args matcherSpec filterSpec returnType returnsAll
      predicateIH filterIH => ?_)
    (fun depth => ?_)
    (fun depth spec rest specIH restIH => ?_)
    (fun depth found => ?_)
    (fun depth statements rest found taken => ?_)
    (fun depth statements rest found free statementsIH restIH => ?_)
    (fun depth head rest found notPredicate restIH => ?_)
    depth specs
  · -- the element, the call and the matcher read only the elements; the two
    -- nested lists are compiled one level deeper
    rw [compileStatement.eq_1, compileStatement.eq_1]
    refine Deepens.bind Deepens.refl fun e => Deepens.bind predicateIH fun predicate =>
      Deepens.bind Deepens.refl fun called => Deepens.bind Deepens.refl fun matched =>
        Deepens.bind ?_ fun filter => Deepens.refl
    cases filterSpec with
    | none => exact Deepens.refl
    | some specs =>
        dsimp only
        split
        · exact Deepens.refl
        · exact Deepens.bind (checkLevel_deepens deeper) fun _ =>
            Deepens.bind filterIH fun compiled => Deepens.refl
  · rw [compileSequence.eq_1, compileSequence.eq_1]
    exact Deepens.refl
  · rw [compileSequence.eq_2, compileSequence.eq_2]
    exact Deepens.bind specIH fun st => Deepens.bind restIH fun others => Deepens.refl
  · rw [compilePredicates.eq_1, compilePredicates.eq_1]
    exact Deepens.refl
  · rw [compilePredicates.eq_2, compilePredicates.eq_2, if_pos taken, if_pos taken]
    exact Deepens.refl
  · rw [compilePredicates.eq_2, compilePredicates.eq_2, if_neg free, if_neg free]
    exact Deepens.bind (checkLevel_deepens deeper) fun _ =>
      Deepens.bind statementsIH fun compiled => restIH compiled
  · rw [compilePredicates.eq_3 _ _ _ _ _ _ notPredicate,
      compilePredicates.eq_3 _ _ _ _ _ _ notPredicate]
    exact restIH

theorem compileCompose_deepens (deeper : s.settings.maxPredicateDepth ≤ b.maxPredicateDepth)
    {spec : MethodSpec} {specs : List StatementSpec} :
    Deepens s.settings.maxPredicateDepth b.maxPredicateDepth (s.compileCompose owner spec specs)
      ({ s with settings := b }.compileCompose owner spec specs) := by
  rw [compileCompose.eq_1, compileCompose.eq_1]
  split
  · exact Deepens.refl
  · split
    · exact Deepens.refl
    · exact Deepens.bind Deepens.refl fun declared => Deepens.bind (checkLevel_deepens deeper) fun _ =>
        Deepens.bind (compileSequence_deepens deeper) fun statements => Deepens.refl

/-- Only a compose method reads the limit; chains, utilities and abstract
methods read the declared elements alone. -/
theorem compileMethod_deepens (deeper : s.settings.maxPredicateDepth ≤ b.maxPredicateDepth)
    {isInterface : Bool} {spec : MethodSpec} :
    Deepens s.settings.maxPredicateDepth b.maxPredicateDepth (s.compileMethod isInterface spec)
      ({ s with settings := b }.compileMethod isInterface spec) := by
  unfold compileMethod
  dsimp only
  split
  · exact Deepens.refl
  · split
    · exact Deepens.refl
    · split
      · exact compileCompose_deepens deeper
      · exact Deepens.refl
      · exact Deepens.refl
      · exact Deepens.refl

/-! ## The element stage -/

theorem declare_withSettings {e : Element} :
    ({ s with settings := b } : Scope).declare e =
      (fun s' : Scope => { s' with settings := b }) <$> s.declare e := by
  unfold declare
  dsimp only
  split
  · rfl
  · split <;> rfl

/-- Declaring elements never reads the settings: under other settings it
declares the same elements. -/
theorem declareAll_withSettings (s : Scope) (b : Settings) (parent : Element)
    (specs : List ElementSpec) :
    ({ s with settings := b } : Scope).declareAll parent specs =
      (fun s' : Scope => { s' with settings := b }) <$> s.declareAll parent specs := by
  refine Scope.declareAll.induct
    (fun s parent specs => ({ s with settings := b } : Scope).declareAll parent specs =
      (fun s' : Scope => { s' with settings := b }) <$> s.declareAll parent specs)
    (fun s parent spec => ({ s with settings := b } : Scope).declareOne parent spec =
      (fun s' : Scope => { s' with settings := b }) <$> s.declareOne parent spec)
    (fun s parent name type selector isPublic isNullable elements shadowElements filter description
      elementsIH shadowIH => ?_)
    (fun s parent => ?_) (fun s parent spec rest specIH restIH => ?_) s parent specs
  · rw [declareOne, declareOne]
    -- building an element reads the declared elements only
    show (s.build parent _ >>= _) = _
    simp only [declare_withSettings, bind_map_left, map_bind]
    congr 1
    funext e
    congr 1
    funext declared
    split
    · rfl
    · split
      · rfl
      · simp only [elementsIH, shadowIH, bind_map_left, map_bind]
  · rfl
  · rw [declareAll, declareAll, specIH]
    simp only [bind_map_left, map_bind, restIH]

end Scope

theorem declareElements_withSettings (a b : Settings) (spec : PageObjectSpec) :
    declareElements b spec = (fun s : Scope => { s with settings := b }) <$> declareElements a spec := by
  unfold declareElements
  -- the root is built in an empty scope, whatever its settings
  show (rootElement { settings := a } spec >>= _) = _
  simp only [map_bind]
  congr 1
  funext root
  rw [show ({ settings := b } : Scope) = { ({ settings := a } : Scope) with settings := b } from rfl,
    Scope.declare_withSettings]
  simp only [bind_map_left, Scope.declareAll_withSettings]

/-! ## Whole compilations -/

theorem compileMethods_deepens {s : Scope} {b : Settings}
    (deeper : s.settings.maxPredicateDepth ≤ b.maxPredicateDepth) {isInterface : Bool}
    {specs : List MethodSpec} :
    Deepens s.settings.maxPredicateDepth b.maxPredicateDepth (compileMethods s isInterface specs)
      (compileMethods { s with settings := b } isInterface specs) := by
  unfold compileMethods
  exact Deepens.foldlM fun methods spec _ =>
    Deepens.bind (Scope.compileMethod_deepens deeper) fun m => Deepens.refl

theorem compileSpec_deepens {a b : Settings} (deeper : a.maxPredicateDepth ≤ b.maxPredicateDepth)
    (identifier : Json) (spec : PageObjectSpec) :
    Deepens a.maxPredicateDepth b.maxPredicateDepth (compileSpec a identifier spec)
      (compileSpec b identifier spec) := by
  rw [compileSpec, compileSpec, declareElements_withSettings a b]
  refine Deepens.bind Deepens.refl fun pageType => ?_
  rw [bind_map_left]
  cases declared : declareElements a spec with
  | error e => exact Deepens.refl
  | ok s =>
      have kept := declareElements_settings declared
      rw [ok_bind, ok_bind]
      -- the methods are compiled under each limit, over the same elements
      refine Deepens.bind ?_ fun methods => Deepens.refl
      rw [← kept]
      exact compileMethods_deepens (kept ▸ deeper)

/-- A compilation under a deeper limit and the same grammar ends as under the
shallower one, unless that one refuses a statement list for its depth. -/
theorem compile_deepens {a b : Settings} (grammar : a.strictGrammar = b.strictGrammar)
    (deeper : a.maxPredicateDepth ≤ b.maxPredicateDepth) (identifier tree : Json) :
    Deepens a.maxPredicateDepth b.maxPredicateDepth (compile a identifier tree)
      (compile b identifier tree) := by
  unfold compile
  rw [grammar]
  cases Grammar.read b.strictGrammar tree with
  | error e => exact Deepens.refl
  | ok spec =>
      rw [ok_bind, ok_bind]
      rcases compileSpec_deepens deeper identifier spec with same | ⟨shallower, e, refused, fault⟩
      · rw [same]
        exact Deepens.refl
      · rw [refused]
        exact .inr ⟨shallower, e.leaving identifier, rfl, by rw [CompileError.leaving_fault, fault]⟩

/-- Two settings with the same limit compile a page object alike, errors
included: only the limit is read after the grammar. -/
theorem compileSpec_eq_of_limit {a b : Settings} (limit : a.maxPredicateDepth = b.maxPredicateDepth)
    (identifier : Json) (spec : PageObjectSpec) :
    compileSpec a identifier spec = compileSpec b identifier spec :=
  (compileSpec_deepens (Nat.le_of_eq limit) identifier spec).eq_of_le (Nat.le_of_eq limit.symm)

/-! ## Statement lists declared below a compose body -/

/-- A statement list `depth` levels below a list of statements: the list
itself, or a list below a predicate argument or the filter of one of its
statements. -/
inductive StatementSpec.Below : Nat → List StatementSpec → List StatementSpec → Prop
  | refl {specs : List StatementSpec} : StatementSpec.Below 0 specs specs
  | predicate {depth : Nat} {outer : StatementSpec} {specs inner sequence : List StatementSpec} :
      outer ∈ specs → .predicate inner ∈ outer.args → StatementSpec.Below depth sequence inner →
        StatementSpec.Below (depth + 1) sequence specs
  | filter {depth : Nat} {outer : StatementSpec} {specs inner sequence : List StatementSpec} :
      outer ∈ specs → outer.predicate = some inner → StatementSpec.Below depth sequence inner →
        StatementSpec.Below (depth + 1) sequence specs

/-- Every statement list declared below a compiled list, at whatever depth, is
within the limit: each was compiled at its depth, after the depth check. -/
theorem Scope.compileSequence_below {s : Scope} {owner : String} {depth below : Nat}
    {specs sequence : List StatementSpec} (nested : StatementSpec.Below below sequence specs) :
    ∀ {statements : List Statement}, s.compileSequence owner depth specs = .ok statements →
      depth ≤ s.settings.maxPredicateDepth → depth + below ≤ s.settings.maxPredicateDepth := by
  induction nested generalizing depth with
  | refl => exact fun _ within => within
  | @predicate below _ _ _ _ member argument _ insideIH =>
      intro statements sequenced _
      obtain ⟨outerLast, outer, outerCompiled, -⟩ := compileSequence_mem sequenced _ member
      obtain ⟨-, -, -, -, -, -, predicated, -⟩ := compileStatement_eq_ok outerCompiled
      obtain ⟨level, inner⟩ := compilePredicates_of_mem predicated argument
      have bound := insideIH inner level
      omega
  | @filter below _ _ _ _ member declared _ insideIH =>
      intro statements sequenced _
      obtain ⟨outerLast, outer, outerCompiled, -⟩ := compileSequence_mem sequenced _ member
      obtain ⟨-, -, -, -, -, -, -, -, filtered, -⟩ := compileStatement_eq_ok outerCompiled
      obtain ⟨leveled, inner⟩ := filtered _ declared
      have bound := insideIH inner (Scope.checkLevel_eq_ok.mp leveled).1
      omega

/-- In an accepted page object, every statement list declared below a compose
method lies within the settings' limit. -/
theorem AcceptedRun.below_within {settings : Settings} {identifier tree : Json}
    {declaration : Declaration} (run : AcceptedRun settings identifier tree declaration)
    {ms : MethodSpec} (declared : ms ∈ run.spec.methods) {body : List StatementSpec}
    (composed : ms.compose = some body) {depth : Nat} {sequence : List StatementSpec}
    (nested : StatementSpec.Below depth sequence body) : depth ≤ settings.maxPredicateDepth := by
  obtain ⟨m, -, methodCompiled⟩ := compileMethods_complete run.compiled ms declared
  obtain ⟨owner, composedCompiled⟩ := Scope.compileMethod_compose methodCompiled composed
  obtain ⟨statements, leveled, sequenced, -⟩ := Scope.compileCompose_eq_ok composedCompiled
  have bound := Scope.compileSequence_below nested sequenced (Scope.checkLevel_eq_ok.mp leveled).1
  rw [declareElements_settings run.declared, Nat.zero_add] at bound
  exact bound

/--
Predicates nest no deeper than the settings allow. In an accepted page object,
every statement of a compose method stands within the limit below the body.
A document that declares, below a compose body it holds, a statement list
deeper than the limit is refused, whatever else it holds. And a page object
accepted under a limit is accepted, with the same declaration, under every
deeper limit, the other settings kept.
-/
theorem predicate_nesting_bounded :
    (∀ settings identifier tree declaration, compile settings identifier tree = .ok declaration →
      ∃ run : AcceptedRun settings identifier tree declaration, ∀ m ∈ run.methods, ∀ statements,
        m.body = .compose statements → ∀ depth (st : Statement), st.Within depth statements →
          depth ≤ settings.maxPredicateDepth) ∧
    (∀ settings identifier tree spec, Grammar.read settings.strictGrammar tree = .ok spec →
      ∀ ms ∈ spec.methods, ∀ body, ms.compose = some body →
        ∀ depth sequence, StatementSpec.Below depth sequence body → settings.maxPredicateDepth < depth →
          ∃ error, compile settings identifier tree = .error error) ∧
    (∀ settings identifier tree declaration (limit : Nat),
      compile settings identifier tree = .ok declaration → settings.maxPredicateDepth ≤ limit →
        compile { settings with maxPredicateDepth := limit } identifier tree = .ok declaration) := by
  refine ⟨fun settings identifier tree declaration accepted => ?_,
    fun settings identifier tree spec read ms declared body composed depth sequence nested deeper => ?_,
    fun settings identifier tree declaration limit accepted deeper => ?_⟩
  · obtain ⟨run⟩ := AcceptedRun.of_compile accepted
    refine ⟨run, fun m member statements body depth st within => ?_⟩
    have bounded := Scope.compileMethods_bounded (fun _ _ => True) (fun _ => trivial) run.compiled
      member body depth st within
    rw [declareElements_settings run.declared, Nat.zero_add] at bounded
    exact bounded.2
  · cases compiled : compile settings identifier tree with
    | error error => exact ⟨error, rfl⟩
    | ok declaration =>
        obtain ⟨run⟩ := AcceptedRun.of_compile compiled
        -- the grammar reads one specification, so the run's is the one given
        have same : run.spec = spec := by
          have both := run.read.symm.trans read
          injection both
        subst same
        exact absurd (run.below_within declared composed nested) (Nat.not_le.mpr deeper)
  · exact (@compile_deepens settings { settings with maxPredicateDepth := limit } rfl deeper identifier
      tree).eq_ok accepted

/-- A page object whose compose statement filters a list element by a
statement one level down. -/
def filteredListDocument : Json :=
  .obj [("elements", .arr [.obj [("name", .str "btn"), ("selector", .obj [("css", .str ".b")])],
      .obj [("name", .str "items"), ("selector", .obj [("css", .str ".i"), ("returnAll", .bool true)])]]),
    ("methods", .arr [.obj [("name", .str "texts"),
      ("compose", .arr [.obj [("element", .str "items"), ("apply", .str "getText"),
        ("predicate", .arr [.obj [("element", .str "btn"), ("apply", .str "isVisible")]])]])]])]

/-- A filter one level below a compose body is accepted under the limit one,
with every statement within it, and alike under the limit two; under the limit
zero it is refused. -/
theorem filter_nested_once_within_limit :
    (∃ declaration, compile { maxPredicateDepth := 1 } (.str "a/b/c") filteredListDocument = .ok declaration ∧
      (∃ run : AcceptedRun { maxPredicateDepth := 1 } (.str "a/b/c") filteredListDocument declaration,
        ∀ m ∈ run.methods, ∀ statements, m.body = .compose statements →
          ∀ depth (st : Statement), st.Within depth statements → depth ≤ 1) ∧
      compile { maxPredicateDepth := 2 } (.str "a/b/c") filteredListDocument = .ok declaration) ∧
    ∃ error, compile { maxPredicateDepth := 0 } (.str "a/b/c") filteredListDocument = .error error := by
  obtain ⟨declaration, accepted⟩ := exists_ok_of_toBool
    (show (compile { maxPredicateDepth := 1 } (.str "a/b/c") filteredListDocument).toBool = true by
      decide +kernel)
  refine ⟨⟨declaration, accepted, predicate_nesting_bounded.1 _ _ _ _ accepted,
    predicate_nesting_bounded.2.2 _ _ _ _ 2 accepted (by decide)⟩, ?_⟩
  obtain ⟨spec, read⟩ := exists_ok_of_toBool
    (show (Grammar.read true filteredListDocument).toBool = true by decide +kernel)
  -- the document read holds a compose statement with a filter
  have evaluated : ((Grammar.read true filteredListDocument).toOption.map fun spec =>
      spec.methods.any fun ms => ms.compose.any fun body => body.any fun outer => outer.predicate.isSome) =
        some true := by
    decide +kernel
  simp only [read, Except.toOption, Option.map_some, Option.some.injEq, List.any_eq_true,
    Option.any_eq_true, Option.isSome_iff_exists] at evaluated
  obtain ⟨ms, declared, body, composed, outer, member, inner, filtered⟩ := evaluated
  exact predicate_nesting_bounded.2.1 { maxPredicateDepth := 0 } _ _ spec read ms declared body composed 1
    inner (.filter member filtered .refl) (by decide)

end PageObjects
