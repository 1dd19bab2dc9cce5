import Mathlib.Data.List.Forall2
import PageObjects.Proofs.ScopeValidation
import PageObjects.Proofs.Statements

/-!
# Calls of element getters

The compiler writes calls of an element's getter in two places, from different
data. A compose statement carries the getter's parameters themselves, so its
call always agrees with the getter. An element reference given as an argument
value, `{"element": X}`, is written as a call `getX(v₁, …, vₙ)` whose values
stand for the named parameters of `X`'s selectors only, and whose type is the
element's reference type; the getter also takes the named parameters of the
element's filter and of the filter's matcher, and returns a list for a list
container and the root's own type for the root.

`getter_calls_agree_iff` states all of it: compose statements at every depth
agree with their getters; a reference fits the scope parameters of its element;
and a reference agrees with the getter exactly when the element's filter and
matcher have no named parameters, and, for its type, exactly when the element
is neither a list container nor a root whose type is not a basic element type.
Agreement of types is up to `Ty.widened`, which reads a basic element type as
the generic element.

The types of declared elements fit their variants (`Element.Admitted`), which
the last condition needs: only the root may have a type of another variant.
-/

namespace PageObjects

/-- A type as an argument sees it: a basic element type widened to the generic
element, inside lists too. -/
def Ty.widened : Ty → Ty
  | .basic _ => Ty.element
  | .list item => .list item.widened
  | other => other

theorem Ty.widened_eq_element_iff {t : Ty} : t.widened = Ty.element ↔ t.isBasic = true := by
  cases t <;> simp [widened, isBasic, Ty.element]

/-- Whether a type fits a variant of element: a basic element has a basic
element type, a component a page-object type and a container the container
type; the root may have any. -/
def ElementKind.Admits : ElementKind → Ty → Prop
  | .basic, type => type.isBasic = true
  | .custom, type => ∃ name, type = .custom name
  | .container, type => type = .container
  | .root, _ => True

/-- An element whose type fits its variant. -/
def Element.Admitted (e : Element) : Prop :=
  e.kind.Admits e.type

/-! ## The types of declared elements -/

theorem Ty.basicOf_isBasic (capabilities : List Capability) : (Ty.basicOf capabilities).isBasic = true := by
  unfold Ty.basicOf
  split <;> rfl

/-- The type an element's declaration names fits the variant it names. -/
theorem Scope.typeOfKind_admits {owner : String} {token : Option TypeToken} {t : Ty}
    (typed : Scope.typeOfKind owner (elementKindOf token) token = .ok t) :
    (elementKindOf token).Admits t := by
  unfold Scope.typeOfKind at typed
  split at typed
  · rename_i container
    obtain rfl := pure_eq_ok.mp typed
    simp only [beq_iff_eq] at container
    rw [container]
    rfl
  · rename_i notContainer
    -- the variant and the type are read from the same token
    unfold Scope.elementType at typed
    rcases token with _ | ⟨token⟩ | ⟨tokens⟩
    · obtain rfl := (Except.ok.injEq _ _).mp typed
      rfl
    · by_cases container : token = "container"
      · subst container
        simp [elementKindOf] at notContainer
      · by_cases reference : Naming.isTypeReference token = true
        · have kind : elementKindOf (some (.single token)) = .custom := by
            simp [elementKindOf, reference]
          simp only [beq_iff_eq, container, reference, if_false, if_true] at typed
          obtain ⟨name, -, built⟩ := bind_eq_ok.mp typed
          rw [kind, ← pure_eq_ok.mp built]
          exact ⟨name, rfl⟩
        · have kind : elementKindOf (some (.single token)) = .basic := by
            simp [elementKindOf, reference]
          simp only [beq_iff_eq, container, reference, if_false, Bool.false_eq_true] at typed
          rw [kind]
          split at typed
          · obtain rfl := (Except.ok.injEq _ _).mp typed
            rfl
          · exact absurd typed fail_ne_ok
    · obtain ⟨capabilities, -, built⟩ := bind_eq_ok.mp typed
      obtain rfl := pure_eq_ok.mp built
      exact Ty.basicOf_isBasic capabilities

/-- An element that `build` makes has a type that fits its variant. -/
theorem Scope.build_admitted {s : Scope} {parent : Element} {spec : ElementSpec} {e : Element}
    (built : s.build parent spec = .ok e) : e.Admitted := by
  unfold build at built
  obtain ⟨selector, -, built⟩ := bind_eq_ok.mp built
  split at built
  · exact absurd built fail_ne_ok
  · obtain ⟨-, -, built⟩ := bind_eq_ok.mp built
    obtain ⟨type, typed, built⟩ := bind_eq_ok.mp built
    have admits := typeOfKind_admits typed
    dsimp only at built
    split at built
    · obtain ⟨filter, -, built⟩ := bind_eq_ok.mp built
      obtain ⟨-, -, built⟩ := bind_eq_ok.mp built
      obtain rfl := pure_eq_ok.mp built
      exact admits
    · obtain rfl := pure_eq_ok.mp built
      exact admits

/-- Every declared element has a type that fits its variant. -/
theorem declareElements_admitted {settings : Settings} {spec : PageObjectSpec} {s : Scope}
    (run : declareElements settings spec = .ok s) : ∀ e ∈ s.elements, e.Admitted :=
  declareElements_forall
    (fun built => by rw [Element.Admitted, (rootElement_shape built).1]; trivial)
    Scope.build_admitted run

/-! ## Where a reference and a getter part -/

namespace Element

variable {e : Element}

/-- A reference passes values for all the getter's parameters exactly when the
element's filter and its matcher have no named parameters. -/
theorem getter_parameters_eq_iff :
    e.getter.declaration.parameters = namedOnly e.parameters ↔
      ∀ f ∈ e.filter, namedOnly f.parameters = [] ∧ ∀ m ∈ f.matcher, namedOnly m.parameters = [] := by
  show e.getterParameters = namedOnly e.parameters ↔ _
  unfold getterParameters
  rw [List.append_right_eq_self]
  rcases filter : e.filter with _ | f
  · simp
  · rcases matcher : f.matcher with _ | m <;> simp [matcher]

/-- The type of a reference is the getter's return type, widened, exactly when
the element is neither a list container nor a root of a type other than a
basic element type. -/
theorem referenceType_eq_widened_iff (admitted : e.Admitted) :
    e.referenceType = e.getterReturnType.widened ↔
      ¬ (e.kind = .container ∧ e.isList = true) ∧ (e.kind = .root → e.type.isBasic = true) := by
  unfold referenceType getterReturnType
  unfold Admitted at admitted
  cases kind : e.kind with
  | basic =>
      rw [kind] at admitted
      obtain ⟨capabilities, basic⟩ : ∃ capabilities, e.type = .basic capabilities := by
        cases type : e.type <;> simp_all [ElementKind.Admits, Ty.isBasic]
      cases e.isList <;> simp [basic, Ty.widened]
  | custom =>
      rw [kind] at admitted
      obtain ⟨name, custom⟩ := admitted
      cases e.isList <;> simp [custom, Ty.widened]
  | container =>
      rw [kind] at admitted
      cases e.isList <;> simp [show e.type = .container from admitted, Ty.widened]
  | root =>
      -- the root's reference is the generic element, whatever its own type
      cases e.isList with
      | false =>
          simp only [if_false, Bool.false_eq_true]
          rw [eq_comm, Ty.widened_eq_element_iff]
          simp
      | true =>
          simp only [if_true, Ty.widened, Ty.list.injEq]
          rw [eq_comm, Ty.widened_eq_element_iff]
          simp

end Element

/-! ## References and statements -/

namespace Resolver

variable {r : Resolver}

theorem requireLiterals_eq_ok {args : List ArgumentSpec} {what : String}
    (checked : r.requireLiterals args what = .ok ()) : args.all ArgumentSpec.isValue = true := by
  unfold requireLiterals at checked
  split at checked
  · assumption
  · exact absurd checked (by simp [refuse])

theorem checkCount_eq_ok {args : List ArgumentSpec} {expected : List Ty}
    (checked : r.checkCount args (some expected) = .ok ()) : expected.length = args.length := by
  by_cases same : expected.length = args.length
  · exact same
  · simp [checkCount, same, refuse, failWith] at checked

theorem resolveOne_value {literal : LiteralSpec} {declared : Option String}
    {parameter : Option Parameter} (resolved : r.resolveOne (.value literal declared) = .ok parameter) :
    ∃ p, parameter = some p := by
  rw [resolveOne.eq_3] at resolved
  obtain ⟨p, -, resolved⟩ := bind_eq_ok.mp resolved
  cases declared with
  | none => exact ⟨p, (pure_eq_ok.mp resolved).symm⟩
  | some token =>
      obtain ⟨t, -, resolved⟩ := bind_eq_ok.mp resolved
      split at resolved
      · exact absurd resolved (by simp [refuse])
      · exact ⟨p, (pure_eq_ok.mp resolved).symm⟩

/-- One step of resolving against the types expected: the argument resolves,
fits the type expected at its place (a predicate, which gives no parameter,
standing as a function), and the rest resolves against the rest of the types. -/
theorem resolveEach_cons_eq_ok {arg : ArgumentSpec} {rest : List ArgumentSpec} {t : Ty}
    {ts : List Ty} {done values : List Parameter}
    (resolved : r.resolveEach (arg :: rest) (some (t :: ts)) done = .ok values) :
    ∃ parameter, r.resolveOne arg = .ok parameter ∧
      accepts t ((parameter.map Parameter.type).getD .function) = true ∧
      r.resolveEach rest (some ts) (parameter.toList ++ done) = .ok values := by
  rw [resolveEach.eq_2] at resolved
  obtain ⟨parameter, resolvedOne, resolved⟩ := bind_eq_ok.mp resolved
  refine ⟨parameter, resolvedOne, ?_⟩
  -- the type checked and the parameter kept are both read off the argument's parameter
  cases parameter with
  | none =>
      dsimp only at resolved
      split at resolved
      · exact absurd resolved (by simp [refuse])
      · rename_i fits
        exact ⟨by simpa using fits, resolved⟩
  | some p =>
      dsimp only at resolved
      split at resolved
      · exact absurd resolved (by simp [refuse])
      · rename_i fits
        exact ⟨by simpa using fits, resolved⟩

/-- Literal arguments, as many as the types expected, resolve in order to
values each of which fits the type expected at its place. -/
theorem resolveEach_fits : ∀ {args : List ArgumentSpec} {expected : List Ty}
    {done values : List Parameter}, args.all ArgumentSpec.isValue = true →
    args.length = expected.length → r.resolveEach args (some expected) done = .ok values →
    ∃ resolved, values = done.reverse ++ resolved ∧
      List.Forall₂ (fun value t => accepts t value.type = true) resolved expected
  | [], [], done, values, _, _, resolved => by
      rw [resolveEach.eq_1, Except.ok.injEq] at resolved
      exact ⟨[], by simp [resolved], .nil⟩
  | [], _ :: _, _, _, _, counted, _ => absurd counted (by simp)
  | _ :: _, [], _, _, _, counted, _ => absurd counted (by simp)
  | arg :: rest, t :: ts, done, values, literals, counted, resolved => by
      obtain ⟨parameter, resolvedOne, fits, resolved⟩ := resolveEach_cons_eq_ok resolved
      simp only [List.all_cons, Bool.and_eq_true] at literals
      obtain ⟨isValue, restLiterals⟩ := literals
      cases arg with
      | value literal declared =>
          obtain ⟨p, rfl⟩ := resolveOne_value resolvedOne
          obtain ⟨later, values_eq, laterFit⟩ :=
            resolveEach_fits restLiterals (by simpa using counted) resolved
          refine ⟨p :: later, by simp [values_eq], .cons (by simpa using fits) laterFit⟩
      | named => simp [ArgumentSpec.isValue] at isValue
      | predicate => simp [ArgumentSpec.isValue] at isValue

/-- An element reference resolves to a call of the element's getter with
literal values, one for each named parameter of the element's selectors and
fitting its type, and has the element's reference type. -/
theorem literalOf_element_eq_ok {name : String} {args : List ArgumentSpec} {p : Parameter}
    (resolved : r.literalOf (.element name args) = .ok p) :
    ∃ e values, r.lookup name = some e ∧
      p = .literal (getterCall e.getterName values) e.referenceType ∧
      List.Forall₂ (fun value t => accepts t value.type = true) values
        ((namedOnly e.parameters).map Parameter.type) := by
  rw [literalOf.eq_2] at resolved
  obtain ⟨e, found, resolved⟩ := bind_eq_ok.mp resolved
  obtain ⟨⟨⟩, literal, resolved⟩ := bind_eq_ok.mp resolved
  obtain ⟨⟨⟩, counted, resolved⟩ := bind_eq_ok.mp resolved
  obtain ⟨values, resolvedEach, resolved⟩ := bind_eq_ok.mp resolved
  obtain ⟨⟨⟩, -, built⟩ := bind_eq_ok.mp resolved
  obtain ⟨fitting, listed, fits⟩ := resolveEach_fits (requireLiterals_eq_ok literal)
    (checkCount_eq_ok counted).symm resolvedEach
  rw [List.reverse_nil, List.nil_append] at listed
  subst listed
  exact ⟨e, values, element_eq_ok.mp found, (pure_eq_ok.mp built).symm, fits⟩

end Resolver

/-- A compiled statement calls a declared element through that element's
getter, with the getter's parameters. -/
theorem Scope.compileStatement_calls_getter {s : Scope} {owner : String} {depth : Nat}
    {isLast : Bool} {spec : StatementSpec} {st : Statement}
    (compiled : s.compileStatement owner depth isLast spec = .ok st) :
    ∃ e ∈ s.elements, e.name = st.elementName ∧ st.getterName = e.getter.declaration.name ∧
      st.elementParameters = e.getter.declaration.parameters := by
  obtain ⟨e, found, named, getter, -, parameters, -⟩ := compileStatement_eq_ok compiled
  exact ⟨e, (lookup_eq_some found).1, named.symm, getter, parameters⟩

/--
Every getter call the compiler writes agrees with the getter it calls, and
exactly where the two descriptions of the call part, they disagree. Every
compose statement of an accepted page object, at any depth of predicates and
filters, calls a declared element with the parameters of that element's getter.
An element reference resolves to a call of the element's getter with one
fitting value for each named parameter of the element's selectors, typed by
the element's reference type. For a declared element, these values are all the
getter takes exactly when its filter and matcher have no named parameters,
and the reference type is the getter's return type, widened, exactly when the
element is neither a list container nor a root of a type other than a basic
element type.
-/
theorem getter_calls_agree_iff {settings : Settings} {identifier tree : Json}
    {declaration : Declaration} (accepted : compile settings identifier tree = .ok declaration) :
    ∃ run : AcceptedRun settings identifier tree declaration,
      (∀ m ∈ run.methods, ∀ statements, m.body = .compose statements →
        ∀ below (st : Statement), st.Within below statements →
          ∃ e ∈ run.scope.elements, e.name = st.elementName ∧
            st.getterName = e.getter.declaration.name ∧
            st.elementParameters = e.getter.declaration.parameters) ∧
      (∀ (r : Resolver) name args p, r.literalOf (.element name args) = .ok p →
        ∃ e values, r.lookup name = some e ∧
          p = .literal (getterCall e.getterName values) e.referenceType ∧
          List.Forall₂ (fun value t => accepts t value.type = true) values
            ((namedOnly e.parameters).map Parameter.type)) ∧
      (∀ e ∈ run.scope.elements,
        (e.getter.declaration.parameters = namedOnly e.parameters ↔
          ∀ f ∈ e.filter, namedOnly f.parameters = [] ∧ ∀ m ∈ f.matcher, namedOnly m.parameters = []) ∧
        (e.referenceType = e.getterReturnType.widened ↔
          ¬ (e.kind = .container ∧ e.isList = true) ∧ (e.kind = .root → e.type.isBasic = true))) := by
  obtain ⟨run⟩ := AcceptedRun.of_compile accepted
  refine ⟨run, fun m member statements compose below st within => ?_,
    fun r name args p resolved => Resolver.literalOf_element_eq_ok resolved,
    fun e member => ⟨Element.getter_parameters_eq_iff,
      Element.referenceType_eq_widened_iff (declareElements_admitted run.declared e member)⟩⟩
  exact (Scope.compileMethods_bounded _ Scope.compileStatement_calls_getter run.compiled member
    compose below st within).1

/-- A page object whose external utility takes a reference to a container that
returns all matches is accepted, and the reference is typed as one container
while the container's getter returns a list of them. -/
theorem container_list_reference_is_not_a_list :
    ∃ declaration, compile {} (.str "a/b/c") (.obj [
        ("elements", .arr [.obj [("name", .str "box"), ("type", .str "container"),
          ("public", .bool true), ("selector", .obj [("css", .str ".c"), ("returnAll", .bool true)])]]),
        ("methods", .arr [.obj [("name", .str "m"), ("externalUtility", .obj [("type", .str "a/b/util"),
          ("invoke", .str "f"), ("args", .arr [.obj [("value", .obj [("element", .str "box")])]])])]])]) = .ok declaration ∧
      ∃ run : AcceptedRun {} (.str "a/b/c") (.obj [
        ("elements", .arr [.obj [("name", .str "box"), ("type", .str "container"),
          ("public", .bool true), ("selector", .obj [("css", .str ".c"), ("returnAll", .bool true)])]]),
        ("methods", .arr [.obj [("name", .str "m"), ("externalUtility", .obj [("type", .str "a/b/util"),
          ("invoke", .str "f"), ("args", .arr [.obj [("value", .obj [("element", .str "box")])]])])]])]) declaration, ∃ e ∈ run.scope.elements,
        e.name = "box" ∧ ∃ p, (run.scope.resolver "m").literalOf (.element "box" []) = .ok p ∧
          p.type ≠ e.getterReturnType.widened := by
  obtain ⟨declaration, accepted⟩ := exists_ok_of_toBool
    (show (compile {} (.str "a/b/c") (.obj [
        ("elements", .arr [.obj [("name", .str "box"), ("type", .str "container"),
          ("public", .bool true), ("selector", .obj [("css", .str ".c"), ("returnAll", .bool true)])]]),
        ("methods", .arr [.obj [("name", .str "m"), ("externalUtility", .obj [("type", .str "a/b/util"),
          ("invoke", .str "f"), ("args", .arr [.obj [("value", .obj [("element", .str "box")])]])])]])])).toBool = true by decide +kernel)
  obtain ⟨run⟩ := AcceptedRun.of_compile accepted
  have typed : (Grammar.read ({} : Settings).strictGrammar (.obj [
        ("elements", .arr [.obj [("name", .str "box"), ("type", .str "container"),
          ("public", .bool true), ("selector", .obj [("css", .str ".c"), ("returnAll", .bool true)])]]),
        ("methods", .arr [.obj [("name", .str "m"), ("externalUtility", .obj [("type", .str "a/b/util"),
          ("invoke", .str "f"), ("args", .arr [.obj [("value", .obj [("element", .str "box")])]])])]])]) >>= declareElements {}).toOption.bind
      (fun s => (s.lookup "box").map fun e => (e.getterReturnType, e.referenceType)) =
      some (.list .container, .container) := by decide +kernel
  have referenced : (Grammar.read ({} : Settings).strictGrammar (.obj [
        ("elements", .arr [.obj [("name", .str "box"), ("type", .str "container"),
          ("public", .bool true), ("selector", .obj [("css", .str ".c"), ("returnAll", .bool true)])]]),
        ("methods", .arr [.obj [("name", .str "m"), ("externalUtility", .obj [("type", .str "a/b/util"),
          ("invoke", .str "f"), ("args", .arr [.obj [("value", .obj [("element", .str "box")])]])])]])]) >>= declareElements {} >>=
      fun s => (s.resolver "m").literalOf (.element "box" [])).toBool = true := by decide +kernel
  rw [run.read, ok_bind, run.declared] at typed referenced
  rw [ok_bind] at referenced
  obtain ⟨p, resolved⟩ := exists_ok_of_toBool referenced
  obtain ⟨e, values, found, rfl, -⟩ := Resolver.literalOf_element_eq_ok resolved
  have found : run.scope.lookup "box" = some e := found
  simp only [Except.toOption, Option.bind_some, found, Option.map_some, Option.some.injEq,
    Prod.mk.injEq] at typed
  obtain ⟨returned, referenceTyped⟩ := typed
  obtain ⟨member, named⟩ := Scope.lookup_eq_some found
  refine ⟨declaration, accepted, run, e, member, named, _, resolved, ?_⟩
  simp [Parameter.type, returned, referenceTyped, Ty.widened]

/-- An element filtered by a matcher with a named parameter is accepted, and its
getter takes that parameter, which a reference to the element does not pass. -/
theorem filtered_reference_misses_matcher_parameter :
    ∃ declaration, compile {} (.str "a/b/c") (.obj [("elements", .arr [.obj [("name", .str "items"), ("public", .bool true),
        ("selector", .obj [("css", .str ".item"), ("returnAll", .bool true)]),
        ("filter", .obj [("apply", .str "getText"), ("findFirst", .bool true),
          ("matcher", .obj [("type", .str "stringContains"),
            ("args", .arr [.obj [("name", .str "text"), ("type", .str "string")]])])])]])]) = .ok declaration ∧
      ∃ run : AcceptedRun {} (.str "a/b/c") (.obj [("elements", .arr [.obj [("name", .str "items"), ("public", .bool true),
        ("selector", .obj [("css", .str ".item"), ("returnAll", .bool true)]),
        ("filter", .obj [("apply", .str "getText"), ("findFirst", .bool true),
          ("matcher", .obj [("type", .str "stringContains"),
            ("args", .arr [.obj [("name", .str "text"), ("type", .str "string")]])])])]])]) declaration, ∃ e ∈ run.scope.elements,
        e.name = "items" ∧ e.getter.declaration.parameters ≠ namedOnly e.parameters := by
  obtain ⟨declaration, accepted⟩ := exists_ok_of_toBool
    (show (compile {} (.str "a/b/c") (.obj [("elements", .arr [.obj [("name", .str "items"), ("public", .bool true),
        ("selector", .obj [("css", .str ".item"), ("returnAll", .bool true)]),
        ("filter", .obj [("apply", .str "getText"), ("findFirst", .bool true),
          ("matcher", .obj [("type", .str "stringContains"),
            ("args", .arr [.obj [("name", .str "text"), ("type", .str "string")]])])])]])])).toBool = true by decide +kernel)
  obtain ⟨run, -, -, parting⟩ := getter_calls_agree_iff accepted
  have matched : (Grammar.read ({} : Settings).strictGrammar (.obj [("elements", .arr [.obj [("name", .str "items"), ("public", .bool true),
        ("selector", .obj [("css", .str ".item"), ("returnAll", .bool true)]),
        ("filter", .obj [("apply", .str "getText"), ("findFirst", .bool true),
          ("matcher", .obj [("type", .str "stringContains"),
            ("args", .arr [.obj [("name", .str "text"), ("type", .str "string")]])])])]])]) >>= declareElements {}).toOption.bind
      (fun s => (s.lookup "items").bind fun e => e.filter.bind fun f => f.matcher.map fun m =>
        (namedOnly m.parameters).length) = some 1 := by decide +kernel
  rw [run.read, ok_bind, run.declared] at matched
  simp only [Except.toOption, Option.bind_some] at matched
  obtain ⟨e, found, matched⟩ := Option.bind_eq_some_iff.mp matched
  obtain ⟨f, filtered, matched⟩ := Option.bind_eq_some_iff.mp matched
  obtain ⟨m, matcherFound, counted⟩ := Option.map_eq_some_iff.mp matched
  obtain ⟨member, named⟩ := Scope.lookup_eq_some found
  refine ⟨declaration, accepted, run, e, member, named, fun same => ?_⟩
  obtain ⟨-, matcherFree⟩ := ((parting e member).1.mp same) f filtered
  rw [matcherFree m matcherFound] at counted
  cases counted

end PageObjects
