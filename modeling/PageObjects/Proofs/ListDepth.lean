import PageObjects.Proofs.Views
import PageObjects.Proofs.ComposeBodies
import PageObjects.Proofs.Imports
import PageObjects.Proofs.SelectorTemplates
import PageObjects.Proofs.Batches

/-!
# Lists never nest

A compiled page object names types in many places: the signatures of its
methods and their imports, the types of the parameters its calls pass, the
results of statements at every depth, the links of chains, the actions and
matchers it applies. `Declaration.occurringTypes` lists all of them, and
`lists_never_nest` says that none is a list of lists.

Lists come into types in several ways: a getter of an element whose selector
returns all, a component call or a declared return type with `returnAll`, a
chain with a link that returns all, a reference to a list element passed as a
value, and a statement that runs once per element of a list. Every other type
is read from a token, an element's declaration or a catalog, and is no list
at all (`listDepth = 0`). Each producer wraps a type that is no list, except
the fan-out of a statement, which wraps its result only when it is not a list
already, and `waitFor`, whose result is its predicate's last statement's: an
induction over the statement compiler carries the bound through both.
-/

namespace PageObjects

namespace Ty

/-- How deeply lists nest in a type: not at all in a type that is no list. -/
def listDepth : Ty → Nat
  | list item => item.listDepth + 1
  | _ => 0

@[simp]
theorem listDepth_list (item : Ty) : (list item).listDepth = item.listDepth + 1 := rfl

theorem listDepth_eq_zero_iff {t : Ty} : t.listDepth = 0 ↔ t.isList = false := by
  cases t <;> simp [listDepth, isList]

/-- A type referenced for import nests lists no deeper than the type itself. -/
theorem listDepth_of_mem_referenced {t u : Ty} (referenced : u ∈ t.referenced) :
    u.listDepth ≤ t.listDepth := by
  induction t with
  | list item itemIH =>
    rcases List.mem_cons.mp referenced with rfl | inner
    · exact Nat.le_refl _
    · exact Nat.le_trans (itemIH inner) (Nat.le_succ _)
  | basic capabilities =>
    -- a basic element type is imported as itself or as one type per capability
    unfold Ty.referenced at referenced
    split at referenced
    · obtain rfl := List.mem_singleton.mp referenced
      exact Nat.le_refl _
    · obtain ⟨c, -, rfl⟩ := List.mem_map.mp referenced
      exact Nat.le_refl _
  | primitive => simp [Ty.referenced] at referenced
  | void => simp [Ty.referenced] at referenced
  | locator | reference | function | container | custom =>
    obtain rfl := List.mem_singleton.mp referenced
    exact Nat.le_refl _

/-- A result given once per element is wrapped in a list only when it is not a
list already, so it nests lists no deeper than once when the result does not. -/
theorem listDepth_fanOut {t : Ty} (fanOut : Bool) (shallow : t.listDepth ≤ 1) :
    (if (fanOut && !t.isVoid && !t.isList) = true then t.list else t).listDepth ≤ 1 := by
  split
  · rename_i wrapped
    have flat : t.listDepth = 0 := by
      rw [listDepth_eq_zero_iff]
      simp only [Bool.and_eq_true, Bool.not_eq_true'] at wrapped
      exact wrapped.2
    simp [flat]
  · exact shallow

end Ty

/-- A type that is no list nests lists at most once. -/
theorem Ty.listDepth_le_one {t : Ty} (flat : t.listDepth = 0) : t.listDepth ≤ 1 := by
  omega

/-- Types in which lists nest at most once. -/
def Shallow (types : List Ty) : Prop :=
  ∀ t ∈ types, t.listDepth ≤ 1

@[simp]
theorem shallow_nil : Shallow [] := fun _ member => absurd member List.not_mem_nil

@[simp]
theorem shallow_cons {t : Ty} {types : List Ty} :
    Shallow (t :: types) ↔ t.listDepth ≤ 1 ∧ Shallow types :=
  List.forall_mem_cons

@[simp]
theorem shallow_append {types more : List Ty} :
    Shallow (types ++ more) ↔ Shallow types ∧ Shallow more :=
  List.forall_mem_append

theorem shallow_flatMap {α : Type} {items : List α} {f : α → List Ty} :
    Shallow (items.flatMap f) ↔ ∀ x ∈ items, Shallow (f x) := by
  simp only [Shallow, List.mem_flatMap, forall_exists_index, and_imp]
  exact ⟨fun all x member t inner => all t x member inner, fun all t x member inner => all x member t inner⟩

theorem shallow_optionGetD {α : Type} {o : Option α} {f : α → List Ty} (each : ∀ x ∈ o, Shallow (f x)) :
    Shallow ((o.map f).getD []) := by
  cases o with
  | none => exact shallow_nil
  | some x => exact each x rfl

/-- The closure imported for some types nests lists no deeper than they do. -/
theorem shallow_requiredImports {types : List Ty} (shallow : Shallow types) :
    Shallow (requiredImports types) := by
  intro u member
  obtain ⟨source, listed, referenced⟩ := mem_requiredImports.mp member
  exact Nat.le_trans (Ty.listDepth_of_mem_referenced referenced) (shallow source listed)

/-- A merge of import groups keeps only types of the groups. -/
theorem shallow_mergeImports {groups : List (List Ty)} (each : ∀ g ∈ groups, Shallow g) :
    Shallow (mergeImports groups) := by
  intro t member
  rw [mergeImports, List.mem_firstOccurrences, List.mem_flatten] at member
  obtain ⟨g, listed, inGroup⟩ := member
  exact each g listed t inGroup

/-! ## The types a compiled page object names -/

/-- An action's result type and the types of its argument shapes. -/
def Action.occurringTypes (a : Action) : List Ty :=
  a.returnType :: a.shapes.flatten

/-- The type a matcher tests and the types of its arguments. -/
def MatcherKind.occurringTypes (k : MatcherKind) : List Ty :=
  k.operand :: k.argumentTypes

/-- A matcher's kind's types and its parameters' types. -/
def Matcher.occurringTypes (m : Matcher) : List Ty :=
  m.kind.occurringTypes ++ m.parameters.map Parameter.type

/-- The types of a selector's parameters. -/
def Selector.occurringTypes (s : Selector) : List Ty :=
  s.parameters.map Parameter.type

/-- The types of a filter's action, parameters and matcher. -/
def ElementFilter.occurringTypes (f : ElementFilter) : List Ty :=
  (f.action.map Action.occurringTypes).getD [] ++ f.parameters.map Parameter.type ++
    (f.matcher.map Matcher.occurringTypes).getD []

/-- The types a statement names itself, beside those of the statements below
it: its result, its action's types, its element's getter parameters' and its
own parameters' types, and its matcher's types. -/
def Statement.ownTypes (st : Statement) : List Ty :=
  st.returnType :: ((st.action.map Action.occurringTypes).getD [] ++
    st.elementParameters.map Parameter.type ++ st.parameters.map Parameter.type ++
    (st.matcher.map Matcher.occurringTypes).getD [])

mutual

/-- The types a statement names, with those of its predicate and its filter. -/
def Statement.occurringTypes : Statement → List Ty
  | st@⟨_, _, _, _, _, _, predicate, filter, _, _, _, _⟩ =>
    st.ownTypes ++ Statement.listTypes predicate ++ Statement.listTypes filter

/-- The types the statements of a list name, at every depth. -/
def Statement.listTypes : List Statement → List Ty
  | [] => []
  | st :: rest => st.occurringTypes ++ Statement.listTypes rest

end

/-- The types a method body names: its statements' at every depth, its chain
links', or its utility type and parameters' types. -/
def MethodBody.occurringTypes : MethodBody → List Ty
  | .compose statements => Statement.listTypes statements
  | .chain links => links.map ChainLink.type
  | .utility type _ parameters => type :: parameters.map Parameter.type
  | .abstract => []

/-- The types a getter body names: its selector's and its filter's. -/
def GetterBody.occurringTypes (b : GetterBody) : List Ty :=
  (b.selector.map Selector.occurringTypes).getD [] ++ (b.filter.map ElementFilter.occurringTypes).getD []

/-- The types a view method's body names. -/
def Body.occurringTypes : Body → List Ty
  | .getter b => b.occurringTypes
  | .method b => b.occurringTypes

/-- A signature's return type, parameter types and imports. -/
def MethodDeclaration.occurringTypes (d : MethodDeclaration) : List Ty :=
  d.returnType :: (d.parameters.map Parameter.type ++ d.imports)

/-- The types a method of the implementation names: its signature's, its
body's and its class imports. -/
def PageObjectMethod.occurringTypes (m : PageObjectMethod) : List Ty :=
  m.declaration.occurringTypes ++ m.body.occurringTypes ++ m.classImports

/-- The types the interface names: its signatures' and its imports. -/
def InterfaceView.occurringTypes (v : InterfaceView) : List Ty :=
  v.methods.flatMap MethodDeclaration.occurringTypes ++ v.imports

/-- The types the implementation names: the type it implements, its methods'
and its imports. -/
def ImplementationView.occurringTypes (v : ImplementationView) : List Ty :=
  v.implements :: (v.methods.flatMap PageObjectMethod.occurringTypes ++ v.imports)

/-- Every type a compiled page object names, in either view, and the type it
implements. -/
def Declaration.occurringTypes (d : Declaration) : List Ty :=
  (d.interface.map InterfaceView.occurringTypes).getD [] ++
    (d.implementation.map ImplementationView.occurringTypes).getD [] ++ d.implements.toList

/-! ## Types read from tokens, declarations and catalogs are no lists -/

theorem Registry.typeOf?_listDepth {token : String} {t : Ty} (typed : Registry.typeOf? token = some t) :
    t.listDepth = 0 := by
  unfold Registry.typeOf? at typed
  -- a registered token names a primitive, a runtime type or a basic element type
  split at typed
  any_goals (obtain rfl := Option.some.inj typed; rfl)
  obtain ⟨c, -, rfl⟩ := Option.map_eq_some_iff.mp typed
  rfl

theorem Registry.resolveAmong_listDepth {allowed : List String} {owner : Option String} {token : String}
    {t : Ty} (resolved : Registry.resolveAmong allowed owner token = .ok t) : t.listDepth = 0 := by
  unfold Registry.resolveAmong at resolved
  split at resolved
  · rename_i found found_eq
    obtain rfl := (Except.ok.injEq _ _).mp resolved
    split at found_eq
    · exact Registry.typeOf?_listDepth found_eq
    · cases found_eq
  · exact absurd resolved failWith_ne_ok

theorem Ty.basicOf_listDepth (capabilities : List Capability) : (Ty.basicOf capabilities).listDepth = 0 := by
  unfold Ty.basicOf
  split <;> rfl

theorem Scope.resolveType_listDepth {owner token : String} {t : Ty}
    (resolved : Scope.resolveType owner token = .ok t) : t.listDepth = 0 := by
  unfold Scope.resolveType at resolved
  split at resolved
  · exact Registry.resolveAmong_listDepth resolved
  · split at resolved
    · obtain ⟨name, -, built⟩ := bind_eq_ok.mp resolved
      obtain rfl := pure_eq_ok.mp built
      rfl
    · exact Registry.resolveAmong_listDepth resolved

theorem Scope.elementType_listDepth {owner : String} {token : Option TypeToken} {t : Ty}
    (typed : Scope.elementType owner token = .ok t) : t.listDepth = 0 := by
  rcases token with _ | ⟨token⟩ | ⟨tokens⟩ <;> rw [Scope.elementType] at typed
  · obtain rfl := (Except.ok.injEq _ _).mp typed
    rfl
  · split at typed
    · obtain rfl := (Except.ok.injEq _ _).mp typed
      rfl
    · split at typed
      · obtain ⟨name, -, built⟩ := bind_eq_ok.mp typed
        obtain rfl := pure_eq_ok.mp built
        rfl
      · split at typed
        · obtain rfl := (Except.ok.injEq _ _).mp typed
          rfl
        · exact absurd typed fail_ne_ok
  · obtain ⟨capabilities, -, built⟩ := bind_eq_ok.mp typed
    obtain rfl := pure_eq_ok.mp built
    exact Ty.basicOf_listDepth capabilities

theorem Scope.typeOfKind_listDepth {owner : String} {kind : ElementKind} {token : Option TypeToken} {t : Ty}
    (typed : Scope.typeOfKind owner kind token = .ok t) : t.listDepth = 0 := by
  unfold Scope.typeOfKind at typed
  split at typed
  · obtain rfl := pure_eq_ok.mp typed
    rfl
  · exact Scope.elementType_listDepth typed

/-- A declared return type is a type read from its token, or a list of one. -/
theorem Scope.declaredReturn_listDepth {owner : String} {spec : MethodSpec} {t : Ty}
    (resolved : Scope.declaredReturn owner spec = .ok (some t)) : t.listDepth ≤ 1 := by
  unfold Scope.declaredReturn at resolved
  split at resolved
  · split at resolved
    · exact absurd resolved fail_ne_ok
    · cases resolved
  · -- a capability list or a single type, made a list with `returnAll`
    have listed : ∀ base : Ty, base.listDepth = 0 →
        (if (spec.returnsAll == some true) = true then base.list else base).listDepth ≤ 1 := by
      intro base flat
      split <;> simp [flat]
    dsimp only at resolved
    split at resolved
    · obtain ⟨base, typed, built⟩ := bind_eq_ok.mp resolved
      obtain rfl := Option.some.inj (pure_eq_ok.mp built)
      obtain ⟨capabilities, -, basic⟩ := bind_eq_ok.mp typed
      obtain rfl := pure_eq_ok.mp basic
      exact listed _ (Ty.basicOf_listDepth capabilities)
    · obtain ⟨base, typed, built⟩ := bind_eq_ok.mp resolved
      obtain rfl := Option.some.inj (pure_eq_ok.mp built)
      exact listed base (Scope.resolveType_listDepth typed)

/-- A component call's result is nothing, a type read from its token, or a list
of one. -/
theorem Scope.componentResult_listDepth {owner : String} {returnType : Option String} {returnsAll : Bool}
    {t : Ty} (resolved : Scope.componentResult owner returnType returnsAll = .ok t) : t.listDepth ≤ 1 := by
  unfold Scope.componentResult at resolved
  split at resolved
  · split at resolved
    · exact absurd resolved fail_ne_ok
    · obtain rfl := (Except.ok.injEq _ _).mp resolved
      exact Nat.zero_le 1
  · obtain ⟨base, typed, built⟩ := bind_eq_ok.mp resolved
    obtain rfl := pure_eq_ok.mp built
    have flat := Scope.resolveType_listDepth typed
    split <;> simp [flat]

/-- No action of the catalog names a list. -/
theorem Action.catalog_listDepth : ∀ a ∈ Action.catalog, ∀ t ∈ a.occurringTypes, t.listDepth = 0 := by
  decide

/-- No matcher kind names a list. -/
theorem MatcherKind.catalog_listDepth :
    ∀ k ∈ MatcherKind.catalog, ∀ t ∈ k.occurringTypes, t.listDepth = 0 := by
  decide

theorem lookupAction_mem_catalog {owner : Option String} {t : Ty} {name elementName : String}
    {isList : Bool} {a : Action} (looked : lookupAction owner t name elementName isList = .ok a) :
    a ∈ Action.catalog := by
  unfold lookupAction at looked
  split at looked
  · exact absurd looked failWith_ne_ok
  · rename_i found found_eq
    split at looked
    · obtain rfl := (Except.ok.injEq _ _).mp looked
      exact List.mem_of_find?_eq_some found_eq
    · exact absurd looked failWith_ne_ok

theorem MatcherKind.lookup_mem_catalog {owner : Option String} {name : String} {k : MatcherKind}
    (looked : MatcherKind.lookup owner name = .ok k) : k ∈ MatcherKind.catalog := by
  unfold MatcherKind.lookup at looked
  split at looked
  · rename_i found found_eq
    obtain rfl := (Except.ok.injEq _ _).mp looked
    exact List.mem_of_find?_eq_some found_eq
  · exact absurd looked failWith_ne_ok

theorem shallow_of_flat {types : List Ty} (flat : ∀ t ∈ types, t.listDepth = 0) : Shallow types :=
  fun t member => Ty.listDepth_le_one (flat t member)

/-! ## Resolved parameters -/

/-- A scalar literal is a boolean, a number or a text. -/
theorem scalarCode_listDepth {literal : LiteralSpec} {code : String} {t : Ty}
    (written : scalarCode literal = some (code, t)) : t.listDepth = 0 := by
  unfold scalarCode at written
  split at written
  any_goals (obtain ⟨-, rfl⟩ := Prod.mk.inj (Option.some.inj written); rfl)
  cases written

/-- A reference to an element whose type is no list is of that type, a
container, or the generic element, or a list of one of them. -/
theorem Element.referenceType_listDepth {e : Element} (flat : e.type.listDepth = 0) :
    e.referenceType.listDepth ≤ 1 := by
  unfold Element.referenceType
  split
  · split <;> simp [flat]
  · exact Nat.zero_le 1
  · split <;> simp [Ty.element, Ty.listDepth]

/-- One step of resolving arguments, whatever the types expected: the argument
resolves, and the rest resolves after it. -/
theorem Resolver.resolveEach_cons_resolves {r : Resolver} {arg : ArgumentSpec} {rest : List ArgumentSpec}
    {expected : Option (List Ty)} {done values : List Parameter}
    (resolved : r.resolveEach (arg :: rest) expected done = .ok values) :
    ∃ parameter later, r.resolveOne arg = .ok parameter ∧
      r.resolveEach rest later (parameter.toList ++ done) = .ok values := by
  rcases expected with _ | _ | ⟨t, ts⟩
  · rw [Resolver.resolveEach.eq_3 _ _ _ _ _ (fun _ _ expected => by cases expected)] at resolved
    obtain ⟨parameter, resolvedOne, resolved⟩ := bind_eq_ok.mp resolved
    exact ⟨parameter, none, resolvedOne, by cases parameter <;> exact resolved⟩
  · rw [Resolver.resolveEach.eq_3 _ _ _ _ _ (fun _ _ expected => by cases expected)] at resolved
    obtain ⟨parameter, resolvedOne, resolved⟩ := bind_eq_ok.mp resolved
    exact ⟨parameter, none, resolvedOne, by cases parameter <;> exact resolved⟩
  · obtain ⟨parameter, resolvedOne, -, resolved⟩ := Resolver.resolveEach_cons_eq_ok resolved
    exact ⟨parameter, some ts, resolvedOne, resolved⟩

/-- A selector's parameters take its placeholders' primitive types. -/
theorem Resolver.selectorOf_listDepth {r : Resolver} {spec : SelectorSpec} {literalOnly : Bool}
    {s : Selector} (resolved : r.selectorOf spec literalOnly = .ok s) :
    ∀ t ∈ s.occurringTypes, t.listDepth = 0 := by
  obtain ⟨-, -, typed, -⟩ := Resolver.selectorOf_eq_ok resolved
  intro t member
  rw [Selector.occurringTypes, typed] at member
  obtain ⟨p, -, rfl⟩ := List.mem_map.mp member
  rfl

/-- The elements a resolver looks up have types that are no lists. -/
def Resolver.Flat (r : Resolver) : Prop :=
  ∀ name e, r.lookup name = some e → e.type.listDepth = 0

section Resolution

variable {r : Resolver} (flat : r.Flat)
include flat

/-- A literal is a locator, a scalar, or a reference to an element. -/
theorem Resolver.literalOf_listDepth {literal : LiteralSpec} {p : Parameter}
    (resolved : r.literalOf literal = .ok p) : p.type.listDepth ≤ 1 := by
  unfold Resolver.literalOf at resolved
  split at resolved
  · obtain ⟨_, -, built⟩ := bind_eq_ok.mp resolved
    obtain rfl := pure_eq_ok.mp built
    exact Nat.zero_le 1
  · obtain ⟨e, found, resolved⟩ := bind_eq_ok.mp resolved
    obtain ⟨⟨⟩, -, resolved⟩ := bind_eq_ok.mp resolved
    obtain ⟨⟨⟩, -, resolved⟩ := bind_eq_ok.mp resolved
    obtain ⟨_, -, resolved⟩ := bind_eq_ok.mp resolved
    obtain ⟨⟨⟩, -, built⟩ := bind_eq_ok.mp resolved
    obtain rfl := pure_eq_ok.mp built
    exact Element.referenceType_listDepth (flat _ e (Resolver.element_eq_ok.mp found))
  · split at resolved
    · rename_i written
      obtain rfl := (Except.ok.injEq _ _).mp resolved
      exact Ty.listDepth_le_one (scalarCode_listDepth written)
    · exact absurd resolved (by simp [Resolver.refuse])

/-- An argument resolves to a parameter of a registered type or to a literal. -/
theorem Resolver.resolveOne_listDepth {arg : ArgumentSpec} {p : Parameter}
    (resolved : r.resolveOne arg = .ok (some p)) : p.type.listDepth ≤ 1 := by
  cases arg with
  | value literal declared =>
    obtain ⟨code, t, written, rfl⟩ := Resolver.resolveOne_value_code resolved
    exact Resolver.literalOf_listDepth flat written
  | named name type =>
    rw [Resolver.resolveOne.eq_2] at resolved
    obtain ⟨t, typed, built⟩ := bind_eq_ok.mp resolved
    obtain rfl := Option.some.inj (pure_eq_ok.mp built)
    exact Ty.listDepth_le_one (Registry.resolveAmong_listDepth typed)
  | predicate statements =>
    rw [Resolver.resolveOne.eq_1] at resolved
    cases resolved

theorem Resolver.resolveEach_listDepth {args : List ArgumentSpec} {expected : Option (List Ty)}
    {done values : List Parameter} (before : Shallow (done.map Parameter.type))
    (resolved : r.resolveEach args expected done = .ok values) : Shallow (values.map Parameter.type) := by
  -- the parameters resolved so far are kept, reversed, and each argument adds its own
  induction args generalizing expected done with
  | nil =>
    rw [Resolver.resolveEach.eq_1, Except.ok.injEq] at resolved
    subst resolved
    intro t member
    rw [List.map_reverse, List.mem_reverse] at member
    exact before t member
  | cons arg rest restIH =>
    obtain ⟨parameter, later, resolvedOne, resolved⟩ := Resolver.resolveEach_cons_resolves resolved
    refine restIH ?_ resolved
    cases parameter with
    | none => exact before
    | some p =>
      rw [Option.toList_some, List.singleton_append, List.map_cons, shallow_cons]
      exact ⟨Resolver.resolveOne_listDepth flat resolvedOne, before⟩

theorem Resolver.resolve_listDepth {args : List ArgumentSpec} {expected : Option (List Ty)}
    {parameters : List Parameter} (resolved : r.resolve args expected = .ok parameters) :
    Shallow (parameters.map Parameter.type) := by
  unfold Resolver.resolve at resolved
  obtain ⟨⟨⟩, -, resolved⟩ := bind_eq_ok.mp resolved
  obtain ⟨values, each, resolved⟩ := bind_eq_ok.mp resolved
  obtain ⟨⟨⟩, -, built⟩ := bind_eq_ok.mp resolved
  obtain rfl := pure_eq_ok.mp built
  exact Resolver.resolveEach_listDepth flat (by simp) each

theorem Resolver.resolveShapes_listDepth {args : List ArgumentSpec} {shapes : List (List Ty)}
    {first : Option CompileError} {parameters : List Parameter}
    (resolved : r.resolveShapes args shapes first = .ok parameters) :
    Shallow (parameters.map Parameter.type) := by
  -- the first shape that fits gives the parameters
  induction shapes generalizing first with
  | nil =>
    cases first with
    | some e =>
      rw [Resolver.resolveShapes] at resolved
      cases resolved
    | none =>
      rw [Resolver.resolveShapes, Except.ok.injEq] at resolved
      subst resolved
      exact shallow_nil
  | cons shape rest restIH =>
    rw [Resolver.resolveShapes] at resolved
    split at resolved
    · rename_i fitting
      obtain rfl := (Except.ok.injEq _ _).mp resolved
      exact Resolver.resolve_listDepth flat fitting
    · split at resolved
      · exact restIH resolved
      · cases resolved

theorem Resolver.resolveAction_listDepth {a : Action} {args : List ArgumentSpec}
    {parameters : List Parameter} (resolved : r.resolveAction a args = .ok parameters) :
    Shallow (parameters.map Parameter.type) := by
  unfold Resolver.resolveAction at resolved
  obtain ⟨shapes, -, resolved⟩ := bind_eq_ok.mp resolved
  exact Resolver.resolveShapes_listDepth flat resolved

/-- A matcher tests a catalog type and takes resolved arguments. -/
theorem Resolver.matcher_listDepth {spec : MatcherSpec} {operand : Ty} {m : Matcher}
    (matched : r.matcher spec operand = .ok m) : Shallow m.occurringTypes := by
  unfold Resolver.matcher at matched
  obtain ⟨kind, looked, matched⟩ := bind_eq_ok.mp matched
  split at matched
  · exact absurd matched (by simp [Resolver.refuse])
  · obtain ⟨parameters, resolved, built⟩ := bind_eq_ok.mp matched
    obtain rfl := pure_eq_ok.mp built
    rw [Matcher.occurringTypes, shallow_append]
    exact ⟨shallow_of_flat (MatcherKind.catalog_listDepth kind (MatcherKind.lookup_mem_catalog looked)),
      Resolver.resolve_listDepth flat resolved⟩

end Resolution

/-! ## Declared elements -/

/-- An element whose own type is no list, and whose parameters, selector and
filter nest lists at most once. -/
structure Element.ShallowTyped (e : Element) : Prop where
  type : e.type.listDepth = 0
  parameters : Shallow (e.parameters.map Parameter.type)
  selector : Shallow ((e.selector.map Selector.occurringTypes).getD [])
  filter : Shallow ((e.filter.map ElementFilter.occurringTypes).getD [])

theorem shallow_namedOnly {parameters : List Parameter} (shallow : Shallow (parameters.map Parameter.type)) :
    Shallow ((namedOnly parameters).map Parameter.type) := by
  intro t member
  obtain ⟨p, kept, rfl⟩ := List.mem_map.mp member
  exact shallow p.type (List.mem_map_of_mem (List.mem_filter.mp kept).1)

/-- The resolver of a scope whose elements have types that are no lists. -/
theorem Scope.resolver_flat {s : Scope} (declared : ∀ x ∈ s.elements, x.ShallowTyped)
    (owner : String) : (s.resolver owner).Flat :=
  fun _ e found => (declared e (Scope.lookup_eq_some found).1).type

theorem Element.selectorParameters_types (e : Element) :
    e.selectorParameters.map Parameter.type = (e.selector.map Selector.occurringTypes).getD [] := by
  unfold Element.selectorParameters
  cases e.selector <;> rfl

/-- An element takes the parameters of its parent, then those of its selector. -/
theorem Element.parameters_shallow {e parent : Element}
    (parameters : e.parameters = parent.parameters ++ e.selectorParameters)
    (inherited : Shallow (parent.parameters.map Parameter.type))
    (selector : Shallow ((e.selector.map Selector.occurringTypes).getD [])) :
    Shallow (e.parameters.map Parameter.type) := by
  rw [parameters, List.map_append, shallow_append, Element.selectorParameters_types]
  exact ⟨inherited, selector⟩

/-- A getter takes its element's named parameters, then its filter's and its
matcher's. -/
theorem Element.ShallowTyped.getterParameters {e : Element} (shallow : e.ShallowTyped) :
    Shallow (e.getterParameters.map Parameter.type) := by
  rw [Element.getterParameters_eq, List.map_append, shallow_append]
  refine ⟨shallow_namedOnly shallow.parameters, ?_⟩
  have filtered := shallow.filter
  revert filtered
  cases e.filter with
  | none => exact fun _ => shallow_nil
  | some f =>
    simp only [Option.map_some, Option.getD_some, ElementFilter.occurringTypes,
      ElementFilter.namedParameters, List.map_append, shallow_append]
    rintro ⟨⟨-, parameters⟩, matched⟩
    refine ⟨shallow_namedOnly parameters, ?_⟩
    revert matched
    cases f.matcher with
    | none => exact fun _ => shallow_nil
    | some m =>
      simp only [Option.map_some, Option.getD_some, Matcher.occurringTypes, shallow_append]
      exact fun matched => shallow_namedOnly matched.2

/-- An element's getter returns its type or a list of it, takes parameters that
nest lists at most once, and imports their closure and its type's. -/
theorem Element.ShallowTyped.getter {e : Element} (shallow : e.ShallowTyped) :
    Shallow e.getter.occurringTypes := by
  have returns : e.getterReturnType.listDepth ≤ 1 := by
    unfold Element.getterReturnType
    split <;> simp [shallow.type]
  have signature : Shallow (e.getterReturnType :: e.getterParameters.map Parameter.type) :=
    shallow_cons.mpr ⟨returns, shallow.getterParameters⟩
  simp only [PageObjectMethod.occurringTypes, Element.getter, MethodDeclaration.occurringTypes,
    Body.occurringTypes, GetterBody.occurringTypes, signatureImports, shallow_cons, shallow_append]
  exact ⟨⟨⟨returns, shallow.getterParameters, shallow_requiredImports signature⟩, shallow.selector,
    shallow.filter⟩, shallow_requiredImports (shallow_of_flat (by simp [shallow.type]))⟩

/-- A filter applies a catalog action or calls a component, with resolved
arguments and matcher. -/
theorem Scope.filterOf_shallow {s : Scope} {e : Element} {owner : String} {spec : FilterSpec}
    {f : ElementFilter} (declared : ∀ x ∈ s.elements, x.ShallowTyped)
    (filtered : s.filterOf e owner spec = .ok f) : Shallow f.occurringTypes := by
  have flat := Scope.resolver_flat declared owner
  unfold Scope.filterOf at filtered
  dsimp only at filtered
  have checked := of_ite_fail_eq_ok filtered
  split at checked
  · -- a component: no action, its arguments, and a matcher of its own kind
    obtain ⟨parameters, resolved, checked⟩ := bind_eq_ok.mp checked
    have arguments := Resolver.resolve_listDepth flat resolved
    split at checked
    · obtain ⟨kind, -, checked⟩ := bind_eq_ok.mp checked
      obtain ⟨m, matched, checked⟩ := bind_eq_ok.mp checked
      obtain ⟨_, picked, built⟩ := bind_eq_ok.mp checked
      obtain rfl := pure_eq_ok.mp picked
      obtain rfl := pure_eq_ok.mp built
      simp only [ElementFilter.occurringTypes, Option.map_none, Option.map_some, Option.getD_none,
        Option.getD_some, shallow_append]
      exact ⟨⟨shallow_nil, arguments⟩, Resolver.matcher_listDepth flat matched⟩
    · obtain ⟨_, picked, built⟩ := bind_eq_ok.mp checked
      obtain rfl := pure_eq_ok.mp picked
      obtain rfl := pure_eq_ok.mp built
      simp only [ElementFilter.occurringTypes, Option.map_none, Option.getD_none, shallow_append]
      exact ⟨⟨shallow_nil, arguments⟩, shallow_nil⟩
  · -- an action of the element's type, its arguments, and a matcher of its result
    obtain ⟨action, looked, checked⟩ := bind_eq_ok.mp checked
    obtain ⟨parameters, resolved, checked⟩ := bind_eq_ok.mp checked
    have applied : Shallow (action.occurringTypes ++ parameters.map Parameter.type) :=
      shallow_append.mpr ⟨shallow_of_flat (Action.catalog_listDepth action (lookupAction_mem_catalog looked)),
        Resolver.resolveAction_listDepth flat resolved⟩
    split at checked
    · obtain ⟨m, matched, checked⟩ := bind_eq_ok.mp checked
      obtain ⟨_, picked, built⟩ := bind_eq_ok.mp checked
      obtain rfl := pure_eq_ok.mp picked
      obtain rfl := pure_eq_ok.mp built
      simp only [ElementFilter.occurringTypes, Option.map_some, Option.getD_some]
      exact shallow_append.mpr ⟨applied, Resolver.matcher_listDepth flat matched⟩
    · obtain ⟨_, picked, built⟩ := bind_eq_ok.mp (of_ite_fail_eq_ok checked)
      obtain rfl := pure_eq_ok.mp picked
      obtain rfl := pure_eq_ok.mp built
      simp only [ElementFilter.occurringTypes, Option.map_some, Option.map_none, Option.getD_some,
        Option.getD_none]
      exact shallow_append.mpr ⟨applied, shallow_nil⟩

/-- An element's own selector is resolved from its declaration. -/
theorem Scope.ownSelector_shallow {s : Scope} {owner : String} {spec : Option SelectorSpec}
    {selector : Option Selector} (selected : s.ownSelector owner spec = .ok selector) :
    ∀ sel ∈ selector, Shallow sel.occurringTypes := by
  intro sel member
  unfold Scope.ownSelector at selected
  split at selected
  · obtain ⟨resolved, resolvedOk, built⟩ := bind_eq_ok.mp selected
    obtain rfl := pure_eq_ok.mp built
    obtain rfl := Option.some.inj member
    exact shallow_of_flat (Resolver.selectorOf_listDepth resolvedOk)
  · obtain rfl := pure_eq_ok.mp selected
    cases member

/-- The root's selector is resolved from the document's. -/
theorem rootSelectorOf_shallow {s : Scope} {owner : String} {spec : Option SelectorSpec}
    {selector : Option Selector} (selected : rootSelectorOf s owner spec = .ok selector) :
    ∀ sel ∈ selector, Shallow sel.occurringTypes := by
  intro sel member
  unfold rootSelectorOf at selected
  split at selected
  · obtain ⟨resolved, resolvedOk, selected⟩ := bind_eq_ok.mp selected
    -- a root selector that takes parameters is refused
    obtain rfl := pure_eq_ok.mp (of_ite_fail_eq_ok selected)
    obtain rfl := Option.some.inj member
    exact shallow_of_flat (Resolver.selectorOf_listDepth resolvedOk)
  · obtain rfl := pure_eq_ok.mp selected
    cases member

/-- An element built under a parent whose parameters nest lists at most once,
beside elements that nest none deeper. -/
theorem Scope.build_shallowTyped {s : Scope} {parent : Element} {spec : ElementSpec} {e : Element}
    (declared : ∀ x ∈ s.elements, x.ShallowTyped)
    (inherited : Shallow (parent.parameters.map Parameter.type))
    (built : s.build parent spec = .ok e) : e.ShallowTyped := by
  have parameters := Scope.build_inherits built
  unfold Scope.build at built
  obtain ⟨selector, selected, built⟩ := bind_eq_ok.mp built
  -- the declared selector, or a container's default one, which takes no parameters
  have selectorShallow : Shallow ((((if elementKindOf spec.type == .container then
      selector <|> some Selector.containerDefault else selector)).map Selector.occurringTypes).getD []) := by
    have own := Scope.ownSelector_shallow selected
    split
    · cases selector with
      | none => exact shallow_nil
      | some sel => exact own sel rfl
    · exact shallow_optionGetD own
  split at built
  · exact absurd built fail_ne_ok
  · obtain ⟨-, -, built⟩ := bind_eq_ok.mp built
    obtain ⟨type, typed, built⟩ := bind_eq_ok.mp built
    dsimp only at built
    split at built
    · obtain ⟨filter, filtered, built⟩ := bind_eq_ok.mp built
      obtain ⟨⟨⟩, -, built⟩ := bind_eq_ok.mp built
      obtain rfl := pure_eq_ok.mp built
      exact ⟨Scope.typeOfKind_listDepth typed, Element.parameters_shallow parameters inherited selectorShallow,
        selectorShallow, Scope.filterOf_shallow declared filtered⟩
    · obtain rfl := pure_eq_ok.mp built
      exact ⟨Scope.typeOfKind_listDepth typed, Element.parameters_shallow parameters inherited selectorShallow,
        selectorShallow, shallow_nil⟩

/-- The root takes the document's type and selector, which has no parameters. -/
theorem rootElement_shallowTyped {s : Scope} {spec : PageObjectSpec} {root : Element}
    (built : rootElement s spec = .ok root) : root.ShallowTyped := by
  unfold rootElement at built
  split at built
  · exact absurd built fail_ne_ok
  · split at built
    · exact absurd built fail_ne_ok
    · obtain ⟨selector, selected, built⟩ := bind_eq_ok.mp built
      obtain ⟨type, typed, built⟩ := bind_eq_ok.mp built
      obtain rfl := pure_eq_ok.mp built
      exact ⟨Scope.elementType_listDepth typed, shallow_nil,
        shallow_optionGetD (rootSelectorOf_shallow selected), shallow_nil⟩

/-- Every declared element of an accepted page object has a type that is no
list, and parameters, a selector and a filter that nest lists at most once. -/
theorem declareElements_shallowTyped {settings : Settings} {spec : PageObjectSpec} {s : Scope}
    (run : declareElements settings spec = .ok s) : ∀ e ∈ s.elements, e.ShallowTyped :=
  @declareElements_preserves_beneath (fun elements => ∀ e ∈ elements, e.ShallowTyped)
    (fun built e member => by
      obtain rfl := List.mem_singleton.mp member
      exact rootElement_shallowTyped built)
    (fun {s} {parent} {spec} {e} member built shallow x listed => by
      rcases List.mem_append.mp listed with old | new
      · exact shallow x old
      · obtain rfl := List.mem_singleton.mp new
        exact Scope.build_shallowTyped shallow (shallow parent member).parameters built)
    settings spec s run

/-! ## Statements -/

/-- A type a statement tree names is named by one statement in it, at some depth. -/
theorem Statement.mem_listTypes {statements : List Statement} {t : Ty}
    (named : t ∈ Statement.listTypes statements) :
    ∃ (below : Nat) (st : Statement), st.Within below statements ∧ t ∈ st.ownTypes := by
  -- one induction over the collector and its list: a statement's own types, then
  -- those below its predicate and its filter, which stand one level deeper
  refine Statement.listTypes.induct
    (fun st => ∀ t ∈ st.occurringTypes, t ∈ st.ownTypes ∨
      ∃ (below : Nat) (x : Statement), (x.Within below st.predicate ∨ x.Within below st.filter) ∧
        t ∈ x.ownTypes)
    (fun statements => ∀ t ∈ Statement.listTypes statements,
      ∃ (below : Nat) (st : Statement), st.Within below statements ∧ t ∈ st.ownTypes)
    (fun _ _ _ _ _ _ predicate filter _ _ _ _ predicateIH filterIH t named => ?_)
    (fun t named => ?_)
    (fun st rest stIH restIH t named => ?_)
    statements t named
  · rw [Statement.occurringTypes.eq_1, List.mem_append, List.mem_append] at named
    rcases named with (own | inPredicate) | inFilter
    · exact .inl own
    · obtain ⟨below, x, within, owned⟩ := predicateIH t inPredicate
      exact .inr ⟨below, x, .inl within, owned⟩
    · obtain ⟨below, x, within, owned⟩ := filterIH t inFilter
      exact .inr ⟨below, x, .inr within, owned⟩
  · exact absurd named List.not_mem_nil
  · rw [Statement.listTypes.eq_2, List.mem_append] at named
    rcases named with inHead | inRest
    · rcases stIH t inHead with own | ⟨below, x, nested, owned⟩
      · exact ⟨0, st, Statement.within_cons.mpr (.inl ⟨rfl, rfl⟩), own⟩
      · exact ⟨below + 1, x, Statement.within_cons.mpr (.inr (.inl ⟨below, rfl, nested⟩)), owned⟩
    · obtain ⟨below, x, within, owned⟩ := restIH t inRest
      exact ⟨below, x, Statement.within_cons.mpr (.inr (.inr within)), owned⟩

/-- An action's result nests lists at most once, when its predicate's results do. -/
theorem Action.resultAfter_listDepth {a : Action} {predicate : List Statement} (listed : a ∈ Action.catalog)
    (predicated : ∀ x ∈ predicate, x.returnType.listDepth ≤ 1) : (a.resultAfter predicate).listDepth ≤ 1 := by
  have own : a.returnType.listDepth ≤ 1 :=
    Ty.listDepth_le_one (Action.catalog_listDepth a listed a.returnType List.mem_cons_self)
  unfold Action.resultAfter
  split
  · split
    · rename_i last found
      exact predicated last (List.mem_of_getLast? found)
    · exact own
  · exact own

section Statements

variable {s : Scope} {owner : String} (declared : ∀ x ∈ s.elements, x.ShallowTyped)
include declared

/-- A call applies a catalog action or calls a component, with resolved
arguments; its result nests lists at most once when its predicate's results do. -/
theorem Scope.statementCall_shallow {e : Element} {apply : String} {args : List ArgumentSpec}
    {returnType : Option String} {returnsAll : Bool} {predicate : List Statement}
    {action : Option Action} {parameters : List Parameter} {result : Ty} {fanOut : Bool}
    (called : s.statementCall owner e apply args returnType returnsAll predicate =
      .ok (action, parameters, result, fanOut))
    (predicated : ∀ x ∈ predicate, x.returnType.listDepth ≤ 1) :
    Shallow ((action.map Action.occurringTypes).getD [] ++ parameters.map Parameter.type) ∧
      result.listDepth ≤ 1 := by
  have flat := Scope.resolver_flat declared owner
  have resultShallow : result.listDepth ≤ 1 := by
    rcases statementCall_result called with ⟨-, -, -, typed⟩ | ⟨-, a, -, looked, rfl, -⟩
    · exact Scope.componentResult_listDepth typed
    · exact Action.resultAfter_listDepth (lookupAction_mem_catalog looked) predicated
  refine ⟨?_, resultShallow⟩
  unfold Scope.statementCall at called
  split at called
  · exact absurd called fail_ne_ok
  · obtain ⟨_, resolved, called⟩ := bind_eq_ok.mp called
    obtain ⟨_, -, called⟩ := bind_eq_ok.mp called
    cases pure_eq_ok.mp called
    exact shallow_append.mpr ⟨shallow_nil, Resolver.resolve_listDepth flat resolved⟩
  · split at called
    · exact absurd called fail_ne_ok
    · obtain ⟨a, looked, called⟩ := bind_eq_ok.mp called
      obtain ⟨_, resolved, called⟩ := bind_eq_ok.mp called
      cases pure_eq_ok.mp called
      exact shallow_append.mpr ⟨shallow_of_flat (Action.catalog_listDepth a (lookupAction_mem_catalog looked)),
        Resolver.resolveAction_listDepth flat resolved⟩

/-- A statement's matcher is resolved against its result, and gives a boolean. -/
theorem Scope.statementMatcher_shallow {spec : Option MatcherSpec} {result typed : Ty}
    {matcher : Option Matcher} (matched : s.statementMatcher owner spec result = .ok (matcher, typed))
    (resultShallow : result.listDepth ≤ 1) :
    Shallow ((matcher.map Matcher.occurringTypes).getD []) ∧ typed.listDepth ≤ 1 := by
  have flat := Scope.resolver_flat declared owner
  cases spec with
  | none =>
    rw [Scope.statementMatcher] at matched
    cases pure_eq_ok.mp matched
    exact ⟨shallow_nil, resultShallow⟩
  | some spec =>
    rw [Scope.statementMatcher] at matched
    obtain ⟨resolved, resolvedOk, built⟩ := bind_eq_ok.mp matched
    cases pure_eq_ok.mp built
    exact ⟨Resolver.matcher_listDepth flat resolvedOk, Nat.zero_le 1⟩

/-- A compiled statement names types that nest lists at most once, once the
statements of its predicate do. -/
theorem Scope.compileStatement_shallow {depth : Nat} {isLast : Bool} {spec : StatementSpec}
    {st : Statement} (compiled : s.compileStatement owner depth isLast spec = .ok st)
    (predicated : ∀ x ∈ st.predicate, Shallow x.ownTypes) : Shallow st.ownTypes := by
  obtain ⟨e, found, -, -, -, getterParameters, -⟩ := compileStatement_eq_ok compiled
  obtain ⟨e', result, typed, found', -, -, called, matched, -, returned, -⟩ := compileStatement_parts compiled
  obtain rfl : e = e' := Option.some.inj (found.symm.trans found')
  have typedElement := declared e (Scope.lookup_eq_some found).1
  obtain ⟨call, resultShallow⟩ := Scope.statementCall_shallow declared called
    (fun x listed => (shallow_cons.mp (predicated x listed)).1)
  obtain ⟨matcherShallow, typedShallow⟩ := Scope.statementMatcher_shallow declared matched resultShallow
  obtain ⟨actionShallow, parametersShallow⟩ := shallow_append.mp call
  rw [Statement.ownTypes, returned, getterParameters]
  simp only [shallow_cons, shallow_append]
  exact ⟨Ty.listDepth_fanOut st.fanOut typedShallow,
    ⟨⟨actionShallow, typedElement.getterParameters⟩, parametersShallow⟩, matcherShallow⟩

/-- Every statement of a compiled list, at every depth below it, names types
that nest lists at most once. -/
theorem Scope.compileSequence_ownTypes {depth : Nat} {specs : List StatementSpec}
    {statements : List Statement} (compiled : s.compileSequence owner depth specs = .ok statements) :
    ∀ (below : Nat) (st : Statement), st.Within below statements → Shallow st.ownTypes :=
  fun below st within => (compileSequence_reaches_after (fun _ st => Shallow st.ownTypes)
    (fun stated predicated => Scope.compileStatement_shallow declared stated predicated)
    compiled below st within).1

theorem Scope.compileSequence_shallow {depth : Nat} {specs : List StatementSpec}
    {statements : List Statement} (compiled : s.compileSequence owner depth specs = .ok statements) :
    Shallow (Statement.listTypes statements) := by
  intro t named
  obtain ⟨below, st, within, owned⟩ := Statement.mem_listTypes named
  exact Scope.compileSequence_ownTypes declared compiled below st within t owned

end Statements

/-! ## Methods -/

/-- A compiled method whose signature and body nest lists at most once. -/
structure CompiledMethod.ShallowTyped (m : CompiledMethod) : Prop where
  returnType : m.returnType.listDepth ≤ 1
  parameters : Shallow (m.parameters.map Parameter.type)
  body : Shallow m.body.occurringTypes

/-- The parameters a statement passes by name are among those it names. -/
theorem Statement.namedArguments_shallow {st : Statement} (shallow : Shallow st.ownTypes) :
    Shallow (st.namedArguments.map Parameter.type) := by
  simp only [Statement.ownTypes, shallow_cons, shallow_append] at shallow
  obtain ⟨-, ⟨⟨-, elementParameters⟩, parameters⟩, matcher⟩ := shallow
  unfold Statement.namedArguments
  rw [List.map_append, List.map_append, shallow_append, shallow_append]
  refine ⟨⟨shallow_namedOnly elementParameters, shallow_namedOnly parameters⟩, ?_⟩
  revert matcher
  cases st.matcher with
  | none => exact fun _ => shallow_nil
  | some m => exact fun matcher => shallow_namedOnly (shallow_append.mp matcher).2

/-- A method returns the type it declares, or nothing when it declares none. -/
theorem Scope.declaredReturn_getD_listDepth {owner : String} {spec : MethodSpec} {returnType : Option Ty}
    (resolved : Scope.declaredReturn owner spec = .ok returnType) : (returnType.getD .void).listDepth ≤ 1 := by
  cases returnType with
  | none => exact Nat.zero_le 1
  | some t => exact Scope.declaredReturn_listDepth resolved

/-- A link after the first of a chain names a page-object type. -/
theorem Scope.chainLink_listDepth {owner : String} {spec : ChainLinkSpec} {l : ChainLink}
    (built : Scope.chainLink owner spec = .ok l) : l.type.listDepth = 0 := by
  unfold Scope.chainLink at built
  split at built
  · exact absurd built fail_ne_ok
  · obtain ⟨t, typed, built⟩ := bind_eq_ok.mp built
    obtain rfl := pure_eq_ok.mp built
    obtain ⟨name, rfl⟩ := pageObjectType_eq_ok typed
    rfl

/-- A chain returns its last link's type, a list of it when a link returns all;
that type is no list when no link's is. -/
theorem chainResult_listDepth {links : List ChainLink} {start : Ty}
    (flat : ∀ l ∈ links, l.type.listDepth = 0) (flatStart : start.listDepth = 0) :
    (if links.any ChainLink.returnsAll = true then Ty.list ((links.getLast?.map ChainLink.type).getD start)
      else (links.getLast?.map ChainLink.type).getD start).listDepth ≤ 1 := by
  have last : ((links.getLast?.map ChainLink.type).getD start).listDepth = 0 := by
    cases found : links.getLast? with
    | none => exact flatStart
    | some l => exact flat l (List.mem_of_getLast? found)
  split <;> simp [last]

section Methods

variable {s : Scope} {owner : String} (declared : ∀ x ∈ s.elements, x.ShallowTyped)
include declared

theorem Scope.compileAbstract_shallowTyped {spec : MethodSpec} {m : CompiledMethod}
    (compiled : s.compileAbstract owner spec = .ok m) : m.ShallowTyped := by
  have flat := Scope.resolver_flat declared owner
  rw [Scope.compileAbstract.eq_1] at compiled
  obtain ⟨parameters, resolved, compiled⟩ := bind_eq_ok.mp compiled
  obtain ⟨returnType, returned, built⟩ := bind_eq_ok.mp compiled
  obtain rfl := pure_eq_ok.mp built
  exact ⟨Scope.declaredReturn_getD_listDepth returned,
    shallow_namedOnly (Resolver.resolve_listDepth flat resolved), shallow_nil⟩

theorem Scope.compileUtility_shallowTyped {spec : MethodSpec} {utility : UtilitySpec} {m : CompiledMethod}
    (compiled : s.compileUtility owner spec utility = .ok m) : m.ShallowTyped := by
  have flat := Scope.resolver_flat declared owner
  rw [Scope.compileUtility.eq_1] at compiled
  split at compiled
  · exact absurd compiled fail_ne_ok
  · obtain ⟨type, typed, compiled⟩ := bind_eq_ok.mp compiled
    obtain ⟨parameters, resolved, compiled⟩ := bind_eq_ok.mp compiled
    obtain ⟨returnType, returned, built⟩ := bind_eq_ok.mp compiled
    obtain rfl := pure_eq_ok.mp built
    have arguments := Resolver.resolve_listDepth flat resolved
    obtain ⟨name, rfl⟩ := pageObjectType_eq_ok typed
    exact ⟨Scope.declaredReturn_getD_listDepth returned, shallow_namedOnly arguments,
      shallow_cons.mpr ⟨Nat.zero_le 1, arguments⟩⟩

theorem Scope.compileChain_shallowTyped {spec : MethodSpec} {links : List ChainLinkSpec}
    {m : CompiledMethod} (compiled : s.compileChain owner spec links = .ok m) : m.ShallowTyped := by
  unfold Scope.compileChain at compiled
  dsimp only at compiled
  split at compiled
  · exact absurd compiled fail_ne_ok
  · split at compiled
    · exact absurd compiled fail_ne_ok
    · obtain ⟨first, started, compiled⟩ := bind_eq_ok.mp compiled
      obtain ⟨tail, linked, built⟩ := bind_eq_ok.mp compiled
      obtain rfl := pure_eq_ok.mp built
      have typedFirst := declared first (Scope.lookup_eq_some (Scope.chainStart_eq_ok started).1).1
      have tailFlat : ∀ l ∈ tail, l.type.listDepth = 0 := by
        obtain ⟨-, rfl⟩ := mapM_eq_ok_iff.mp linked
        intro l member
        obtain ⟨link, -, found⟩ := List.mem_filterMap.mp member
        cases built : Scope.chainLink owner link with
        | error => simp [built, Except.toOption] at found
        | ok l' =>
          simp only [built, Except.toOption, Option.some.injEq] at found
          exact Scope.chainLink_listDepth (found ▸ built)
      -- the first link is the component's own type, the others page-object types
      have linksFlat : ∀ {head : ChainLink}, head.type = first.type →
          ∀ l ∈ head :: tail, l.type.listDepth = 0 := by
        intro head headType l member
        rcases List.mem_cons.mp member with rfl | later
        · rw [headType]
          exact typedFirst.type
        · exact tailFlat l later
      refine ⟨chainResult_listDepth (linksFlat rfl) typedFirst.type, typedFirst.getterParameters, ?_⟩
      intro t member
      obtain ⟨l, listed, rfl⟩ := List.mem_map.mp member
      exact Ty.listDepth_le_one (linksFlat rfl l listed)

theorem Scope.compileCompose_shallowTyped {spec : MethodSpec} {specs : List StatementSpec}
    {m : CompiledMethod} (compiled : s.compileCompose owner spec specs = .ok m) : m.ShallowTyped := by
  obtain ⟨statements, -, sequenced, body, parameters, -⟩ := Scope.compileCompose_built compiled
  obtain ⟨statements', sequenced', -, ⟨last, found, returned⟩, -⟩ := Scope.compileCompose_returnType compiled
  obtain rfl : statements = statements' := Except.ok.inj (sequenced.symm.trans sequenced')
  have owned := Scope.compileSequence_ownTypes declared sequenced
  refine ⟨?_, ?_, ?_⟩
  · -- the method returns what its last statement returns
    rw [returned]
    exact (shallow_cons.mp (owned 0 last (.listed (List.mem_of_getLast? found)))).1
  · -- its parameters are those its statements pass by name, at every depth
    intro t member
    obtain ⟨p, collected, rfl⟩ := List.mem_map.mp member
    rw [parameters, mem_collectParameters (Scope.compileSequence_consistent sequenced)] at collected
    obtain ⟨below, st, within, named⟩ := collected
    exact Statement.namedArguments_shallow (owned below st within) p.type (List.mem_map_of_mem named)
  · rw [body]
    exact Scope.compileSequence_shallow declared sequenced

/-- Every compiled method has a signature and a body that nest lists at most once. -/
theorem Scope.compileMethod_shallowTyped {isInterface : Bool} {spec : MethodSpec} {m : CompiledMethod}
    (compiled : s.compileMethod isInterface spec = .ok m) : m.ShallowTyped := by
  obtain ⟨_, body⟩ := Scope.compileMethod_eq_ok compiled
  rcases body with ⟨-, -, abstract⟩ | ⟨_, -, compose⟩ | ⟨_, -, -, chain⟩ | ⟨_, -, -, -, utility⟩
  · exact Scope.compileAbstract_shallowTyped declared abstract
  · exact Scope.compileCompose_shallowTyped declared compose
  · exact Scope.compileChain_shallowTyped declared chain
  · exact Scope.compileUtility_shallowTyped declared utility

end Methods

/-! ## The views -/

/-- The types a method body imports beside its signature are among those it
names, or the types of the elements it looks up. -/
theorem MethodBody.types_shallow {lookup : String → Option Element}
    (found : ∀ name e, lookup name = some e → e.type.listDepth = 0) {b : MethodBody}
    (shallow : Shallow b.occurringTypes) : Shallow (b.types lookup) := by
  cases b with
  | compose statements =>
    intro t member
    obtain ⟨st, -, looked⟩ := List.mem_filterMap.mp member
    obtain ⟨e, inScope, rfl⟩ := Option.map_eq_some_iff.mp looked
    exact Ty.listDepth_le_one (found st.elementName e inScope)
  | chain links => exact shallow
  | utility type invoke parameters => exact shallow_cons.mpr ⟨(shallow_cons.mp shallow).1, shallow_nil⟩
  | abstract => exact shallow_nil

/-- A compiled method's signature, body and class imports in the implementation. -/
theorem CompiledMethod.ShallowTyped.toMethod {m : CompiledMethod} (shallow : m.ShallowTyped)
    {lookup : String → Option Element} (found : ∀ name e, lookup name = some e → e.type.listDepth = 0) :
    Shallow (m.toMethod lookup).occurringTypes := by
  have signature : Shallow (m.returnType :: m.parameters.map Parameter.type) :=
    shallow_cons.mpr ⟨shallow.returnType, shallow.parameters⟩
  simp only [PageObjectMethod.occurringTypes, CompiledMethod.toMethod, MethodDeclaration.occurringTypes,
    Body.occurringTypes, signatureImports, shallow_cons, shallow_append]
  exact ⟨⟨⟨shallow.returnType, shallow.parameters, shallow_requiredImports signature⟩, shallow.body⟩,
    shallow_requiredImports (MethodBody.types_shallow found shallow.body)⟩

/-- The utility type a method calls is named by its body. -/
theorem CompiledMethod.ShallowTyped.utilityType {m : CompiledMethod} (shallow : m.ShallowTyped) {t : Ty}
    (called : m.utilityType? = some t) : t.listDepth ≤ 1 := by
  have typed := shallow.body
  cases body : m.body with
  | utility type invoke parameters =>
    simp only [CompiledMethod.utilityType?, body, Option.some.injEq] at called
    rw [body] at typed
    exact called ▸ (shallow_cons.mp typed).1
  | compose => simp [CompiledMethod.utilityType?, body] at called
  | chain => simp [CompiledMethod.utilityType?, body] at called
  | abstract => simp [CompiledMethod.utilityType?, body] at called

theorem PageObjectMethod.shallow_declaration {m : PageObjectMethod} (shallow : Shallow m.occurringTypes) :
    Shallow m.declaration.occurringTypes :=
  (shallow_append.mp (shallow_append.mp shallow).1).1

theorem MethodDeclaration.shallow_imports {d : MethodDeclaration} (shallow : Shallow d.occurringTypes) :
    Shallow d.imports :=
  (shallow_append.mp (shallow_cons.mp shallow).2).2

/-- Every method of the implementation's list nests lists at most once. -/
theorem viewMethods_shallow {elements : List Element} {methods : List CompiledMethod}
    (typedElements : ∀ e ∈ elements, e.ShallowTyped) (typedMethods : ∀ m ∈ methods, m.ShallowTyped) :
    ∀ m ∈ viewMethods elements methods, Shallow m.occurringTypes := by
  have found : ∀ name e, elements.find? (fun e => e.name == name) = some e → e.type.listDepth = 0 :=
    fun _ e looked => (typedElements e (List.mem_of_find?_eq_some looked)).type
  intro m member
  rcases mem_viewMethods.mp member with ⟨e, listed, -, rfl⟩ | ⟨c, listed, rfl⟩
  · exact (typedElements e listed).getter
  · exact (typedMethods c listed).toMethod found

section Assembly

variable {identifier : String} {pageType : TypeName} {elements : List Element}
  {methods : List CompiledMethod} {isInterface : Bool} {implements : Option Ty} {description : String}
  (typedElements : ∀ e ∈ elements, e.ShallowTyped) (typedMethods : ∀ m ∈ methods, m.ShallowTyped)
include typedElements typedMethods

/-- The interface lists signatures of the implementation's methods, and their imports. -/
theorem assemble_interface_shallow {view : InterfaceView}
    (listed : view ∈ (assemble identifier pageType elements methods isInterface implements
      description).interface) : Shallow view.occurringTypes := by
  obtain ⟨-, signatures⟩ := assemble_interface listed
  have each : ∀ d ∈ view.methods, Shallow d.occurringTypes := by
    intro d member
    rw [signatures] at member
    obtain ⟨m, kept, rfl⟩ := List.mem_map.mp member
    exact PageObjectMethod.shallow_declaration
      (viewMethods_shallow typedElements typedMethods m (List.mem_filter.mp kept).1)
  rw [InterfaceView.occurringTypes, assemble_interface_imports listed, shallow_append]
  refine ⟨shallow_flatMap.mpr each, shallow_mergeImports fun g group => ?_⟩
  obtain ⟨d, member, rfl⟩ := List.mem_map.mp group
  exact MethodDeclaration.shallow_imports (each d member)

/-- The implementation implements a page-object type and lists the methods of
the implementation's list, with their imports and the utility types. -/
theorem assemble_implementation_shallow (implementsFlat : ∀ t ∈ implements, t.listDepth = 0)
    {view : ImplementationView}
    (listed : view ∈ (assemble identifier pageType elements methods isInterface implements
      description).implementation) : Shallow view.occurringTypes := by
  obtain ⟨-, implemented, listing⟩ := assemble_implementation listed
  obtain ⟨-, imports⟩ := assemble_implementation_imports listed
  have each : ∀ m ∈ view.methods, Shallow m.occurringTypes := by
    rw [listing]
    exact viewMethods_shallow typedElements typedMethods
  have implementedFlat : (implements.getD (.custom pageType)).listDepth ≤ 1 := by
    cases named : implements with
    | none => exact Nat.zero_le 1
    | some t => exact Ty.listDepth_le_one (implementsFlat t named)
  rw [ImplementationView.occurringTypes, imports, implemented, shallow_cons, shallow_append]
  refine ⟨implementedFlat, shallow_flatMap.mpr each, shallow_mergeImports fun g group => ?_⟩
  simp only [List.mem_append, List.mem_singleton, List.mem_map] at group
  rcases group with ((rfl | ⟨m, member, rfl⟩) | ⟨m, member, rfl⟩) | rfl
  · exact shallow_cons.mpr ⟨implementedFlat, shallow_nil⟩
  · exact MethodDeclaration.shallow_imports (PageObjectMethod.shallow_declaration (each m member))
  · exact (shallow_append.mp (each m member)).2
  · intro t member
    rw [List.mem_firstOccurrences] at member
    obtain ⟨c, inMethods, called⟩ := List.mem_filterMap.mp member
    exact (typedMethods c inMethods).utilityType called

end Assembly

/--
No compiled page object nests lists: every type an accepted page object names,
in the signatures, bodies and imports of either view, the parameters its calls
pass, the results of its statements at every depth and the links of its chains,
is at most a list of a type that is no list.
-/
theorem lists_never_nest {settings : Settings} {identifier tree : Json} {declaration : Declaration}
    (accepted : compile settings identifier tree = .ok declaration) :
    ∀ t ∈ declaration.occurringTypes, t.listDepth ≤ 1 := by
  obtain ⟨run⟩ := AcceptedRun.of_compile accepted
  have typedElements := declareElements_shallowTyped run.declared
  have typedMethods : ∀ m ∈ run.methods, m.ShallowTyped := by
    intro m member
    obtain ⟨spec, -, compiled⟩ := compileMethods_mem run.compiled m member
    exact Scope.compileMethod_shallowTyped typedElements compiled
  have implementsFlat : ∀ t ∈ run.implements, t.listDepth = 0 := by
    intro t member
    obtain ⟨name, rfl⟩ := implementedType_eq_ok run.implemented t member
    rfl
  -- each view is read off the assembly, without rewriting the declaration the run is about
  have interface : Shallow ((declaration.interface.map InterfaceView.occurringTypes).getD []) := by
    refine shallow_optionGetD fun view member => ?_
    rw [congrArg Declaration.interface run.assembled] at member
    exact assemble_interface_shallow typedElements typedMethods member
  have implementation :
      Shallow ((declaration.implementation.map ImplementationView.occurringTypes).getD []) := by
    refine shallow_optionGetD fun view member => ?_
    rw [congrArg Declaration.implementation run.assembled] at member
    exact assemble_implementation_shallow typedElements typedMethods implementsFlat member
  have implements : Shallow declaration.implements.toList := by
    intro t member
    rw [congrArg Declaration.implements run.assembled] at member
    exact Ty.listDepth_le_one (implementsFlat t (Option.mem_toList.mp member))
  exact shallow_append.mpr ⟨shallow_append.mpr ⟨interface, implementation⟩, implements⟩

/-- A list element waited on with a predicate that already returns a list, a
list component called with returnAll, and a chain whose links both return all:
the document is accepted, and no type it names is a list of lists. -/
theorem fanned_out_lists_stay_flat :
    ∃ declaration, compile {} (.str "a/b/c") (.obj [("elements", .arr [
          .obj [("name", .str "items"), ("selector", .obj [("css", .str ".item"), ("returnAll", .bool true)])],
          .obj [("name", .str "cards"), ("type", .str "utam/pageObjects/card"),
            ("selector", .obj [("css", .str ".cards"), ("returnAll", .bool true)])]]),
        ("methods", .arr [
          .obj [("name", .str "waitForItems"), ("compose", .arr [.obj [("element", .str "items"),
            ("apply", .str "waitFor"), ("args", .arr [.obj [("type", .str "function"),
              ("predicate", .arr [.obj [("element", .str "items"), ("apply", .str "getText")]])]])]])],
          .obj [("name", .str "cardTags"), ("compose", .arr [.obj [("element", .str "cards"),
            ("apply", .str "getTags"), ("returnType", .str "string"), ("returnAll", .bool true)]])],
          .obj [("name", .str "cardRows"), ("chain", .arr [.obj [("element", .str "cards"), ("returnAll", .bool true)],
            .obj [("element", .str "rows"), ("type", .str "utam/pageObjects/row"), ("returnAll", .bool true)]])]])]) =
        .ok declaration ∧
      ∀ t ∈ declaration.occurringTypes, t.listDepth ≤ 1 := by
  obtain ⟨declaration, accepted⟩ := exists_ok_of_toBool
    (show (compile {} (.str "a/b/c") (.obj [("elements", .arr [
          .obj [("name", .str "items"), ("selector", .obj [("css", .str ".item"), ("returnAll", .bool true)])],
          .obj [("name", .str "cards"), ("type", .str "utam/pageObjects/card"),
            ("selector", .obj [("css", .str ".cards"), ("returnAll", .bool true)])]]),
        ("methods", .arr [
          .obj [("name", .str "waitForItems"), ("compose", .arr [.obj [("element", .str "items"),
            ("apply", .str "waitFor"), ("args", .arr [.obj [("type", .str "function"),
              ("predicate", .arr [.obj [("element", .str "items"), ("apply", .str "getText")]])]])]])],
          .obj [("name", .str "cardTags"), ("compose", .arr [.obj [("element", .str "cards"),
            ("apply", .str "getTags"), ("returnType", .str "string"), ("returnAll", .bool true)]])],
          .obj [("name", .str "cardRows"), ("chain", .arr [.obj [("element", .str "cards"), ("returnAll", .bool true)],
            .obj [("element", .str "rows"), ("type", .str "utam/pageObjects/row"), ("returnAll", .bool true)]])]])])).toBool = true by decide +kernel)
  exact ⟨declaration, accepted, lists_never_nest accepted⟩

end PageObjects
