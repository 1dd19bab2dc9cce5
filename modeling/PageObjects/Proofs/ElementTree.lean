import Mathlib.Data.List.Forall2
import Mathlib.Data.List.Nodup
import PageObjects.Proofs.ScopeValidation

/-!
# The element tree

Elements are declared in one pass over the tree of element declarations,
depth-first: each element before the elements nested in it, those of its
`elements` before those of its shadow root, and the document's own before its
shadow root's. Each element is built under the element it is nested in, the
root for the top-level ones: it lives in that element's scope, and its
parameters are that element's followed by those of its own selector.

`ElementSpec.placements` lists the declarations of a forest in that order, each
with the name of the element it is nested in, and `declareElements_placements`
says that the elements declared after the root are built from them, one for
one. `Ancestry` follows the scopes of the declared elements from the root
down; `scope_parameters_inherited` says that every declared element has its
ancestry, that its parameters are those of the selectors along it, and that
its getter takes their named ones and lives in the scope of its parent.

Both runs over the element stage carry the element that the declarations are
nested in, which is always declared already: one collects the placements,
the other (`Scope.declareAllBy_preserves_beneath`) carries a law of the
declared elements that holds of any element built under one of them.
-/

namespace PageObjects

mutual

/-- The element declarations of a forest in declaration order, each with the
name of the element it is nested in: each declaration, then the declarations
nested in it, then those of its shadow root. -/
def ElementSpec.placements (parent : String) : List ElementSpec → List (String × ElementSpec)
  | [] => []
  | spec :: rest => ElementSpec.placed parent spec ++ ElementSpec.placements parent rest

/-- An element declaration nested in the element named `parent`, followed by
the declarations nested in it and in its shadow root. -/
def ElementSpec.placed (parent : String) : ElementSpec → List (String × ElementSpec)
  | spec@⟨name, _, _, _, _, elements, shadowElements, _, _⟩ =>
    (parent, spec) ::
      (ElementSpec.placements name elements ++ ElementSpec.placements name shadowElements)

end

namespace ElementSpec

@[simp]
theorem placements_nil (parent : String) : placements parent [] = [] := by
  rw [placements]

@[simp]
theorem placements_cons (parent : String) (spec : ElementSpec) (rest : List ElementSpec) :
    placements parent (spec :: rest) = placed parent spec ++ placements parent rest := by
  rw [placements]

theorem placed_eq (parent : String) (spec : ElementSpec) :
    placed parent spec =
      (parent, spec) :: (placements spec.name spec.elements ++ placements spec.name spec.shadowElements) := by
  cases spec
  rw [placed]

@[simp]
theorem placements_append (parent : String) (specs more : List ElementSpec) :
    placements parent (specs ++ more) = placements parent specs ++ placements parent more := by
  induction specs with
  | nil => simp
  | cons spec rest restIH => simp [restIH]

end ElementSpec

/-- The parameters of an element's own selector; none without one. -/
def Element.selectorParameters (e : Element) : List Parameter :=
  (e.selector.map Selector.parameters).getD []

/-- The named parameters of a filter, then those of its matcher. -/
def ElementFilter.namedParameters (f : ElementFilter) : List Parameter :=
  namedOnly f.parameters ++ (f.matcher.map fun m => namedOnly m.parameters).getD []

/-- A getter takes the named parameters of its element, then those of the
element's filter. -/
theorem Element.getterParameters_eq (e : Element) :
    e.getterParameters = namedOnly e.parameters ++ (e.filter.map ElementFilter.namedParameters).getD [] := by
  unfold getterParameters
  rcases e.filter with _ | f
  · rfl
  · rcases matcher : f.matcher with _ | m <;> simp [ElementFilter.namedParameters, matcher]

/-- An element built under a parent takes the parent's parameters followed by
those of its own selector; a container without a selector of its own takes the
default one, which has none. -/
theorem Scope.build_inherits {s : Scope} {parent : Element} {spec : ElementSpec} {e : Element}
    (built : s.build parent spec = .ok e) : e.parameters = parent.parameters ++ e.selectorParameters := by
  unfold build at built
  simp only [bind_eq_ok] at built
  obtain ⟨selector, -, built⟩ := built
  split at built
  · simp at built
  · simp only [bind_eq_ok] at built
    obtain ⟨-, -, type, -, built⟩ := built
    -- the filter changes neither the parameters nor the selector
    split at built
    · simp only [bind_eq_ok, pure_eq_ok] at built
      obtain ⟨filter, -, -, -, rfl⟩ := built
      cases selector <;> simp only [Element.selectorParameters] <;> split <;> rfl
    · simp only [pure_eq_ok] at built
      subst built
      cases selector <;> simp only [Element.selectorParameters] <;> split <;> rfl

/-- The root takes no parameters, its selector has none, and it lives in no
scope. -/
theorem rootElement_parameters {s : Scope} {spec : PageObjectSpec} {root : Element}
    (built : rootElement s spec = .ok root) :
    root.parameters = [] ∧ root.selectorParameters = [] ∧ root.scope = none := by
  unfold rootElement at built
  split at built
  · exact absurd built fail_ne_ok
  · split at built
    · exact absurd built fail_ne_ok
    · obtain ⟨selector, selected, built⟩ := bind_eq_ok.mp built
      obtain ⟨type, -, built⟩ := bind_eq_ok.mp built
      obtain rfl := pure_eq_ok.mp built
      refine ⟨rfl, ?_, rfl⟩
      -- a root selector with parameters is refused
      unfold rootSelectorOf at selected
      split at selected
      · obtain ⟨resolved, -, selected⟩ := bind_eq_ok.mp selected
        split at selected
        · exact absurd selected fail_ne_ok
        · rename_i empty
          obtain rfl := pure_eq_ok.mp selected
          simpa [Element.root, Element.selectorParameters] using empty
      · obtain rfl := pure_eq_ok.mp selected
        rfl

/-! ## Where the declared elements come from -/

/-- `e` is built from the declaration `placed.2` under an element of
`elements` named `placed.1`. -/
def PlacedIn (elements : List Element) (e : Element) (placed : String × ElementSpec) : Prop :=
  ∃ parent ∈ elements, parent.name = placed.1 ∧ ∃ s : Scope, s.build parent placed.2 = .ok e

theorem PlacedIn.mono {elements more : List Element} {e : Element} {placed : String × ElementSpec}
    (within : ∀ x ∈ elements, x ∈ more) (placedIn : PlacedIn elements e placed) :
    PlacedIn more e placed := by
  obtain ⟨parent, member, named, s, built⟩ := placedIn
  exact ⟨parent, within parent member, named, s, built⟩

/-- A run of the element stage under a declared element appends one element for
each declaration of the forest, in declaration order, each built under the
declared element it is nested in. -/
theorem Scope.declareAllBy_placements {step : Scope → Element → Compiling Scope}
    (appends : Appends step) {s s' : Scope} {parent : Element} {specs : List ElementSpec}
    (member : parent ∈ s.elements) (run : s.declareAllBy step parent specs = .ok s') :
    ∃ declared, s'.elements = s.elements ++ declared ∧
      List.Forall₂ (PlacedIn s'.elements) declared (ElementSpec.placements parent.name specs) := by
  -- induction along the declaration recursion; each element is built under a declared one
  refine Scope.declareAllBy.induct
    (fun s parent specs => ∀ s', parent ∈ s.elements → s.declareAllBy step parent specs = .ok s' →
      ∃ declared, s'.elements = s.elements ++ declared ∧
        List.Forall₂ (PlacedIn s'.elements) declared (ElementSpec.placements parent.name specs))
    (fun s parent spec => ∀ s', parent ∈ s.elements → s.declareOneBy step parent spec = .ok s' →
      ∃ declared, s'.elements = s.elements ++ declared ∧
        List.Forall₂ (PlacedIn s'.elements) declared (ElementSpec.placed parent.name spec))
    (fun s parent name type selector isPublic isNullable elements shadowElements filter description
      elementsIH shadowIH s' member run => ?_)
    (fun s parent s' member run => ?_)
    (fun s parent spec rest specIH restIH s' member run => ?_) s parent specs s' member run
  · simp only [declareOneBy, bind_eq_ok] at run
    obtain ⟨e, built, stepped, stepOk, run⟩ := run
    have named := (build_shape built).2.1
    rw [ElementSpec.placed_eq]
    rw [appends stepOk] at run
    split at run
    · -- a leaf: the element alone
      rename_i leaf
      obtain rfl := (Except.ok.injEq _ _).mp run
      simp only [Bool.and_eq_true, List.isEmpty_iff] at leaf
      obtain ⟨noElements, noShadow⟩ := leaf
      refine ⟨[e], rfl, .cons ⟨parent, List.mem_append_left _ member, rfl, s, built⟩ ?_⟩
      simp [noElements, noShadow]
    · split at run
      · exact absurd run fail_ne_ok
      · obtain ⟨nested, nestedRun, shadowRun⟩ := bind_eq_ok.mp run
        have declaredHere : e ∈ s.elements ++ [e] := List.mem_append_right _ (List.mem_singleton_self _)
        obtain ⟨inner, nestedElements, innerPlaced⟩ :=
          elementsIH e { s with elements := s.elements ++ [e] } nested declaredHere nestedRun
        obtain ⟨shadowed, shadowElements', shadowPlaced⟩ :=
          shadowIH e nested s' (by rw [nestedElements]; exact List.mem_append_left _ declaredHere)
            shadowRun
        have grown : ∀ x ∈ nested.elements, x ∈ s'.elements := by
          intro x present
          rw [shadowElements']
          exact List.mem_append_left _ present
        refine ⟨e :: (inner ++ shadowed), by rw [shadowElements', nestedElements]; simp, ?_⟩
        refine .cons ⟨parent, grown parent ?_, rfl, s, built⟩ ?_
        · rw [nestedElements]
          exact List.mem_append_left _ (List.mem_append_left _ member)
        · rw [← named]
          exact List.rel_append (innerPlaced.imp fun _ _ placedIn => placedIn.mono grown) shadowPlaced
  · simp only [declareAllBy, Except.ok.injEq] at run
    subst run
    exact ⟨[], by simp, by simp⟩
  · obtain ⟨afterOne, oneRun, restRun⟩ := bind_eq_ok.mp run
    obtain ⟨first, firstElements, firstPlaced⟩ := specIH afterOne member oneRun
    obtain ⟨later, laterElements, laterPlaced⟩ :=
      restIH afterOne s' (by rw [firstElements]; exact List.mem_append_left _ member) restRun
    have grown : ∀ x ∈ afterOne.elements, x ∈ s'.elements := by
      intro x present
      rw [laterElements]
      exact List.mem_append_left _ present
    refine ⟨first ++ later, by rw [laterElements, firstElements, List.append_assoc], ?_⟩
    rw [ElementSpec.placements_cons]
    exact List.rel_append (firstPlaced.imp fun _ _ placedIn => placedIn.mono grown) laterPlaced

/-- The elements of an accepted page object: the root, then one element for
each element declaration in declaration order, the document's before its
shadow root's, each built under the declared element it is nested in. -/
theorem declareElements_placements {settings : Settings} {spec : PageObjectSpec} {s : Scope}
    (run : declareElements settings spec = .ok s) :
    ∃ root rest, s.elements = root :: rest ∧ rootElement { settings } spec = .ok root ∧
      List.Forall₂ (PlacedIn s.elements) rest
        (ElementSpec.placements Element.rootName (spec.elements ++ spec.shadowElements)) := by
  rw [declareElements_eq_declareElementsBy] at run
  simp only [declareElementsBy, bind_eq_ok] at run
  obtain ⟨root, built, withRoot, rootStep, nested, nestedRun, shadowRun⟩ := run
  have rootOnly : withRoot.elements = [root] := by rw [appends_declare rootStep]; rfl
  have rootNamed := (rootElement_shape built).2
  obtain ⟨top, nestedElements, topPlaced⟩ := Scope.declareAllBy_placements appends_declare
    (by rw [rootOnly]; exact List.mem_singleton_self _) nestedRun
  obtain ⟨shadowed, shadowElements, shadowPlaced⟩ := Scope.declareAllBy_placements appends_declare
    (by rw [nestedElements, rootOnly]; exact List.mem_cons_self) shadowRun
  have grown : ∀ x ∈ nested.elements, x ∈ s.elements := by
    intro x present
    rw [shadowElements]
    exact List.mem_append_left _ present
  refine ⟨root, top ++ shadowed, by rw [shadowElements, nestedElements, rootOnly]; rfl, built, ?_⟩
  rw [ElementSpec.placements_append, ← rootNamed]
  exact List.rel_append (topPlaced.imp fun _ _ placedIn => placedIn.mono grown) shadowPlaced

/-- An element placed under a declaration is named by it and lives in the scope
of the element it is nested in. -/
theorem PlacedIn.name_scope {elements : List Element} {e : Element} {placed : String × ElementSpec}
    (placedIn : PlacedIn elements e placed) : e.name = placed.2.name ∧ e.scope = some placed.1 := by
  obtain ⟨parent, -, named, s, built⟩ := placedIn
  obtain ⟨-, name, scope⟩ := Scope.build_shape built
  exact ⟨name, by rw [scope, named]⟩

/-! ## Laws carried down the tree -/

/-- Declaring one element and those nested in it keeps the elements declared
before. -/
theorem Scope.declareOneBy_extends {step : Scope → Element → Compiling Scope} (appends : Appends step)
    {s s' : Scope} {parent : Element} {spec : ElementSpec}
    (run : s.declareOneBy step parent spec = .ok s') : s.elements <+: s'.elements :=
  Scope.declareAllBy_extends appends
    (show s.declareAllBy step parent [spec] = .ok s' by
      simp only [declareAllBy, bind_eq_ok]
      exact ⟨s', run, rfl⟩)

/-- A law of the declared elements that holds after appending any element built
under one of them holds after a whole run of the element stage under a
declared element. -/
theorem Scope.declareAllBy_preserves_beneath {step : Scope → Element → Compiling Scope}
    (appends : Appends step) {holds : List Element → Prop}
    (preserved : ∀ {s : Scope} {parent : Element} {spec : ElementSpec} {e : Element},
      parent ∈ s.elements → s.build parent spec = .ok e → holds s.elements → holds (s.elements ++ [e]))
    {s s' : Scope} {parent : Element} {specs : List ElementSpec}
    (member : parent ∈ s.elements) (initially : holds s.elements)
    (run : s.declareAllBy step parent specs = .ok s') : holds s'.elements := by
  -- the placements name the parent of every appended element, declared before it
  refine Scope.declareAllBy.induct
    (fun s parent specs => ∀ s', parent ∈ s.elements → holds s.elements →
      s.declareAllBy step parent specs = .ok s' → holds s'.elements)
    (fun s parent spec => ∀ s', parent ∈ s.elements → holds s.elements →
      s.declareOneBy step parent spec = .ok s' → holds s'.elements)
    (fun s parent name type selector isPublic isNullable elements shadowElements filter description
      elementsIH shadowIH s' member initially run => ?_)
    (fun s parent s' member initially run => ?_)
    (fun s parent spec rest specIH restIH s' member initially run => ?_) s parent specs s' member
    initially run
  · simp only [declareOneBy, bind_eq_ok] at run
    obtain ⟨e, built, stepped, stepOk, run⟩ := run
    have appended : holds stepped.elements := by
      rw [appends stepOk]
      exact preserved member built initially
    have declaredHere : e ∈ stepped.elements := by
      rw [appends stepOk]
      exact List.mem_append_right _ (List.mem_singleton_self _)
    split at run
    · cases run
      exact appended
    · split at run
      · exact absurd run fail_ne_ok
      · obtain ⟨nested, nestedRun, shadowRun⟩ := bind_eq_ok.mp run
        exact shadowIH e nested s'
          (Scope.declareAllBy_extends appends nestedRun |>.subset declaredHere)
          (elementsIH e stepped nested declaredHere appended nestedRun) shadowRun
  · simp only [declareAllBy, Except.ok.injEq] at run
    exact run ▸ initially
  · obtain ⟨afterOne, oneRun, restRun⟩ := bind_eq_ok.mp run
    have stillDeclared : parent ∈ afterOne.elements :=
      (Scope.declareOneBy_extends appends oneRun).subset member
    exact restIH afterOne s' stillDeclared (specIH afterOne member initially oneRun) restRun

/-- The declared elements an element is nested in, from the root down: the
root has none, and any other element has those of the element whose scope it
lives in, followed by that element. -/
inductive Ancestry (elements : List Element) : List Element → Element → Prop
  | root {root : Element} : root ∈ elements → root.kind = .root → Ancestry elements [] root
  | nested {ancestors : List Element} {parent e : Element} : Ancestry elements ancestors parent →
      e ∈ elements → e.kind ≠ .root → e.scope = some parent.name →
      Ancestry elements (ancestors ++ [parent]) e

theorem Ancestry.mem {elements ancestors : List Element} {e : Element}
    (ancestry : Ancestry elements ancestors e) : e ∈ elements := by
  cases ancestry with
  | root member => exact member
  | nested _ member => exact member

theorem Ancestry.mono {elements more ancestors : List Element} {e : Element}
    (within : ∀ x ∈ elements, x ∈ more) (ancestry : Ancestry elements ancestors e) :
    Ancestry more ancestors e := by
  induction ancestry with
  | root member kind => exact .root (within _ member) kind
  | nested _ member kind scope parentIH => exact .nested parentIH (within _ member) kind scope

/-- The laws that carry the scope parameters down the tree: every declared
element has an ancestry; the root takes no parameters, has a selector without
any and lives in no scope; and any other element lives in the scope of a
declared element, whose parameters it takes before its selector's. -/
structure Inherited (elements : List Element) : Prop where
  traced : ∀ e ∈ elements, ∃ ancestors, Ancestry elements ancestors e
  inherits : ∀ e ∈ elements,
    (e.kind = .root ∧ e.parameters = [] ∧ e.selectorParameters = [] ∧ e.scope = none) ∨
      (e.kind ≠ .root ∧ ∃ parent ∈ elements, e.scope = some parent.name ∧
        e.parameters = parent.parameters ++ e.selectorParameters)

/-- An element built under a declared element keeps the laws. -/
theorem Inherited.append {elements : List Element} {s : Scope} {parent : Element}
    {spec : ElementSpec} {e : Element} (inherited : Inherited elements) (member : parent ∈ elements)
    (built : s.build parent spec = .ok e) : Inherited (elements ++ [e]) := by
  have within : ∀ x ∈ elements, x ∈ elements ++ [e] := fun _ present => List.mem_append_left _ present
  have added : e ∈ elements ++ [e] := List.mem_append_right _ (List.mem_singleton_self _)
  have kind := Scope.build_kind_ne_root built
  have scope := (Scope.build_shape built).2.2
  constructor
  · intro x present
    rcases List.mem_append.mp present with old | new
    · obtain ⟨ancestors, ancestry⟩ := inherited.traced x old
      exact ⟨ancestors, ancestry.mono within⟩
    · obtain rfl := List.mem_singleton.mp new
      obtain ⟨ancestors, ancestry⟩ := inherited.traced parent member
      exact ⟨ancestors ++ [parent], .nested (ancestry.mono within) added kind scope⟩
  · intro x present
    rcases List.mem_append.mp present with old | new
    · rcases inherited.inherits x old with isRoot | ⟨notRoot, above, aboveMember, aboveScope, taken⟩
      · exact .inl isRoot
      · exact .inr ⟨notRoot, above, within _ aboveMember, aboveScope, taken⟩
    · obtain rfl := List.mem_singleton.mp new
      exact .inr ⟨kind, parent, within _ member, scope, Scope.build_inherits built⟩

/-- The root alone keeps the laws. -/
theorem Inherited.root {s : Scope} {spec : PageObjectSpec} {root : Element}
    (built : rootElement s spec = .ok root) : Inherited [root] := by
  obtain ⟨rootKind, -⟩ := rootElement_shape built
  obtain ⟨noParameters, noSelectorParameters, noScope⟩ := rootElement_parameters built
  constructor
  · intro e present
    obtain rfl := List.mem_singleton.mp present
    exact ⟨[], .root (List.mem_singleton_self _) rootKind⟩
  · intro e present
    obtain rfl := List.mem_singleton.mp present
    exact .inl ⟨rootKind, noParameters, noSelectorParameters, noScope⟩

/-- A law of the declared elements that holds of the root alone and is kept by
appending any element built under a declared one holds of the elements of
every accepted page object. -/
theorem declareElements_preserves_beneath {holds : List Element → Prop}
    (rootHolds : ∀ {s : Scope} {spec : PageObjectSpec} {root : Element},
      rootElement s spec = .ok root → holds [root])
    (preserved : ∀ {s : Scope} {parent : Element} {spec : ElementSpec} {e : Element},
      parent ∈ s.elements → s.build parent spec = .ok e → holds s.elements → holds (s.elements ++ [e]))
    {settings : Settings} {spec : PageObjectSpec} {s : Scope}
    (run : declareElements settings spec = .ok s) : holds s.elements := by
  rw [declareElements_eq_declareElementsBy] at run
  simp only [declareElementsBy, bind_eq_ok] at run
  obtain ⟨root, built, withRoot, rootStep, nested, nestedRun, shadowRun⟩ := run
  have rootOnly : withRoot.elements = [root] := by rw [appends_declare rootStep]; rfl
  have rootMember : root ∈ withRoot.elements := by rw [rootOnly]; exact List.mem_singleton_self _
  have rootLaws : holds withRoot.elements := by rw [rootOnly]; exact rootHolds built
  -- the document's elements, then the shadow root's, all under the root
  exact Scope.declareAllBy_preserves_beneath appends_declare preserved
    (Scope.declareAllBy_extends appends_declare nestedRun |>.subset rootMember)
    (Scope.declareAllBy_preserves_beneath appends_declare preserved rootMember rootLaws nestedRun) shadowRun

/-- The elements of every accepted page object keep the laws. -/
theorem declareElements_inherited {settings : Settings} {spec : PageObjectSpec} {s : Scope}
    (run : declareElements settings spec = .ok s) : Inherited s.elements :=
  declareElements_preserves_beneath Inherited.root
    (fun member built inherited => inherited.append member built) run

/-- Along an ancestry of elements with distinct names, an element's parameters
are those of the selectors from the root down to it, and it lives in the scope
of the last of its ancestors. -/
theorem Ancestry.parameters {elements ancestors : List Element} {e : Element}
    (inherited : Inherited elements) (names : (elements.map Element.name).Nodup)
    (ancestry : Ancestry elements ancestors e) :
    e.parameters = (ancestors ++ [e]).flatMap Element.selectorParameters ∧
      e.scope = ancestors.getLast?.map Element.name := by
  induction ancestry with
  | root member kind =>
    rcases inherited.inherits _ member with ⟨-, noParameters, noSelectorParameters, noScope⟩ |
      ⟨notRoot, -⟩
    · simp [noParameters, noSelectorParameters, noScope]
    · exact absurd kind notRoot
  | @nested ancestors parent e parentAncestry member kind scope parentIH =>
    rcases inherited.inherits e member with ⟨isRoot, -⟩ | ⟨-, above, aboveMember, aboveScope, taken⟩
    · exact absurd isRoot kind
    · -- the element whose scope it lives in is its parent: names are distinct
      have sameName : above.name = parent.name := by
        rw [scope, Option.some.injEq] at aboveScope
        exact aboveScope.symm
      obtain rfl := List.inj_on_of_nodup_map names aboveMember parentAncestry.mem sameName
      refine ⟨?_, by simp [scope]⟩
      rw [taken, parentIH.1, List.flatMap_append, List.flatMap_append, List.flatMap_append]
      simp

/--
Scope parameters are inherited along the element tree. The elements of every
accepted page object are the root, then one element for each element
declaration in declaration order, named by it and living in the scope of the
element it is nested in, the root for top-level ones, whether through nested
or shadow elements. Every declared element has an ancestry; along any ancestry,
its parameters are those of the selectors from the root down to its own, the
root's selector having none; its getter takes their named ones, then those of
its filter and its matcher; and its getter works in the scope of its parent.
-/
theorem scope_parameters_inherited {settings : Settings} {identifier tree : Json}
    {declaration : Declaration} (accepted : compile settings identifier tree = .ok declaration) :
    ∃ run : AcceptedRun settings identifier tree declaration, ∃ root rest,
      run.scope.elements = root :: rest ∧ root.kind = .root ∧ root.name = Element.rootName ∧
      root.selectorParameters = [] ∧
      List.Forall₂ (fun e placed => e.name = placed.2.name ∧ e.scope = some placed.1) rest
        (ElementSpec.placements Element.rootName (run.spec.elements ++ run.spec.shadowElements)) ∧
      (∀ e ∈ run.scope.elements, ∃ ancestors, Ancestry run.scope.elements ancestors e) ∧
      ∀ ancestors e, Ancestry run.scope.elements ancestors e →
        e.parameters = (ancestors ++ [e]).flatMap Element.selectorParameters ∧
        e.getter.declaration.parameters =
          namedOnly e.parameters ++ (e.filter.map ElementFilter.namedParameters).getD [] ∧
        ∀ body, e.getter.body = .getter body → body.scope = ancestors.getLast?.map Element.name := by
  obtain ⟨run⟩ := AcceptedRun.of_compile accepted
  obtain ⟨root, rest, listed, built, placed⟩ := declareElements_placements run.declared
  obtain ⟨rootKind, rootNamed⟩ := rootElement_shape built
  have inherited := declareElements_inherited run.declared
  have names := (declareElements_declared run.declared).names
  refine ⟨run, root, rest, listed, rootKind, rootNamed, (rootElement_parameters built).2.1,
    placed.imp fun _ _ placedIn => placedIn.name_scope, inherited.traced,
    fun ancestors e ancestry => ?_⟩
  obtain ⟨parameters, scope⟩ := ancestry.parameters inherited names
  refine ⟨parameters, Element.getterParameters_eq e, fun body getter => ?_⟩
  simp only [Element.getter, Body.getter.injEq] at getter
  rw [← getter, ← scope]

/-- A list whose selector takes a key holds an item whose selector takes a
label: the document is accepted, and the item takes both. -/
theorem nested_selector_parameters_inherited :
    ∃ declaration, compile {} (.str "a/b/c") (.obj [("elements", .arr [
        .obj [("name", .str "list"),
          ("selector", .obj [("css", .str ".list[%s]"),
            ("args", .arr [.obj [("name", .str "key"), ("type", .str "string")]])]),
          ("elements", .arr [.obj [("name", .str "item"),
            ("selector", .obj [("css", .str ".item[%s]"),
              ("args", .arr [.obj [("name", .str "label"), ("type", .str "string")]])])]])]])]) =
        .ok declaration ∧
      ∃ run : AcceptedRun {} (.str "a/b/c") (.obj [("elements", .arr [
          .obj [("name", .str "list"),
            ("selector", .obj [("css", .str ".list[%s]"),
              ("args", .arr [.obj [("name", .str "key"), ("type", .str "string")]])]),
            ("elements", .arr [.obj [("name", .str "item"),
              ("selector", .obj [("css", .str ".item[%s]"),
                ("args", .arr [.obj [("name", .str "label"), ("type", .str "string")]])])]])]])])
          declaration,
        ∀ ancestors e, Ancestry run.scope.elements ancestors e →
          e.parameters = (ancestors ++ [e]).flatMap Element.selectorParameters := by
  obtain ⟨declaration, accepted⟩ := exists_ok_of_toBool
    (show (compile {} (.str "a/b/c") (.obj [("elements", .arr [
        .obj [("name", .str "list"),
          ("selector", .obj [("css", .str ".list[%s]"),
            ("args", .arr [.obj [("name", .str "key"), ("type", .str "string")]])]),
          ("elements", .arr [.obj [("name", .str "item"),
            ("selector", .obj [("css", .str ".item[%s]"),
              ("args", .arr [.obj [("name", .str "label"), ("type", .str "string")]])])]])]])])).toBool =
        true by decide +kernel)
  obtain ⟨run, -, -, -, -, -, -, -, -, inherited⟩ := scope_parameters_inherited accepted
  exact ⟨declaration, accepted, run, fun ancestors e ancestry => (inherited ancestors e ancestry).1⟩

end PageObjects
