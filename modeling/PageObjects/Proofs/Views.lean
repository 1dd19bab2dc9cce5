import PageObjects.Proofs.ElementTree
import PageObjects.Proofs.ParameterNames

/-!
# The views of a compiled page object

A compiled page object has an implementation view unless it is interface-only,
and an interface view unless it implements another page-object type. The
implementation lists the getter of the root when the document exposes it, then
the getter of every other element in declaration order (each element, then the
elements nested in it, then those of its shadow root), then the declared
methods in the order they are declared; the interface lists the signatures of
the public ones among them, in the same order.

The order of the elements is `declareElements_placements`; the order of the
methods is `compileMethods_forall₂`, one compiled method for each declaration;
`views_follow_declaration_order` puts them together with the assembly.
-/

namespace PageObjects

/-- The root is public exactly when the document exposes it. -/
theorem rootElement_isPublic {s : Scope} {spec : PageObjectSpec} {root : Element}
    (built : rootElement s spec = .ok root) : root.isPublic = spec.exposeRootElement := by
  unfold rootElement at built
  split at built
  · exact absurd built fail_ne_ok
  · split at built
    · exact absurd built fail_ne_ok
    · obtain ⟨selector, -, type, -, declared⟩ := by simpa only [bind_eq_ok] using built
      obtain rfl := pure_eq_ok.mp declared
      rfl

/-- An element placed under a declaration is not the root. -/
theorem PlacedIn.kind_ne_root {elements : List Element} {e : Element} {placed : String × ElementSpec}
    (placedIn : PlacedIn elements e placed) : e.kind ≠ .root := by
  obtain ⟨parent, -, -, s, built⟩ := placedIn
  exact Scope.build_kind_ne_root built

/-- Among the root and elements that are not the root, those with a getter are
the root when it is public, then all the others. -/
theorem Element.filter_hasGetter_rooted {root : Element} {rest : List Element}
    (rootKind : root.kind = .root) (nested : ∀ e ∈ rest, e.kind ≠ .root) :
    (root :: rest).filter Element.hasGetter = (if root.isPublic then [root] else []) ++ rest := by
  have rootGetter : root.hasGetter = root.isPublic := by
    simp [Element.hasGetter, Element.isRoot, rootKind]
  have restGetters : rest.filter Element.hasGetter = rest :=
    List.filter_eq_self.mpr fun e member => by simp [Element.hasGetter, Element.isRoot, nested e member]
  rw [List.filter_cons, rootGetter, restGetters]
  split <;> rfl

/-- The methods of a page object are compiled in declaration order, one for
each declared method. -/
theorem compileMethods_forall₂ {s : Scope} {isInterface : Bool} {specs : List MethodSpec}
    {methods : List CompiledMethod} (compiled : compileMethods s isInterface specs = .ok methods) :
    List.Forall₂ (fun m spec => s.compileMethod isInterface spec = .ok m) methods specs := by
  unfold compileMethods at compiled
  -- over the fold, each declared method appends its compilation to those before it
  suffices appended : ∀ {specs : List MethodSpec} {done methods : List CompiledMethod},
      specs.foldlM (fun methods spec => do
        let m ← s.compileMethod isInterface spec
        addMethod s.elements methods m) done = .ok methods →
      ∃ more, methods = done ++ more ∧
        List.Forall₂ (fun m spec => s.compileMethod isInterface spec = .ok m) more specs by
    obtain ⟨more, rfl, compiledMore⟩ := appended compiled
    exact compiledMore
  intro specs
  induction specs with
  | nil =>
    intro done methods run
    rw [List.foldlM_nil, pure_eq_ok] at run
    exact ⟨[], by rw [run, List.append_nil], .nil⟩
  | cons spec rest restIH =>
    intro done methods run
    rw [List.foldlM_cons] at run
    obtain ⟨next, stepped, restRun⟩ := bind_eq_ok.mp run
    obtain ⟨m, methodCompiled, added⟩ := bind_eq_ok.mp stepped
    obtain ⟨-, -, rfl⟩ := addMethod_eq_ok_iff.mp added
    obtain ⟨more, rfl, compiledMore⟩ := restIH restRun
    exact ⟨m :: more, by rw [List.append_assoc, List.singleton_append], .cons methodCompiled compiledMore⟩

/-- A page object implements no type when it names none, and otherwise the
page-object type its reference names. -/
theorem implementedType_eq_ok_iff {token : Option String} {implements : Option Ty} :
    implementedType token = .ok implements ↔
      token = none ∧ implements = none ∨
        ∃ reference t, token = some reference ∧ Naming.isTypeReference reference = true ∧
          Naming.typeName reference = .ok t ∧ implements = some (.custom t) := by
  cases token with
  | none =>
    simp only [implementedType, Except.ok.injEq, reduceCtorEq, false_and, exists_false, or_false,
      true_and]
    exact eq_comm
  | some reference =>
    simp only [implementedType, reduceCtorEq, false_and, Option.some.injEq, exists_and_left,
      exists_eq_left', false_or]
    split
    · rename_i notReference
      simp only [reduceCtorEq, false_iff, not_exists, not_and]
      intro referenced
      simp [referenced] at notReference
    · rename_i isReference
      simp only [Bool.not_eq_true', Bool.not_eq_false] at isReference
      simp only [bind_eq_ok, pure_eq_ok, isReference, true_and]
      constructor
      · rintro ⟨t, named, rfl⟩
        exact ⟨t, named, rfl⟩
      · rintro ⟨t, named, rfl⟩
        exact ⟨t, named, rfl⟩

/-- Over the elements of a scope, the implementation's list looks names up in
that scope. -/
theorem viewMethods_scope (s : Scope) (methods : List CompiledMethod) :
    viewMethods s.elements methods =
      (s.elements.filter Element.hasGetter).map Element.getter ++ methods.map (CompiledMethod.toMethod s.lookup) :=
  rfl

/-- Over the elements of a scope, the public methods are the getters of the
public elements, then every declared method. -/
theorem viewMethods_public_scope (s : Scope) (methods : List CompiledMethod) :
    (viewMethods s.elements methods).filter PageObjectMethod.isPublic =
      (s.elements.filter Element.isPublic).map Element.getter ++
        methods.map (CompiledMethod.toMethod s.lookup) :=
  viewMethods_public s.elements methods

section Assembly

variable {identifier : String} {pageType : TypeName} {elements : List Element}
  {methods : List CompiledMethod} {isInterface : Bool} {implements : Option Ty} {description : String}

/-- Only an interface-only page object has no implementation. -/
theorem assemble_implementation_eq_none_iff :
    (assemble identifier pageType elements methods isInterface implements description).implementation =
      none ↔ isInterface = true := by
  cases isInterface <;> simp [assemble]

/-- Only a page object that implements another has no interface. -/
theorem assemble_interface_eq_none_iff :
    (assemble identifier pageType elements methods isInterface implements description).interface =
      none ↔ implements.isSome = true := by
  cases implements <;> simp [assemble]

/-- The implementation is of the implementation type and implements the type
named, or else the page-object type; it lists the getters, then the methods. -/
theorem assemble_implementation {view : ImplementationView}
    (listed : view ∈ (assemble identifier pageType elements methods isInterface implements
      description).implementation) :
    view.type = Naming.implementation pageType ∧ view.implements = implements.getD (.custom pageType) ∧
      view.methods = viewMethods elements methods := by
  refine ⟨?_, ?_, assemble_implementation_methods listed⟩ <;>
  · cases isInterface with
    | true => simp [assemble] at listed
    | false =>
      simp only [assemble, Bool.false_eq_true, if_false, Option.mem_def, Option.some.injEq] at listed
      rw [← listed]

/-- The interface is of the page-object type and lists the signatures of the
public methods of the implementation's list. -/
theorem assemble_interface {view : InterfaceView}
    (listed : view ∈ (assemble identifier pageType elements methods isInterface implements
      description).interface) :
    view.type = pageType ∧
      view.methods = ((viewMethods elements methods).filter PageObjectMethod.isPublic).map
        PageObjectMethod.declaration := by
  refine ⟨?_, assemble_interface_methods_eq listed⟩
  cases implements with
  | some _ => simp [assemble] at listed
  | none =>
    simp only [assemble, Option.mem_def, Option.some.injEq] at listed
    rw [← listed]

end Assembly

/--
The views of every accepted page object follow the declaration order. Its
elements are the root, then one element for each element declaration in
declaration order, the document's before its shadow root's; its methods are
compiled one for each declared method, in order. The implementation is absent
exactly for an interface-only page object, and the interface exactly when the
page object implements a type. The implementation is of the implementation
type of the page-object type, implements the type named, or else the
page-object type, and lists the root's getter when the document exposes the
root, then the getters of the other elements, then the methods; the interface
is of the page-object type and lists the signatures of the public getters, in
the same order, then those of all methods.
-/
theorem views_follow_declaration_order {settings : Settings} {identifier tree : Json}
    {declaration : Declaration} (accepted : compile settings identifier tree = .ok declaration) :
    ∃ run : AcceptedRun settings identifier tree declaration, ∃ root rest,
      run.scope.elements = root :: rest ∧ root.kind = .root ∧
      root.isPublic = run.spec.exposeRootElement ∧
      List.Forall₂ (fun e placed => e.name = placed.2.name ∧ e.scope = some placed.1) rest
        (ElementSpec.placements Element.rootName (run.spec.elements ++ run.spec.shadowElements)) ∧
      List.Forall₂ (fun m spec => run.scope.compileMethod run.spec.isInterface spec = .ok m)
        run.methods run.spec.methods ∧
      (run.spec.implements = none ∧ run.implements = none ∨
        ∃ reference t, run.spec.implements = some reference ∧ Naming.typeName reference = .ok t ∧
          run.implements = some (.custom t)) ∧
      (declaration.implementation = none ↔ run.spec.isInterface = true) ∧
      (declaration.interface = none ↔ run.spec.implements.isSome = true) ∧
      (∀ view ∈ declaration.implementation,
        view.type = Naming.implementation run.pageType ∧
        view.implements = run.implements.getD (.custom run.pageType) ∧
        view.methods = (if run.spec.exposeRootElement then [root.getter] else []) ++
          rest.map Element.getter ++ run.methods.map (CompiledMethod.toMethod run.scope.lookup)) ∧
      ∀ view ∈ declaration.interface,
        view.type = run.pageType ∧
        view.methods = ((root :: rest).filter Element.isPublic).map (fun e => e.getter.declaration) ++
          run.methods.map fun m => (m.toMethod run.scope.lookup).declaration := by
  obtain ⟨run⟩ := AcceptedRun.of_compile accepted
  obtain ⟨root, rest, listed, built, placed⟩ := declareElements_placements run.declared
  obtain ⟨rootKind, -⟩ := rootElement_shape built
  have exposed := rootElement_isPublic built
  have nested : ∀ e ∈ rest, e.kind ≠ .root :=
    ((List.forall₂_and_left _ _).mp (placed.imp fun _ _ placedIn => ⟨placedIn.kind_ne_root, placedIn⟩)).1
  -- the implemented type is named exactly when the document names one
  have implemented : run.spec.implements = none ∧ run.implements = none ∨
      ∃ reference t, run.spec.implements = some reference ∧ Naming.typeName reference = .ok t ∧
        run.implements = some (.custom t) := by
    rcases implementedType_eq_ok_iff.mp run.implemented with none | ⟨reference, t, named, -, typed, some⟩
    · exact .inl none
    · exact .inr ⟨reference, t, named, typed, some⟩
  have implementsNamed : run.implements.isSome = run.spec.implements.isSome := by
    rcases implemented with ⟨none, none'⟩ | ⟨reference, t, named, -, some⟩
    · rw [none, none']
      rfl
    · rw [named, some]
      rfl
  -- the views are read off the assembly, without rewriting the declaration the run is about
  have implementation := congrArg Declaration.implementation run.assembled
  have interface := congrArg Declaration.interface run.assembled
  refine ⟨run, root, rest, listed, rootKind, exposed, placed.imp fun _ _ placedIn => placedIn.name_scope,
    compileMethods_forall₂ run.compiled, implemented, ?_, ?_, fun view member => ?_,
    fun view member => ?_⟩
  · rw [implementation, assemble_implementation_eq_none_iff]
  · rw [interface, assemble_interface_eq_none_iff, implementsNamed]
  · rw [implementation] at member
    obtain ⟨type, implements, methods⟩ := assemble_implementation member
    refine ⟨type, implements, ?_⟩
    rw [methods, viewMethods_scope, listed, Element.filter_hasGetter_rooted rootKind nested, exposed]
    split <;> simp
  · rw [interface] at member
    obtain ⟨type, methods⟩ := assemble_interface member
    refine ⟨type, ?_⟩
    rw [methods, viewMethods_public_scope, listed, List.map_append, List.map_map, List.map_map]
    rfl

/-- A document exposing its root, with an element nested in another and one in
its shadow root, is accepted; its implementation lists the root's getter, the
getters in declaration order, then the method. -/
theorem exposed_root_getter_listed_first :
    ∃ declaration, compile {} (.str "a/b/c") (.obj [("exposeRootElement", .bool true),
        ("elements", .arr [.obj [("name", .str "list"), ("selector", .obj [("css", .str ".list")]),
          ("elements", .arr [.obj [("name", .str "item"), ("selector", .obj [("css", .str ".item")])]])]]),
        ("shadow", .obj [("elements", .arr [
          .obj [("name", .str "shade"), ("public", .bool true), ("selector", .obj [("css", .str ".shade")])]])]),
        ("methods", .arr [.obj [("name", .str "open"), ("compose", .arr [.obj [("element", .str "list"), ("apply", .str "getText")]])]])]) =
        .ok declaration ∧
      ∃ run : AcceptedRun {} (.str "a/b/c") (.obj [("exposeRootElement", .bool true),
          ("elements", .arr [.obj [("name", .str "list"), ("selector", .obj [("css", .str ".list")]),
            ("elements", .arr [.obj [("name", .str "item"), ("selector", .obj [("css", .str ".item")])]])]]),
          ("shadow", .obj [("elements", .arr [
            .obj [("name", .str "shade"), ("public", .bool true), ("selector", .obj [("css", .str ".shade")])]])]),
          ("methods", .arr [.obj [("name", .str "open"), ("compose", .arr [.obj [("element", .str "list"), ("apply", .str "getText")]])]])])
          declaration,
        ∃ root rest, run.scope.elements = root :: rest ∧
          ∀ view ∈ declaration.implementation,
            view.methods = (if run.spec.exposeRootElement then [root.getter] else []) ++
              rest.map Element.getter ++ run.methods.map (CompiledMethod.toMethod run.scope.lookup) := by
  obtain ⟨declaration, accepted⟩ := exists_ok_of_toBool
    (show (compile {} (.str "a/b/c") (.obj [("exposeRootElement", .bool true),
        ("elements", .arr [.obj [("name", .str "list"), ("selector", .obj [("css", .str ".list")]),
          ("elements", .arr [.obj [("name", .str "item"), ("selector", .obj [("css", .str ".item")])]])]]),
        ("shadow", .obj [("elements", .arr [
          .obj [("name", .str "shade"), ("public", .bool true), ("selector", .obj [("css", .str ".shade")])]])]),
        ("methods", .arr [.obj [("name", .str "open"), ("compose", .arr [.obj [("element", .str "list"), ("apply", .str "getText")]])]])])).toBool =
        true by decide +kernel)
  obtain ⟨run, root, rest, listed, -, -, -, -, -, -, -, implementation, -⟩ :=
    views_follow_declaration_order accepted
  exact ⟨declaration, accepted, run, root, rest, listed, fun view member => (implementation view member).2.2⟩

end PageObjects
