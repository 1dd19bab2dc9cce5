import PageObjects.Proofs.Stages

/-!
# Method names of compiled page objects

The views of a page object name their methods after its elements and its
declared methods. The compiler checks these names piecemeal: the names of the
elements against each other when they are declared, and the name of each
compiled method against the methods before it and against the getters of all
elements. A getter's name is derived from its element's: `get`, the name
capitalized, and `Element` after the name of a private element. Two elements of
different names can therefore have getters of one name, and no check looks for
that.

`method_names_distinct_iff` says exactly when the methods of a view have
distinct names: when the getters it lists have. `getterName_private_eq_public`
gives the plainest pair of elements whose getters share a name: a private
element and a public one named like it with `Element` appended.
-/

namespace PageObjects

/-- Capitalizing touches the first character only. -/
theorem Text.capitalize_append {s t : String} (nonempty : s ≠ "") :
    Text.capitalize (s ++ t) = Text.capitalize s ++ t := by
  unfold Text.capitalize
  rw [String.toList_append]
  cases own : s.toList with
  | nil => exact absurd (String.toList_eq_nil_iff.mp own) nonempty
  | cons c rest => simp [String.ofList_append, String.append_assoc]

namespace Element

variable {e other : Element}

/-- A private element and a public one named like it with `Element` appended
have getters of one name. -/
theorem getterName_private_eq_public (privateNotRoot : e.isRoot = false)
    (isPrivate : e.isPublic = false) (publicNotRoot : other.isRoot = false)
    (isPublic : other.isPublic = true) (suffixed : other.name = e.name ++ "Element")
    (named : e.name ≠ "") : e.getterName = other.getterName := by
  simp [getterName, privateNotRoot, isPrivate, publicNotRoot, isPublic, suffixed,
    Text.capitalize_append named, String.append_assoc]

@[simp]
theorem getter_declaration_name (e : Element) : e.getter.declaration.name = e.getterName :=
  rfl

@[simp]
theorem getter_isPublic (e : Element) : e.getter.isPublic = e.isPublic :=
  rfl

theorem hasGetter_of_isPublic (isPublic : e.isPublic = true) : e.hasGetter = true := by
  simp [hasGetter, isPublic]

end Element

@[simp]
theorem CompiledMethod.toMethod_declaration_name (lookup : String → Option Element)
    (m : CompiledMethod) : (m.toMethod lookup).declaration.name = m.name :=
  rfl

@[simp]
theorem CompiledMethod.toMethod_isPublic (lookup : String → Option Element) (m : CompiledMethod) :
    (m.toMethod lookup).isPublic = true :=
  rfl

section Views

variable (elements : List Element) (methods : List CompiledMethod)

/-- The implementation names the getters it lists, then the declared methods. -/
theorem viewMethods_names :
    (viewMethods elements methods).map (·.declaration.name) =
      (elements.filter Element.hasGetter).map Element.getterName ++
        methods.map CompiledMethod.name := by
  simp [viewMethods, Function.comp_def]

/-- The interface keeps the getters of the public elements, then every declared
method. -/
theorem viewMethods_public :
    (viewMethods elements methods).filter PageObjectMethod.isPublic =
      (elements.filter Element.isPublic).map Element.getter ++
        methods.map (CompiledMethod.toMethod fun name => elements.find? fun e => e.name == name) := by
  -- every public element has a getter, so the public getters are those of the public elements
  have publicGetters :
      (elements.filter Element.hasGetter).filter Element.isPublic = elements.filter Element.isPublic := by
    rw [List.filter_filter]
    apply List.filter_congr
    intro e _
    cases isPublic : e.isPublic with
    | false => simp
    | true => simp [Element.hasGetter_of_isPublic isPublic]
  simp [viewMethods, List.filter_append, List.filter_map, Function.comp_def, publicGetters,
    List.filter_eq_self.mpr]

/-- The interface names the getters of the public elements, then the declared
methods. -/
theorem viewMethods_public_names :
    ((viewMethods elements methods).filter PageObjectMethod.isPublic).map (·.declaration.name) =
      (elements.filter Element.isPublic).map Element.getterName ++
        methods.map CompiledMethod.name := by
  simp [viewMethods_public, Function.comp_def]

end Views

section Assembly

variable {identifier : String} {pageType : TypeName} {elements : List Element}
  {methods : List CompiledMethod} {isInterface : Bool} {implements : Option Ty} {description : String}

/-- A page object that is not an interface has an implementation, which lists
the methods of `viewMethods`. -/
theorem assemble_implementation_methods {view : ImplementationView}
    (listed : view ∈ (assemble identifier pageType elements methods isInterface implements
      description).implementation) :
    view.methods = viewMethods elements methods := by
  cases isInterface with
  | true => simp [assemble] at listed
  | false =>
      simp only [assemble, Bool.false_eq_true, if_false, Option.mem_def, Option.some.injEq] at listed
      rw [← listed]

/-- The interface lists the public methods of the implementation's list. -/
theorem assemble_interface_methods {view : InterfaceView}
    (listed : view ∈ (assemble identifier pageType elements methods isInterface implements
      description).interface) :
    view.methods.map MethodDeclaration.name =
      ((viewMethods elements methods).filter PageObjectMethod.isPublic).map (·.declaration.name) := by
  cases implements with
  | some _ => simp [assemble] at listed
  | none =>
      simp only [assemble, Option.mem_def, Option.some.injEq] at listed
      rw [← listed, List.map_map]
      rfl

end Assembly

/-! ## What the name checks keep -/

/-- Compiled methods whose names differ from each other and from the name of
every element's getter. -/
structure NamedApart (elements : List Element) (methods : List CompiledMethod) : Prop where
  distinct : (methods.map CompiledMethod.name).Nodup
  apart : ∀ m ∈ methods, ∀ e ∈ elements, e.getterName ≠ m.name

theorem NamedApart.add {elements : List Element} {methods methods' : List CompiledMethod}
    {m : CompiledMethod} (named : NamedApart elements methods)
    (added : addMethod elements methods m = .ok methods') : NamedApart elements methods' := by
  obtain ⟨fresh, apartFromGetters, rfl⟩ := addMethod_eq_ok_iff.mp added
  constructor
  · simp only [List.map_append, List.map_cons, List.map_nil, List.nodup_append]
    refine ⟨named.distinct, List.nodup_cons.mpr ⟨nofun, List.nodup_nil⟩, ?_⟩
    intro name earlier other added same
    rw [List.mem_singleton.mp added] at same
    exact fresh (same ▸ earlier)
  · intro method member e element
    rcases List.mem_append.mp member with earlier | added
    · exact named.apart method earlier e element
    · rw [List.mem_singleton.mp added]
      exact apartFromGetters e element

/-- The compiled methods of a page object are named apart from each other and
from every getter. -/
theorem compileMethods_namedApart {s : Scope} {isInterface : Bool} {specs : List MethodSpec}
    {methods : List CompiledMethod} (compiled : compileMethods s isInterface specs = .ok methods) :
    NamedApart s.elements methods := by
  unfold compileMethods at compiled
  refine foldlM_preserves (NamedApart s.elements) (fun _ named stepped => ?_)
    (⟨List.nodup_nil, nofun⟩ : NamedApart s.elements []) compiled
  obtain ⟨m, -, added⟩ := bind_eq_ok.mp stepped
  exact named.add added

/-- Beside methods named apart from every getter, getters of the elements have
distinct names with the methods exactly when they have them alone. -/
theorem NamedApart.nodup_append_iff {elements listed : List Element}
    {methods : List CompiledMethod} (named : NamedApart elements methods)
    (declared : ∀ e ∈ listed, e ∈ elements) :
    (listed.map Element.getterName ++ methods.map CompiledMethod.name).Nodup ↔
      (listed.map Element.getterName).Nodup := by
  rw [List.nodup_append]
  constructor
  · exact fun ⟨getters, _, _⟩ => getters
  · intro getters
    refine ⟨getters, named.distinct, ?_⟩
    intro name getter methodName method same
    obtain ⟨e, member, rfl⟩ := List.mem_map.mp getter
    obtain ⟨m, methodMember, rfl⟩ := List.mem_map.mp method
    exact named.apart m methodMember e (declared e member) same

/-! ## Distinct names in the views -/

/--
The methods of a view of an accepted page object have distinct names exactly
when the getters it lists have: the getters of all elements but an unexposed
root for the implementation, of the public elements for the interface. The
declared methods never clash with each other or with a getter.
-/
theorem method_names_distinct_iff {settings : Settings} {identifier tree : Json}
    {declaration : Declaration} (accepted : compile settings identifier tree = .ok declaration) :
    ∃ run : AcceptedRun settings identifier tree declaration,
      (∀ view ∈ declaration.implementation,
        (view.methods.map (·.declaration.name)).Nodup ↔
          ((run.scope.elements.filter Element.hasGetter).map Element.getterName).Nodup) ∧
      (∀ view ∈ declaration.interface,
        (view.methods.map MethodDeclaration.name).Nodup ↔
          ((run.scope.elements.filter Element.isPublic).map Element.getterName).Nodup) := by
  obtain ⟨run⟩ := AcceptedRun.of_compile accepted
  have named := compileMethods_namedApart run.compiled
  refine ⟨run, fun view listed => ?_, fun view listed => ?_⟩
  · rw [run.assembled] at listed
    rw [assemble_implementation_methods listed, viewMethods_names]
    exact named.nodup_append_iff fun _ member => List.filter_sublist.subset member
  · rw [run.assembled] at listed
    rw [assemble_interface_methods listed, viewMethods_public_names]
    exact named.nodup_append_iff fun _ member => List.filter_sublist.subset member

/-- A private element `foo` and a public element `fooElement` are accepted, and the
implementation then lists two getters of one name. -/
theorem getters_collide_for_element_suffix :
    ∃ declaration, compile {} (.str "a/b/c") (.obj [("elements", .arr [
        .obj [("name", .str "foo"), ("selector", .obj [("css", .str ".a")])],
        .obj [("name", .str "fooElement"), ("public", .bool true), ("selector", .obj [("css", .str ".b")])]])]) = .ok declaration ∧
      ∃ view ∈ declaration.implementation, ¬ (view.methods.map (·.declaration.name)).Nodup := by
  obtain ⟨declaration, accepted⟩ := exists_ok_of_toBool
    (show (compile {} (.str "a/b/c") (.obj [("elements", .arr [
        .obj [("name", .str "foo"), ("selector", .obj [("css", .str ".a")])],
        .obj [("name", .str "fooElement"), ("public", .bool true), ("selector", .obj [("css", .str ".b")])]])])).toBool = true by decide +kernel)
  obtain ⟨run⟩ := AcceptedRun.of_compile accepted
  have notInterface : (Grammar.read ({} : Settings).strictGrammar (.obj [("elements", .arr [
        .obj [("name", .str "foo"), ("selector", .obj [("css", .str ".a")])],
        .obj [("name", .str "fooElement"), ("public", .bool true), ("selector", .obj [("css", .str ".b")])]])])).toOption.map
      PageObjectSpec.isInterface = some false := by decide +kernel
  have listed : (Grammar.read ({} : Settings).strictGrammar (.obj [("elements", .arr [
        .obj [("name", .str "foo"), ("selector", .obj [("css", .str ".a")])],
        .obj [("name", .str "fooElement"), ("public", .bool true), ("selector", .obj [("css", .str ".b")])]])]) >>= declareElements {}).toOption.map
      (fun s => (s.elements.filter Element.hasGetter).map fun e => (e.name, e.isRoot, e.isPublic)) =
      some [("foo", false, false), ("fooElement", false, true)] := by decide +kernel
  rw [run.read] at notInterface listed
  rw [ok_bind, run.declared] at listed
  simp only [Except.toOption, Option.map_some, Option.some.injEq] at notInterface listed
  refine ⟨declaration, accepted, ?_⟩
  rw [run.assembled, notInterface]
  refine ⟨_, rfl, ?_⟩
  change ¬ ((viewMethods run.scope.elements run.methods).map _).Nodup
  rw [viewMethods_names, List.nodup_append]
  rintro ⟨getters, -, -⟩
  -- the listed elements are the two of the document, and their getters share a name
  obtain ⟨first, rest, split, firstIs, restIs⟩ := List.map_eq_cons_iff.mp listed
  obtain ⟨second, none, rest, secondIs, noneIs⟩ := List.map_eq_cons_iff.mp restIs
  rw [List.map_eq_nil_iff] at noneIs
  rw [split, rest, noneIs] at getters
  simp only [Prod.mk.injEq] at firstIs secondIs
  obtain ⟨firstName, firstNotRoot, firstPrivate⟩ := firstIs
  obtain ⟨secondName, secondNotRoot, secondPublic⟩ := secondIs
  have same := Element.getterName_private_eq_public firstNotRoot firstPrivate secondNotRoot
    secondPublic (by rw [firstName, secondName]; decide) (by rw [firstName]; decide)
  simp [same] at getters

/-- The interface of that page object lists the public getter alone. -/
theorem interface_names_distinct_beside_element_suffix :
    ∃ declaration, compile {} (.str "a/b/c") (.obj [("elements", .arr [
        .obj [("name", .str "foo"), ("selector", .obj [("css", .str ".a")])],
        .obj [("name", .str "fooElement"), ("public", .bool true), ("selector", .obj [("css", .str ".b")])]])]) = .ok declaration ∧
      ∀ view ∈ declaration.interface, (view.methods.map MethodDeclaration.name).Nodup := by
  obtain ⟨declaration, accepted⟩ := exists_ok_of_toBool
    (show (compile {} (.str "a/b/c") (.obj [("elements", .arr [
        .obj [("name", .str "foo"), ("selector", .obj [("css", .str ".a")])],
        .obj [("name", .str "fooElement"), ("public", .bool true), ("selector", .obj [("css", .str ".b")])]])])).toBool = true by decide +kernel)
  obtain ⟨run, -, interfaceNames⟩ := method_names_distinct_iff accepted
  have publicOnes : (Grammar.read ({} : Settings).strictGrammar (.obj [("elements", .arr [
        .obj [("name", .str "foo"), ("selector", .obj [("css", .str ".a")])],
        .obj [("name", .str "fooElement"), ("public", .bool true), ("selector", .obj [("css", .str ".b")])]])]) >>= declareElements {}).toOption.map
      (fun s => (s.elements.filter Element.isPublic).length) = some 1 := by decide +kernel
  rw [run.read, ok_bind, run.declared] at publicOnes
  simp only [Except.toOption, Option.map_some, Option.some.injEq] at publicOnes
  obtain ⟨single, isSingle⟩ := List.length_eq_one_iff.mp publicOnes
  refine ⟨declaration, accepted, fun view listed => (interfaceNames view listed).mpr ?_⟩
  rw [isSingle]
  exact List.nodup_cons.mpr ⟨nofun, List.nodup_nil⟩

end PageObjects
