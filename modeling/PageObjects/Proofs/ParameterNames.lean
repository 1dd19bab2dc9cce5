import PageObjects.Proofs.Signatures
import PageObjects.Proofs.ScopeValidation

/-!
# Parameter names of method signatures

Every method of a compiled page object takes named parameters, and no two of
them share a name. Each kind of method gets there by a check of its own:

* a getter takes the named parameters of its element's selectors and of its
  ancestors' (checked when the element is built), then those of its filter and
  of the filter's matcher (checked again once the filter is resolved);
* a compose method takes those collected over its statements, checked after the
  collection;
* an external utility and an abstract method take their named arguments, which
  resolving checks;
* a chain takes the getter parameters of the component it starts at, which is a
  declared element and so was checked when it was built.

`signature_parameters_distinct` states the result for both views of an
accepted page object.
-/

namespace List

variable {α : Type} [BEq α] [LawfulBEq α]

/-- No item repeats one before it or one of `seen` exactly when the items are
distinct and none of them was seen. -/
theorem firstRepeatAfter_eq_none_iff {seen items : List α} :
    firstRepeatAfter seen items = none ↔ items.Nodup ∧ ∀ x ∈ items, x ∉ seen := by
  induction items generalizing seen with
  | nil => simp [firstRepeatAfter]
  | cons item rest restIH =>
      by_cases repeated : item ∈ seen
      · simp [firstRepeatAfter, repeated]
      · rw [firstRepeatAfter, if_neg (by simpa using repeated), restIH]
        simp only [List.nodup_cons, List.mem_cons, forall_eq_or_imp, not_or]
        constructor
        · rintro ⟨distinct, unseen⟩
          exact ⟨⟨fun member => (unseen item member).1 rfl, distinct⟩, repeated,
            fun x member => (unseen x member).2⟩
        · rintro ⟨⟨fresh, distinct⟩, -, unseen⟩
          exact ⟨distinct, fun x member => ⟨fun same => fresh (same ▸ member), unseen x member⟩⟩

theorem firstRepeat?_eq_none_iff {items : List α} : items.firstRepeat? = none ↔ items.Nodup := by
  simp [firstRepeat?, firstRepeatAfter_eq_none_iff]

end List

namespace PageObjects

/-! ## Named parameters -/

/-- Parameters fit for a signature: each is named, and no two share a name. -/
structure DistinctlyNamed (parameters : List Parameter) : Prop where
  named : ∀ p ∈ parameters, p.isNamed = true
  distinct : (parameterNames parameters).Nodup

@[simp]
theorem parameterNames_append (first second : List Parameter) :
    parameterNames (first ++ second) = parameterNames first ++ parameterNames second :=
  List.filterMap_append

@[simp]
theorem parameterNames_namedOnly (parameters : List Parameter) :
    parameterNames (namedOnly parameters) = parameterNames parameters := by
  induction parameters with
  | nil => rfl
  | cons p rest restIH =>
      cases p <;> simp_all [namedOnly, parameterNames, Parameter.isNamed, Parameter.name?, List.filter_cons,
        List.filterMap_cons]

theorem isNamed_of_mem_namedOnly {parameters : List Parameter} {p : Parameter}
    (member : p ∈ namedOnly parameters) : p.isNamed = true :=
  (List.mem_filter.mp member).2

/-- The named ones among parameters whose names are distinct fit a signature. -/
theorem DistinctlyNamed.namedOnly {parameters : List Parameter}
    (distinct : (parameterNames parameters).Nodup) : DistinctlyNamed (namedOnly parameters) :=
  ⟨fun _ => isNamed_of_mem_namedOnly, by rwa [parameterNames_namedOnly]⟩

/-- The check of distinct names passes exactly when the names are distinct. -/
theorem Resolver.checkDistinct_eq_ok {owner : Option String} {parameters : List Parameter} :
    checkDistinct owner parameters = .ok () ↔ (parameterNames parameters).Nodup := by
  unfold checkDistinct repeatedName?
  split
  · rename_i name repeated
    simp only [failWith_ne_ok, false_iff]
    intro distinct
    rw [List.firstRepeat?_eq_none_iff.mpr distinct] at repeated
    cases repeated
  · rename_i none_repeated
    simp only [true_iff]
    exact List.firstRepeat?_eq_none_iff.mp none_repeated

/-- Resolved arguments have distinct names. -/
theorem Resolver.resolve_distinct {r : Resolver} {args : List ArgumentSpec}
    {expected : Option (List Ty)} {parameters : List Parameter}
    (resolved : r.resolve args expected = .ok parameters) : (parameterNames parameters).Nodup := by
  unfold resolve at resolved
  obtain ⟨⟨⟩, -, resolved⟩ := bind_eq_ok.mp resolved
  obtain ⟨each, -, resolved⟩ := bind_eq_ok.mp resolved
  obtain ⟨⟨⟩, distinct, built⟩ := bind_eq_ok.mp resolved
  obtain rfl := pure_eq_ok.mp built
  exact checkDistinct_eq_ok.mp distinct

/-! ## Getters -/

namespace Element

variable {e : Element}

theorem getterParameters_isNamed {p : Parameter} (member : p ∈ e.getterParameters) :
    p.isNamed = true := by
  unfold getterParameters at member
  rcases List.mem_append.mp member with scopeNamed | filtered
  · exact isNamed_of_mem_namedOnly scopeNamed
  · split at filtered
    · rcases List.mem_append.mp filtered with own | matched
      · exact isNamed_of_mem_namedOnly own
      · split at matched
        · exact isNamed_of_mem_namedOnly matched
        · cases matched
    · cases filtered

/-- Without a filter, a getter takes the element's named scope parameters. -/
theorem getterParameters_of_filter_none (unfiltered : e.filter = none) :
    e.getterParameters = namedOnly e.parameters := by
  simp [getterParameters, unfiltered]

end Element

/-- An element `build` makes has a getter whose parameters have distinct names:
its scope parameters are checked, and with a filter the getter's parameters. -/
theorem Scope.build_getterParameters_distinct {s : Scope} {parent : Element} {spec : ElementSpec}
    {e : Element} (built : s.build parent spec = .ok e) :
    (parameterNames e.getterParameters).Nodup := by
  unfold build at built
  obtain ⟨selector, -, built⟩ := bind_eq_ok.mp built
  split at built
  · exact absurd built fail_ne_ok
  · obtain ⟨⟨⟩, scopeNamed, built⟩ := bind_eq_ok.mp built
    obtain ⟨type, -, built⟩ := bind_eq_ok.mp built
    dsimp only at built
    split at built
    · obtain ⟨filter, -, built⟩ := bind_eq_ok.mp built
      obtain ⟨⟨⟩, getterChecked, built⟩ := bind_eq_ok.mp built
      obtain rfl := pure_eq_ok.mp built
      exact Resolver.checkDistinct_eq_ok.mp getterChecked
    · obtain rfl := pure_eq_ok.mp built
      rw [Element.getterParameters_of_filter_none rfl, parameterNames_namedOnly]
      exact Resolver.checkDistinct_eq_ok.mp scopeNamed

/-- The root's getter takes no parameters. -/
theorem rootElement_getterParameters {s : Scope} {spec : PageObjectSpec} {root : Element}
    (built : rootElement s spec = .ok root) : root.getterParameters = [] := by
  unfold rootElement at built
  split at built
  · exact absurd built fail_ne_ok
  · split at built
    · exact absurd built fail_ne_ok
    · obtain ⟨selector, -, built⟩ := bind_eq_ok.mp built
      obtain ⟨type, -, built⟩ := bind_eq_ok.mp built
      obtain rfl := pure_eq_ok.mp built
      rfl

/-- Every declared element has a getter fit for a signature. -/
theorem declareElements_getters_distinct {settings : Settings} {spec : PageObjectSpec} {s : Scope}
    (run : declareElements settings spec = .ok s) :
    ∀ e ∈ s.elements, DistinctlyNamed e.getterParameters :=
  declareElements_forall
    (fun built => by rw [rootElement_getterParameters built]; exact ⟨nofun, List.nodup_nil⟩)
    (fun built => ⟨fun _ => Element.getterParameters_isNamed,
      Scope.build_getterParameters_distinct built⟩)
    run

/-! ## Compiled methods -/

/-- The parameters collected over statements that carry their elements' getter
parameters are named. -/
theorem collectParameters_isNamed {params : String → List Parameter} {statements : List Statement}
    (consistent : Consistent params statements) {p : Parameter}
    (member : p ∈ collectParameters statements) : p.isNamed = true := by
  obtain ⟨below, st, -, passed⟩ := (mem_collectParameters consistent).mp member
  exact Statement.isNamed_of_namedArguments passed

/-- Every compiled method of a page object whose elements have getters fit for
a signature is fit for one too. -/
theorem Scope.compileMethod_distinct {s : Scope} {isInterface : Bool} {spec : MethodSpec}
    {c : CompiledMethod} (elementsDistinct : ∀ e ∈ s.elements, DistinctlyNamed e.getterParameters)
    (compiled : s.compileMethod isInterface spec = .ok c) : DistinctlyNamed c.parameters := by
  obtain ⟨owner, ⟨-, -, abstract⟩ | ⟨specs, -, composed⟩ | ⟨links, -, -, chained⟩ |
      ⟨utility, -, -, -, called⟩⟩ := compileMethod_eq_ok compiled
  · obtain ⟨parameters, resolved, declared, -⟩ := compileAbstract_eq_ok abstract
    rw [declared]
    exact .namedOnly (Resolver.resolve_distinct resolved)
  · obtain ⟨statements, -, sequenced, -, collected, checked⟩ := compileCompose_built composed
    refine ⟨fun p member => ?_, Resolver.checkDistinct_eq_ok.mp checked⟩
    rw [collected] at member
    exact collectParameters_isNamed (compileSequence_consistent sequenced) member
  · obtain ⟨firstLink, rest, first, tail, -, started, declared, -⟩ := compileChain_eq_ok chained
    rw [declared]
    exact elementsDistinct first (lookup_eq_some (chainStart_eq_ok started).1).1
  · obtain ⟨type, parameters, resolved, declared, -⟩ := compileUtility_eq_ok called
    rw [declared]
    exact .namedOnly (Resolver.resolve_distinct resolved)

/-- Every method of the implementation of an accepted page object, getter or
compiled method, has a signature fit for one. -/
theorem AcceptedRun.viewMethods_distinct {settings : Settings} {identifier tree : Json}
    {declaration : Declaration} (run : AcceptedRun settings identifier tree declaration)
    {m : PageObjectMethod} (member : m ∈ viewMethods run.scope.elements run.methods) :
    DistinctlyNamed m.declaration.parameters := by
  have elementsDistinct := declareElements_getters_distinct run.declared
  rcases mem_viewMethods.mp member with ⟨e, declared, -, rfl⟩ | ⟨c, listed, rfl⟩
  · exact elementsDistinct e declared
  · obtain ⟨spec, -, methodCompiled⟩ := compileMethods_mem run.compiled c listed
    exact Scope.compileMethod_distinct elementsDistinct methodCompiled

/-- The interface lists the signatures of the public methods of the
implementation's list. -/
theorem assemble_interface_methods_eq {identifier : String} {pageType : TypeName}
    {elements : List Element} {methods : List CompiledMethod} {isInterface : Bool}
    {implements : Option Ty} {description : String} {view : InterfaceView}
    (listed : view ∈ (assemble identifier pageType elements methods isInterface implements
      description).interface) :
    view.methods = ((viewMethods elements methods).filter PageObjectMethod.isPublic).map
      PageObjectMethod.declaration := by
  cases implements with
  | some _ => simp [assemble] at listed
  | none =>
      simp only [assemble, Option.mem_def, Option.some.injEq] at listed
      rw [← listed]

/--
Every method signature of an accepted page object, in either view, takes named
parameters of distinct names: a getter's (its ancestors' and its own selector
parameters, then its filter's and its matcher's), a compose method's (collected
over its statements at every depth), a chain's (its first component's getter
parameters), an external utility's and an abstract method's (their named
arguments).
-/
theorem signature_parameters_distinct {settings : Settings} {identifier tree : Json}
    {declaration : Declaration} (accepted : compile settings identifier tree = .ok declaration) :
    (∀ view ∈ declaration.implementation, ∀ m ∈ view.methods,
      DistinctlyNamed m.declaration.parameters) ∧
    (∀ view ∈ declaration.interface, ∀ d ∈ view.methods, DistinctlyNamed d.parameters) := by
  obtain ⟨run⟩ := AcceptedRun.of_compile accepted
  refine ⟨fun view listed m member => ?_, fun view listed d member => ?_⟩
  · rw [run.assembled] at listed
    rw [assemble_implementation_methods listed] at member
    exact run.viewMethods_distinct member
  · rw [run.assembled] at listed
    rw [assemble_interface_methods_eq listed] at member
    obtain ⟨m, visible, rfl⟩ := List.mem_map.mp member
    exact run.viewMethods_distinct (List.mem_filter.mp visible).1

/-- A page object with a getter taking a scope parameter, a compose method that
collects it and a chain is accepted, and every signature of its implementation
takes named parameters of distinct names. -/
theorem signature_parameters_distinct_on_repeated_element :
    ∃ declaration, compile {} (.str "a/b/c") (.obj [
        ("elements", .arr [
          .obj [("name", .str "item"), ("public", .bool true),
            ("selector", .obj [("css", .str ".item[%s]"),
              ("args", .arr [.obj [("name", .str "key"), ("type", .str "string")]])])],
          .obj [("name", .str "part"), ("type", .str "a/b/part"), ("selector", .obj [("css", .str ".part")])]]),
        ("methods", .arr [
          .obj [("name", .str "read"), ("compose", .arr [
            .obj [("element", .str "item"), ("apply", .str "getAttribute"),
              ("args", .arr [.obj [("name", .str "attribute"), ("type", .str "string")]])],
            .obj [("element", .str "item"), ("apply", .str "getText")]])],
          .obj [("name", .str "open"), ("chain", .arr [.obj [("element", .str "part")]])]])]) = .ok declaration ∧
      ∀ view ∈ declaration.implementation, ∀ m ∈ view.methods,
        DistinctlyNamed m.declaration.parameters := by
  obtain ⟨declaration, accepted⟩ := exists_ok_of_toBool
    (show (compile {} (.str "a/b/c") (.obj [
        ("elements", .arr [
          .obj [("name", .str "item"), ("public", .bool true),
            ("selector", .obj [("css", .str ".item[%s]"),
              ("args", .arr [.obj [("name", .str "key"), ("type", .str "string")]])])],
          .obj [("name", .str "part"), ("type", .str "a/b/part"), ("selector", .obj [("css", .str ".part")])]]),
        ("methods", .arr [
          .obj [("name", .str "read"), ("compose", .arr [
            .obj [("element", .str "item"), ("apply", .str "getAttribute"),
              ("args", .arr [.obj [("name", .str "attribute"), ("type", .str "string")]])],
            .obj [("element", .str "item"), ("apply", .str "getText")]])],
          .obj [("name", .str "open"), ("chain", .arr [.obj [("element", .str "part")]])]])])).toBool = true by decide +kernel)
  exact ⟨declaration, accepted, (signature_parameters_distinct accepted).1⟩

end PageObjects
