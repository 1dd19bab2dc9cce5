import Mathlib.Data.List.Induction
import PageObjects.Proofs.ParameterNames

/-!
# Import lists

Every import list of a compiled page object is the ordered closure of the
types it serves, each type once. A signature imports the closure of its return
type and parameter types (`requiredImports`). The interface merges the public
methods' lists, which is the same as closing the concatenation of their
signatures in one pass. The implementation merges the implemented type, every
method's signature and class imports, and the utility types.

The two paths agree because `List.firstOccurrences` may be applied to any
group of a concatenation without changing what a later fold appends
(`List.foldl_appendNew_firstOccurrences`): a repeat meets its first occurrence
already present. The closure is described by `ImportClosure`: no repeats, no
primitive or `void`, a list type comes with what its items need, and a basic
element type with several capabilities is imported as one type per capability.
-/

namespace List

theorem flatten_map_flatMap {α β : Type} (f : β → List α) (groups : List (List β)) :
    (groups.map (flatMap f)).flatten = groups.flatten.flatMap f := by
  induction groups with
  | nil => rfl
  | cons group rest restIH => rw [map_cons, flatten_cons, flatten_cons, restIH, flatMap_append]

variable {α : Type} [BEq α] [LawfulBEq α]

theorem appendNew_of_mem {seen : List α} {item : α} (present : item ∈ seen) :
    seen.appendNew item = seen := by
  rw [appendNew, if_pos (contains_iff_mem.mpr present)]

theorem appendNew_of_not_mem {seen : List α} {item : α} (absent : item ∉ seen) :
    seen.appendNew item = seen ++ [item] := by
  rw [appendNew, if_neg (mt contains_iff_mem.mp absent)]

theorem mem_appendNew {seen : List α} {item x : α} :
    x ∈ seen.appendNew item ↔ x ∈ seen ∨ x = item := by
  by_cases present : item ∈ seen
  · rw [appendNew_of_mem present]
    exact ⟨Or.inl, fun held => held.elim id (fun same => same ▸ present)⟩
  · rw [appendNew_of_not_mem present, mem_append, mem_singleton]

theorem mem_foldl_appendNew {acc items : List α} {x : α} :
    x ∈ items.foldl appendNew acc ↔ x ∈ acc ∨ x ∈ items := by
  induction items generalizing acc with
  | nil => simp
  | cons item rest restIH =>
      rw [foldl_cons, restIH, mem_appendNew, mem_cons]
      simp only [or_assoc, or_left_comm]

theorem nodup_foldl_appendNew {acc : List α} (distinct : acc.Nodup) (items : List α) :
    (items.foldl appendNew acc).Nodup := by
  induction items generalizing acc with
  | nil => exact distinct
  | cons item rest restIH =>
      refine restIH ?_
      by_cases present : item ∈ acc
      · rwa [appendNew_of_mem present]
      · rw [appendNew_of_not_mem present]
        exact nodup_append.mpr ⟨distinct, pairwise_singleton _ item,
          fun _ old _ new same => present (mem_singleton.mp new ▸ same ▸ old)⟩

@[simp]
theorem mem_firstOccurrences {items : List α} {x : α} :
    x ∈ items.firstOccurrences ↔ x ∈ items := by
  simp [firstOccurrences, mem_foldl_appendNew]

theorem nodup_firstOccurrences (items : List α) : items.firstOccurrences.Nodup :=
  nodup_foldl_appendNew nodup_nil items

omit [LawfulBEq α] in
theorem firstOccurrences_append_singleton (items : List α) (item : α) :
    (items ++ [item]).firstOccurrences = items.firstOccurrences.appendNew item := by
  rw [firstOccurrences, foldl_append, foldl_cons, foldl_nil]
  rfl

/-- Folding over the first occurrences of a list appends what folding over the
list itself appends. -/
theorem foldl_appendNew_firstOccurrences (acc items : List α) :
    items.firstOccurrences.foldl appendNew acc = items.foldl appendNew acc := by
  -- from the back: the last item is either a repeat, which neither fold
  -- appends, or new to both
  induction items using List.reverseRecOn with
  | nil => rfl
  | append_singleton items item itemsIH =>
      rw [firstOccurrences_append_singleton, foldl_append, foldl_cons, foldl_nil]
      by_cases repeated : item ∈ items
      · have present : item ∈ items.foldl appendNew acc :=
          mem_foldl_appendNew.mpr (Or.inr repeated)
        rw [appendNew_of_mem (mem_firstOccurrences.mpr repeated), appendNew_of_mem present,
          itemsIH]
      · rw [appendNew_of_not_mem (mt mem_firstOccurrences.mp repeated), foldl_append, foldl_cons,
          foldl_nil, itemsIH]

theorem firstOccurrences_append_firstOccurrences (front items : List α) :
    (front ++ items.firstOccurrences).firstOccurrences = (front ++ items).firstOccurrences := by
  rw [firstOccurrences, foldl_append, foldl_appendNew_firstOccurrences, ← foldl_append]
  rfl

/-- Taking first occurrences group by group first changes nothing. -/
theorem firstOccurrences_flatten_map_firstOccurrences (groups : List (List α)) :
    (groups.map firstOccurrences).flatten.firstOccurrences = groups.flatten.firstOccurrences := by
  suffices folded : ∀ acc, (groups.map firstOccurrences).flatten.foldl appendNew acc =
      groups.flatten.foldl appendNew acc from folded []
  induction groups with
  | nil => exact fun _ => rfl
  | cons group rest restIH =>
      intro acc
      rw [map_cons, flatten_cons, flatten_cons, foldl_append, foldl_append,
        foldl_appendNew_firstOccurrences, restIH]

end List

namespace PageObjects

namespace Ty

/-- Whether a type may stand in an import list: neither a primitive nor `void`,
and a basic element type only with at most one capability. -/
def importable : Ty → Bool
  | primitive _ => false
  | void => false
  | basic cs => decide (cs.length ≤ 1)
  | _ => true

/-- The type at the bottom of a list type, or the type itself. -/
def innermost : Ty → Ty
  | list item => item.innermost
  | other => other

theorem importable_of_mem_referenced {t u : Ty} (referenced : u ∈ t.referenced) :
    u.importable = true := by
  induction t with
  | list item itemIH =>
      rcases List.mem_cons.mp referenced with rfl | inner
      · rfl
      · exact itemIH inner
  | basic cs =>
      rw [Ty.referenced] at referenced
      split at referenced
      · rename_i few
        rw [List.mem_singleton.mp referenced, importable, decide_eq_true few]
      · obtain ⟨c, -, rfl⟩ := List.mem_map.mp referenced
        rfl
  | primitive p => cases referenced
  | void => cases referenced
  | _ =>
      rw [List.mem_singleton.mp referenced]
      rfl

/-- What a list type references includes what its items reference, at every
depth. -/
theorem referenced_of_list_mem_referenced {t item : Ty} (listed : Ty.list item ∈ t.referenced) :
    ∀ u ∈ item.referenced, u ∈ t.referenced := by
  induction t with
  | list inner innerIH =>
      intro u referenced
      rcases List.mem_cons.mp listed with same | deeper
      · cases same
        exact List.mem_cons_of_mem _ referenced
      · exact List.mem_cons_of_mem _ (innerIH deeper u referenced)
  | basic cs =>
      rw [Ty.referenced] at listed
      split at listed
      · cases List.mem_singleton.mp listed
      · obtain ⟨c, -, different⟩ := List.mem_map.mp listed
        cases different
  | primitive p => cases listed
  | void => cases listed
  | _ => cases List.mem_singleton.mp listed

theorem eq_singleton_of_length_le_one {cs : List Capability} (few : cs.length ≤ 1)
    {c : Capability} (member : c ∈ cs) : cs = [c] := by
  match cs, few, member with
  | [_], _, member => rw [List.mem_singleton.mp member]

/-- A type whose innermost type is a basic element type references the
single-capability type of each of its capabilities. -/
theorem single_mem_referenced {t : Ty} {cs : List Capability} (bottom : t.innermost = .basic cs)
    {c : Capability} (member : c ∈ cs) : Ty.basic [c] ∈ t.referenced := by
  induction t with
  | list item itemIH => exact List.mem_cons_of_mem _ (itemIH bottom)
  | basic capabilities =>
      cases bottom
      rw [Ty.referenced]
      split
      · rename_i few
        rw [← eq_singleton_of_length_le_one few member]
        exact List.mem_singleton_self _
      · exact List.mem_map_of_mem member
  | _ => cases bottom

end Ty

/-- A group of types that may be imported together: each is importable, and
with a list type the group holds what its items reference. -/
structure ImportGroup (types : List Ty) : Prop where
  importable : ∀ t ∈ types, t.importable = true
  listClosed : ∀ item, Ty.list item ∈ types → ∀ t ∈ item.referenced, t ∈ types

/-- An import list for some source types: an import group without repeats that
holds what every source references, in particular one single-capability type
for each capability of a basic element type at the bottom of a source. -/
structure ImportClosure (sources imports : List Ty) : Prop extends ImportGroup imports where
  nodup : imports.Nodup
  covers : ∀ source ∈ sources, ∀ t ∈ source.referenced, t ∈ imports
  capabilities : ∀ source ∈ sources, ∀ cs, source.innermost = .basic cs →
    ∀ c ∈ cs, Ty.basic [c] ∈ imports

@[simp]
theorem mem_requiredImports {types : List Ty} {t : Ty} :
    t ∈ requiredImports types ↔ ∃ source ∈ types, t ∈ source.referenced := by
  simp [requiredImports]

theorem importGroup_referenced (types : List Ty) : ImportGroup (types.flatMap Ty.referenced) where
  importable t member := by
    obtain ⟨source, -, referenced⟩ := List.mem_flatMap.mp member
    exact Ty.importable_of_mem_referenced referenced
  listClosed item member t referenced := by
    obtain ⟨source, listed, inSource⟩ := List.mem_flatMap.mp member
    exact List.mem_flatMap.mpr
      ⟨source, listed, Ty.referenced_of_list_mem_referenced inSource t referenced⟩

/-- Types that reference only themselves, such as page-object types, make up
an import group. -/
theorem importGroup_of_referenced_self {types : List Ty}
    (self : ∀ t ∈ types, t.referenced = [t]) : ImportGroup types where
  importable t member := by
    have own : t ∈ t.referenced := by
      rw [self t member]
      exact List.mem_singleton_self t
    exact Ty.importable_of_mem_referenced own
  listClosed item member t referenced := by
    have listOnly := self _ member
    rw [Ty.referenced, List.cons.injEq] at listOnly
    rw [listOnly.2] at referenced
    cases referenced

namespace ImportGroup

theorem firstOccurrences {types : List Ty} (group : ImportGroup types) :
    ImportGroup types.firstOccurrences where
  importable t member := group.importable t (List.mem_firstOccurrences.mp member)
  listClosed item member t referenced := List.mem_firstOccurrences.mpr
    (group.listClosed item (List.mem_firstOccurrences.mp member) t referenced)

theorem flatten {groups : List (List Ty)} (each : ∀ g ∈ groups, ImportGroup g) :
    ImportGroup groups.flatten where
  importable t member := by
    obtain ⟨g, listed, inGroup⟩ := List.mem_flatten.mp member
    exact (each g listed).importable t inGroup
  listClosed item member t referenced := by
    obtain ⟨g, listed, inGroup⟩ := List.mem_flatten.mp member
    exact List.mem_flatten.mpr ⟨g, listed, (each g listed).listClosed item inGroup t referenced⟩

/-- The first occurrences of a group that holds what some sources reference
close over those sources. -/
theorem closure {sources types : List Ty} (group : ImportGroup types)
    (covers : ∀ source ∈ sources, ∀ t ∈ source.referenced, t ∈ types) :
    ImportClosure sources types.firstOccurrences where
  toImportGroup := group.firstOccurrences
  nodup := List.nodup_firstOccurrences types
  covers source listed t referenced :=
    List.mem_firstOccurrences.mpr (covers source listed t referenced)
  capabilities source listed _ bottom _ member :=
    List.mem_firstOccurrences.mpr (covers source listed _ (Ty.single_mem_referenced bottom member))

end ImportGroup

theorem requiredImports_closure (types : List Ty) : ImportClosure types (requiredImports types) :=
  (importGroup_referenced types).closure
    (fun source listed _ referenced => List.mem_flatMap.mpr ⟨source, listed, referenced⟩)

/-- Merging the closures of several groups of types is closing their
concatenation. -/
theorem mergeImports_map_requiredImports (groups : List (List Ty)) :
    mergeImports (groups.map requiredImports) = requiredImports groups.flatten := by
  have closures : groups.map requiredImports =
      (groups.map (List.flatMap Ty.referenced)).map List.firstOccurrences := by
    rw [List.map_map]
    rfl
  rw [mergeImports, closures, List.firstOccurrences_flatten_map_firstOccurrences,
    List.flatten_map_flatMap]
  rfl

theorem requiredImports_group (types : List Ty) : ImportGroup (requiredImports types) :=
  (importGroup_referenced types).firstOccurrences

/-- The implementation's merge: first occurrences of the implemented type, the
groups of the signatures and classes, then the utility types. -/
theorem mergeImports_implementation (implemented : Ty) (signatures classes : List (List Ty))
    (utilities : List Ty) :
    mergeImports ([[implemented]] ++ signatures ++ classes ++ [utilities.firstOccurrences]) =
      (implemented :: signatures.flatten ++ classes.flatten ++ utilities).firstOccurrences := by
  simp only [mergeImports, List.flatten_append, List.flatten_cons, List.flatten_nil,
    List.append_nil, List.singleton_append]
  exact List.firstOccurrences_append_firstOccurrences _ utilities

/-! ## Signatures and bodies -/

/-- The types a signature names: its return type, then its parameters' types. -/
def MethodDeclaration.signatureTypes (d : MethodDeclaration) : List Ty :=
  d.returnType :: d.parameters.map Parameter.type

/-- The utility type a method of the implementation calls, if any. -/
def PageObjectMethod.utilityType? (m : PageObjectMethod) : Option Ty :=
  match m.body with
  | .method (.utility type _ _) => some type
  | _ => none

@[simp]
theorem PageObjectMethod.utilityType?_toMethod (lookup : String → Option Element)
    (c : CompiledMethod) : (c.toMethod lookup).utilityType? = c.utilityType? := by
  rcases c with ⟨_, _, _, body, _⟩
  cases body <;> rfl

@[simp]
theorem PageObjectMethod.utilityType?_getter (e : Element) : e.getter.utilityType? = none := rfl

theorem pageObjectType_eq_ok {owner token : String} {t : Ty}
    (typed : pageObjectType owner token = .ok t) : ∃ name, t = .custom name := by
  rw [pageObjectType] at typed
  split at typed
  · exact absurd typed fail_ne_ok
  · obtain ⟨name, -, built⟩ := bind_eq_ok.mp typed
    exact ⟨name, (pure_eq_ok.mp built).symm⟩

/-- A page object implements a page-object type, if any. -/
theorem implementedType_eq_ok {token : Option String} {implements : Option Ty}
    (typed : implementedType token = .ok implements) : ∀ t ∈ implements, ∃ name, t = .custom name := by
  intro t member
  cases token with
  | none =>
      cases typed
      cases member
  | some token =>
      rw [implementedType] at typed
      split at typed
      · cases typed
      · obtain ⟨name, -, built⟩ := bind_eq_ok.mp typed
        rw [← pure_eq_ok.mp built, Option.mem_def, Option.some.injEq] at member
        exact ⟨name, member.symm⟩

namespace Scope

variable {s : Scope} {owner : String} {spec : MethodSpec} {m : CompiledMethod}

theorem compileUtility_utilityType {utility : UtilitySpec}
    (compiled : s.compileUtility owner spec utility = .ok m) :
    ∀ t ∈ m.utilityType?, ∃ name, t = .custom name := by
  rw [compileUtility.eq_1] at compiled
  split at compiled
  · exact absurd compiled fail_ne_ok
  · obtain ⟨type, typed, compiled⟩ := bind_eq_ok.mp compiled
    obtain ⟨parameters, -, compiled⟩ := bind_eq_ok.mp compiled
    obtain ⟨returnType, -, built⟩ := bind_eq_ok.mp compiled
    obtain rfl := pure_eq_ok.mp built
    intro t member
    rw [CompiledMethod.utilityType?, Option.mem_def, Option.some.injEq] at member
    rw [← member]
    exact pageObjectType_eq_ok typed

/-- The only methods that call a utility type are external utility methods,
and the type they call is a page-object type. -/
theorem compileMethod_utilityType {isInterface : Bool}
    (compiled : s.compileMethod isInterface spec = .ok m) :
    ∀ t ∈ m.utilityType?, ∃ name, t = .custom name := by
  obtain ⟨owner, ⟨-, -, abstract⟩ | ⟨specs, -, composed⟩ | ⟨links, -, -, chained⟩ |
      ⟨utility, -, -, -, called⟩⟩ := compileMethod_eq_ok compiled
  · obtain ⟨_, -, -, body⟩ := compileAbstract_eq_ok abstract
    simp [CompiledMethod.utilityType?, body]
  · obtain ⟨_, -, -, body⟩ := compileCompose_eq_ok composed
    simp [CompiledMethod.utilityType?, body]
  · obtain ⟨_, body⟩ := compileChain_body chained
    simp [CompiledMethod.utilityType?, body]
  · exact compileUtility_utilityType called

end Scope

/-! ## The import lists of the views -/

section Views

variable {elements : List Element} {methods : List CompiledMethod} {m : PageObjectMethod}

/-- Every method of the implementation imports the closure of its signature,
and its body the closure of some types. -/
theorem viewMethods_imports (member : m ∈ viewMethods elements methods) :
    m.declaration.imports = requiredImports m.declaration.signatureTypes ∧
      ∃ sources, m.classImports = requiredImports sources := by
  rcases mem_viewMethods.mp member with ⟨e, -, -, rfl⟩ | ⟨c, -, rfl⟩
  · exact ⟨rfl, [e.type], rfl⟩
  · exact ⟨rfl, _, rfl⟩

theorem viewMethods_utilityTypes :
    (viewMethods elements methods).filterMap PageObjectMethod.utilityType? =
      methods.filterMap CompiledMethod.utilityType? := by
  simp [viewMethods, List.filterMap_map, Function.comp_def]

variable {identifier : String} {pageType : TypeName} {isInterface : Bool}
  {implements : Option Ty} {description : String}

theorem assemble_interface_imports {view : InterfaceView}
    (listed : view ∈ (assemble identifier pageType elements methods isInterface implements
      description).interface) :
    view.imports = mergeImports (view.methods.map MethodDeclaration.imports) := by
  cases implements with
  | some _ => simp [assemble] at listed
  | none =>
      simp only [assemble, Option.mem_def, Option.some.injEq] at listed
      rw [← listed, List.map_map]
      rfl

theorem assemble_implementation_imports {view : ImplementationView}
    (listed : view ∈ (assemble identifier pageType elements methods isInterface implements
      description).implementation) :
    view.implements = implements.getD (.custom pageType) ∧
      view.imports = mergeImports ([[view.implements]] ++ view.methods.map (·.declaration.imports) ++
        view.methods.map PageObjectMethod.classImports ++
        [(methods.filterMap CompiledMethod.utilityType?).firstOccurrences]) := by
  cases isInterface with
  | true => simp [assemble] at listed
  | false =>
      simp only [assemble, Bool.false_eq_true, if_false, Option.mem_def, Option.some.injEq] at listed
      rw [← listed]
      exact ⟨rfl, rfl⟩

end Views

/-- The implementation's merge closes over the implemented type and every
signature, when the implemented and utility types reference only themselves. -/
theorem mergeImports_implementation_closure {implemented : Ty} {ms : List PageObjectMethod}
    {utilities : List Ty} (implementedSelf : implemented.referenced = [implemented])
    (signed : ∀ m ∈ ms, m.declaration.imports = requiredImports m.declaration.signatureTypes ∧
      ∃ sources, m.classImports = requiredImports sources)
    (utilitySelf : ∀ t ∈ utilities, t.referenced = [t]) :
    ImportClosure (implemented :: ms.flatMap (·.declaration.signatureTypes))
      (mergeImports ([[implemented]] ++ ms.map (·.declaration.imports) ++
        ms.map PageObjectMethod.classImports ++ [utilities.firstOccurrences])) := by
  refine ImportGroup.closure (ImportGroup.flatten ?_) ?_
  · intro g listed
    simp only [List.mem_append, List.mem_singleton, List.mem_map] at listed
    rcases listed with ((rfl | ⟨m, member, rfl⟩) | ⟨m, member, rfl⟩) | rfl
    · exact importGroup_of_referenced_self (by simpa using implementedSelf)
    · rw [(signed m member).1]
      exact requiredImports_group _
    · obtain ⟨sources, classes⟩ := (signed m member).2
      rw [classes]
      exact requiredImports_group sources
    · exact (importGroup_of_referenced_self utilitySelf).firstOccurrences
  · intro source listed t referenced
    rw [List.mem_flatten]
    rcases List.mem_cons.mp listed with rfl | signature
    · rw [implementedSelf] at referenced
      exact ⟨[source], by simp, referenced⟩
    · obtain ⟨m, member, inSignature⟩ := List.mem_flatMap.mp signature
      refine ⟨m.declaration.imports, List.mem_append_left _ (List.mem_append_left _
        (List.mem_append_right _ (List.mem_map_of_mem member))), ?_⟩
      rw [(signed m member).1]
      exact mem_requiredImports.mpr ⟨source, inSignature, referenced⟩

section Accepted

variable {settings : Settings} {identifier tree : Json} {declaration : Declaration}

/-- The interface's signatures import their closures, and so does the
interface, in one pass. -/
theorem AcceptedRun.interface_imports (run : AcceptedRun settings identifier tree declaration)
    {view : InterfaceView} (listed : view ∈ declaration.interface) :
    (∀ d ∈ view.methods, d.imports = requiredImports d.signatureTypes) ∧
      view.imports = mergeImports (view.methods.map MethodDeclaration.imports) ∧
      view.imports = requiredImports (view.methods.flatMap MethodDeclaration.signatureTypes) := by
  rw [run.assembled] at listed
  have signed : ∀ d ∈ view.methods, d.imports = requiredImports d.signatureTypes := by
    intro d member
    rw [assemble_interface_methods_eq listed] at member
    obtain ⟨m, visible, rfl⟩ := List.mem_map.mp member
    exact (viewMethods_imports (List.mem_filter.mp visible).1).1
  have merged := assemble_interface_imports listed
  refine ⟨signed, merged, ?_⟩
  rw [merged, List.map_congr_left signed, List.flatMap, ← mergeImports_map_requiredImports,
    List.map_map]
  rfl

/-- The implementation's imports are the first occurrences of the implemented
type, the signature and class imports and the utility types, and close over
the implemented type and every signature. -/
theorem AcceptedRun.implementation_imports (run : AcceptedRun settings identifier tree declaration)
    {view : ImplementationView} (listed : view ∈ declaration.implementation) :
    (∀ m ∈ view.methods, m.declaration.imports = requiredImports m.declaration.signatureTypes ∧
        ∃ sources, m.classImports = requiredImports sources) ∧
      view.imports = (view.implements :: (view.methods.map (·.declaration.imports)).flatten ++
        (view.methods.map PageObjectMethod.classImports).flatten ++
        view.methods.filterMap PageObjectMethod.utilityType?).firstOccurrences ∧
      ImportClosure (view.implements :: view.methods.flatMap (·.declaration.signatureTypes))
        view.imports := by
  rw [run.assembled] at listed
  obtain ⟨implemented, imports⟩ := assemble_implementation_imports listed
  have methods := assemble_implementation_methods listed
  have signed : ∀ m ∈ view.methods, m.declaration.imports = requiredImports
      m.declaration.signatureTypes ∧ ∃ sources, m.classImports = requiredImports sources :=
    fun m member => viewMethods_imports (methods ▸ member)
  -- the implemented type and the utility types are page-object types
  have implementedSelf : view.implements.referenced = [view.implements] := by
    rw [implemented]
    cases found : run.implements with
    | none => rfl
    | some t =>
        obtain ⟨name, rfl⟩ := implementedType_eq_ok run.implemented t (Option.mem_def.mpr found)
        rfl
  have utilitySelf : ∀ t ∈ run.methods.filterMap CompiledMethod.utilityType?,
      t.referenced = [t] := by
    intro t member
    obtain ⟨c, listedMethod, called⟩ := List.mem_filterMap.mp member
    obtain ⟨spec, -, compiled⟩ := compileMethods_mem run.compiled c listedMethod
    obtain ⟨name, rfl⟩ := Scope.compileMethod_utilityType compiled t called
    rfl
  refine ⟨signed, ?_, ?_⟩
  · rw [imports, mergeImports_implementation, methods, viewMethods_utilityTypes]
  · rw [imports]
    exact mergeImports_implementation_closure implementedSelf signed utilitySelf

/-- Every import of the interface is an import of the implementation. -/
theorem AcceptedRun.interface_imports_subset (run : AcceptedRun settings identifier tree declaration)
    {face : InterfaceView} (faced : face ∈ declaration.interface) {body : ImplementationView}
    (bodied : body ∈ declaration.implementation) : ∀ t ∈ face.imports, t ∈ body.imports := by
  intro t member
  rw [run.assembled] at faced bodied
  rw [assemble_interface_imports faced, mergeImports, List.mem_firstOccurrences,
    List.mem_flatten] at member
  obtain ⟨group, listedGroup, inGroup⟩ := member
  obtain ⟨d, declared, rfl⟩ := List.mem_map.mp listedGroup
  rw [assemble_interface_methods_eq faced] at declared
  obtain ⟨m, visible, rfl⟩ := List.mem_map.mp declared
  have listedMethod : m ∈ body.methods := by
    rw [assemble_implementation_methods bodied]
    exact (List.mem_filter.mp visible).1
  rw [(assemble_implementation_imports bodied).2, mergeImports, List.mem_firstOccurrences,
    List.mem_flatten]
  exact ⟨m.declaration.imports, List.mem_append_left _ (List.mem_append_left _
    (List.mem_append_right _ (List.mem_map_of_mem listedMethod))), inGroup⟩

end Accepted

/--
The import lists of an accepted page object are ordered closures, each type
once. Every signature imports the closure of its return type and parameter
types, and every body the closure of some types. The interface imports the
closure of its signatures' types taken in one pass, which is the merge of its
signatures' imports. The implementation imports the first occurrences of the
implemented type, every signature's and every body's imports and the utility
types, in this order; it closes over the implemented type and every signature,
and holds every import of the interface.
-/
theorem import_lists_are_closures {settings : Settings} {identifier tree : Json}
    {declaration : Declaration} (accepted : compile settings identifier tree = .ok declaration) :
    (∀ view ∈ declaration.interface,
      (∀ d ∈ view.methods, d.imports = requiredImports d.signatureTypes ∧
        ImportClosure d.signatureTypes d.imports) ∧
      view.imports = mergeImports (view.methods.map MethodDeclaration.imports) ∧
      view.imports = requiredImports (view.methods.flatMap MethodDeclaration.signatureTypes) ∧
      ImportClosure (view.methods.flatMap MethodDeclaration.signatureTypes) view.imports) ∧
    (∀ view ∈ declaration.implementation,
      (∀ m ∈ view.methods,
        m.declaration.imports = requiredImports m.declaration.signatureTypes ∧
        ImportClosure m.declaration.signatureTypes m.declaration.imports ∧
        ∃ sources, m.classImports = requiredImports sources ∧
          ImportClosure sources m.classImports) ∧
      view.imports = (view.implements :: (view.methods.map (·.declaration.imports)).flatten ++
        (view.methods.map PageObjectMethod.classImports).flatten ++
        view.methods.filterMap PageObjectMethod.utilityType?).firstOccurrences ∧
      ImportClosure (view.implements :: view.methods.flatMap (·.declaration.signatureTypes))
        view.imports) ∧
    ∀ face ∈ declaration.interface, ∀ body ∈ declaration.implementation,
      ∀ t ∈ face.imports, t ∈ body.imports := by
  obtain ⟨run⟩ := AcceptedRun.of_compile accepted
  refine ⟨fun view listed => ?_, fun view listed => ?_,
    fun face faced body bodied => run.interface_imports_subset faced bodied⟩
  · obtain ⟨signed, merged, closed⟩ := run.interface_imports listed
    refine ⟨fun d member => ⟨signed d member, ?_⟩, merged, closed, ?_⟩
    · rw [signed d member]
      exact requiredImports_closure _
    · rw [closed]
      exact requiredImports_closure _
  · obtain ⟨signed, ordered, closure⟩ := run.implementation_imports listed
    refine ⟨fun m member => ?_, ordered, closure⟩
    obtain ⟨signature, sources, classes⟩ := signed m member
    refine ⟨signature, ?_, sources, classes, ?_⟩
    · rw [signature]
      exact requiredImports_closure _
    · rw [classes]
      exact requiredImports_closure _

/-- A page object with a list of two-capability elements and an external
utility method is accepted, and its interface imports the closure of its
signatures in one pass. -/
theorem interface_imports_close_list_of_capabilities :
    ∃ declaration, compile {} (.str "a/b/c") (.obj [
        ("elements", .arr [
          .obj [("name", .str "row"), ("public", .bool true),
            ("type", .arr [.str "editable", .str "clickable"]),
            ("selector", .obj [("css", .str ".row"), ("returnAll", .bool true)])]]),
        ("methods", .arr [
          .obj [("name", .str "m"), ("externalUtility", .obj [("type", .str "a/b/util"),
            ("invoke", .str "f"), ("args", .arr [])])]])]) = .ok declaration ∧
      ∀ view ∈ declaration.interface,
        view.imports = requiredImports (view.methods.flatMap MethodDeclaration.signatureTypes) := by
  obtain ⟨declaration, accepted⟩ := exists_ok_of_toBool
    (show (compile {} (.str "a/b/c") (.obj [
        ("elements", .arr [
          .obj [("name", .str "row"), ("public", .bool true),
            ("type", .arr [.str "editable", .str "clickable"]),
            ("selector", .obj [("css", .str ".row"), ("returnAll", .bool true)])]]),
        ("methods", .arr [
          .obj [("name", .str "m"), ("externalUtility", .obj [("type", .str "a/b/util"),
            ("invoke", .str "f"), ("args", .arr [])])]])])).toBool = true by decide +kernel)
  exact ⟨declaration, accepted,
    fun view listed => ((import_lists_are_closures accepted).1 view listed).2.2.1⟩

end PageObjects
