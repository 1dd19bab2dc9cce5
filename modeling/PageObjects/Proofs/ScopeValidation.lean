import PageObjects.Proofs.Stages

/-!
# The scope validator

Declaring an element checks it against the elements declared before it: its
name against all of them, and its selector against each earlier element of
its scope, and against the root when it lives in the root's scope and the root
has a selector. Each check is local and one-sided: the new element is the first
argument of `Element.conflict?`, an earlier one the second.

This module shows that these local checks establish exactly a global law over
the declared elements, whatever the shape of the element tree:

* the names are distinct, and only the root is named `root`;
* two elements of one scope that locate the same nodes are never a component
  and a basic element, and two such components have one type;
* no element of the root's scope locates the nodes of a root with a selector.

Conversely, a page object whose elements, declared with their names checked
but their selectors not, break one of the last two laws is refused, whichever
of the two elements comes first. The element stage without the selector
checks is `declareElementsBy Scope.declareNamed`; `Follows` relates the runs
with and without the checks, and is carried through the declaration recursion
by a bind lemma.
-/

namespace PageObjects

namespace Element

variable {e other later earlier root : Element}

@[simp]
theorem isRoot_eq_true_iff : e.isRoot = true ↔ e.kind = .root := by
  simp [isRoot]

@[simp]
theorem isCustom_eq_true_iff : e.isCustom = true ↔ e.kind = .custom := by
  simp [isCustom]

@[simp]
theorem isContainer_eq_true_iff : e.isContainer = true ↔ e.kind = .container := by
  simp [isContainer]

/-- Two elements whose selectors have the same locator kind and template. -/
def SameLocator (e other : Element) : Prop :=
  ∃ selector otherSelector, e.selector = some selector ∧ other.selector = some otherSelector ∧
    selector.kind = otherSelector.kind ∧ selector.template = otherSelector.template

theorem SameLocator.symm (same : e.SameLocator other) : other.SameLocator e := by
  obtain ⟨selector, otherSelector, own, theirs, sameKind, sameTemplate⟩ := same
  exact ⟨otherSelector, selector, theirs, own, sameKind.symm, sameTemplate.symm⟩

/--
What an element must be, beside another of its scope that locates the same
nodes: not a component beside a basic element, and of the other's type when
both are components.
-/
def MayShareLocator (e other : Element) : Prop :=
  ¬ (e.kind = .custom ∧ other.kind = .basic) ∧
    (e.kind = .custom → other.kind = .custom → e.type = other.type)

theorem mayShareLocator_self (e : Element) : e.MayShareLocator e := by
  refine ⟨fun ⟨custom, basic⟩ => ?_, fun _ _ => rfl⟩
  rw [custom] at basic
  cases basic

/--
Two selectors conflict exactly when they locate the same nodes and one element
is the root, or one of the two may not stand beside the other.
-/
theorem conflict?_isSome_iff :
    (e.conflict? other).isSome ↔
      e.SameLocator other ∧
        (e.kind = .root ∨ other.kind = .root ∨ ¬ e.MayShareLocator other ∨
          ¬ other.MayShareLocator e) := by
  unfold conflict?
  rcases ownSelector : e.selector with _ | selector
  · simp [SameLocator, ownSelector]
  · rcases otherSelector : other.selector with _ | theirs
    · simp [SameLocator, Selector.sameLocator, ownSelector, otherSelector]
    · by_cases same : selector.kind = theirs.kind ∧ selector.template = theirs.template
      · have located : e.SameLocator other := ⟨selector, theirs, ownSelector, otherSelector, same⟩
        simp only [Selector.sameLocator, same, beq_self_eq_true, Bool.and_self, Bool.not_true,
          located, true_and]
        -- the verdict depends on the two variants only, and on the types of two components
        cases ownKind : e.kind <;> cases otherKind : other.kind <;>
          simp [isRoot, isContainer, isCustom, MayShareLocator, ownKind, otherKind,
            @eq_comm _ other.type e.type]
      · have unlocated : ¬ e.SameLocator other := by
          rintro ⟨mine, yours, mineIs, yoursIs, located⟩
          rw [ownSelector, Option.some.injEq] at mineIs
          rw [otherSelector, Option.some.injEq] at yoursIs
          subst mineIs yoursIs
          exact same located
        rw [Classical.not_and_iff_not_or_not] at same
        simp [Selector.sameLocator, same, unlocated]

theorem conflict?_isSome_of_swapped (found : (other.conflict? e).isSome) :
    (e.conflict? other).isSome := by
  rw [conflict?_isSome_iff] at found ⊢
  obtain ⟨same, reason⟩ := found
  refine ⟨same.symm, ?_⟩
  rcases reason with root | root | refused | refused
  · exact Or.inr (Or.inl root)
  · exact Or.inl root
  · exact Or.inr (Or.inr (Or.inr refused))
  · exact Or.inr (Or.inr (Or.inl refused))

/-- The validator's verdict is the same whichever element comes first. -/
theorem conflict?_isSome_comm : (e.conflict? other).isSome = (other.conflict? e).isSome :=
  Bool.eq_iff_iff.mpr ⟨conflict?_isSome_of_swapped, conflict?_isSome_of_swapped⟩

/-- A conflict names the two elements and the selector they share. -/
theorem conflict?_eq_some {fault : Fault} (found : e.conflict? other = some fault) :
    ∃ reason selector, fault = .selectorConflict reason e.name other.name selector := by
  unfold conflict? at found
  -- every refusal is the same `clash` of some reason; the other branches give none
  repeat' split at found
  all_goals cases found
  all_goals exact ⟨_, _, rfl⟩

/--
The validator refuses `later` after `earlier`: `later` is not the root, it is
compared with `earlier` when it is declared, and their selectors conflict.
-/
def Clashes (later earlier : Element) : Prop :=
  later.kind ≠ .root ∧ Scope.comparedWith later earlier = true ∧
    (later.conflict? earlier).isSome = true

/-- Against the root, an element is refused when it lives in the root's scope
and locates the nodes of the root's selector. -/
theorem clashes_root_iff (laterKind : later.kind ≠ .root) (rootKind : root.kind = .root) :
    later.Clashes root ↔
      later.scope = some root.name ∧ root.selector.isSome ∧ later.SameLocator root := by
  simp [Clashes, Scope.comparedWith, conflict?_isSome_iff, laterKind, rootKind, and_assoc]

/-- Between two elements other than the root, the later one is refused when they
share a scope, locate the same nodes, and one may not stand beside the other. -/
theorem clashes_iff (laterKind : later.kind ≠ .root) (earlierKind : earlier.kind ≠ .root) :
    later.Clashes earlier ↔
      later.scope = earlier.scope ∧ later.SameLocator earlier ∧
        ¬ (later.MayShareLocator earlier ∧ earlier.MayShareLocator later) := by
  simp only [Clashes, Scope.comparedWith, conflict?_isSome_iff, isRoot_eq_true_iff, earlierKind,
    laterKind, ne_eq, not_false_eq_true, true_and, if_false, beq_iff_eq,
    @eq_comm _ earlier.scope later.scope, false_or, Classical.not_and_iff_not_or_not]

end Element

/-- An error by which the scope validator refuses an element. -/
def CompileError.IsSelectorConflict (error : CompileError) : Prop :=
  ∃ reason element other selector, error.fault = .selectorConflict reason element other selector

namespace Scope

variable {s s' : Scope} {e : Element} {earlier : List Element}

/-- An element passes the validator exactly when it clashes with no element
declared before it. -/
theorem firstConflict?_eq_none_iff :
    firstConflict? e earlier = none ↔ ∀ other ∈ earlier, ¬ e.Clashes other := by
  unfold firstConflict?
  by_cases rootKind : e.kind = .root
  · simp [Element.Clashes, rootKind]
  · simp only [Element.isRoot_eq_true_iff, rootKind, if_false, List.findSome?_eq_none_iff]
    apply forall_congr'
    intro other
    apply imp_congr_right
    intro _
    cases compared : comparedWith e other <;>
      simp [Element.Clashes, rootKind, compared, Option.eq_none_iff_forall_ne_some]

/-- What the validator reports is a selector conflict. -/
theorem firstConflict?_eq_some {fault : Fault} (found : firstConflict? e earlier = some fault) :
    ∃ reason element other selector, fault = .selectorConflict reason element other selector := by
  unfold firstConflict? at found
  split at found
  · cases found
  · obtain ⟨other, -, conflict⟩ := List.exists_of_findSome?_eq_some found
    split at conflict
    · obtain ⟨reason, selector, rfl⟩ := Element.conflict?_eq_some conflict
      exact ⟨reason, e.name, other.name, selector, rfl⟩
    · cases conflict

/-- Declaring an element succeeds exactly when its name is new and it clashes
with no earlier element; it is then appended. -/
theorem declare_eq_ok_iff :
    s.declare e = .ok s' ↔
      e.name ∉ s.elements.map Element.name ∧ (∀ other ∈ s.elements, ¬ e.Clashes other) ∧
        s' = { s with elements := s.elements ++ [e] } := by
  unfold declare
  by_cases taken : s.elements.any (fun other => other.name == e.name) = true
  · rw [if_pos taken]
    simp only [List.any_eq_true, beq_iff_eq] at taken
    obtain ⟨other, member, same⟩ := taken
    simp only [fail_ne_ok, false_iff, not_and]
    intro fresh
    exact absurd (List.mem_map.mpr ⟨other, member, same⟩) fresh
  · rw [if_neg taken]
    simp only [List.any_eq_true, beq_iff_eq, not_exists, not_and] at taken
    have fresh : e.name ∉ s.elements.map Element.name := by
      simp only [List.mem_map, not_exists, not_and]
      exact taken
    -- the selector checks decide the rest, by the first conflict they find
    cases found : firstConflict? e s.elements with
    | some fault =>
        have clash : ¬ ∀ other ∈ s.elements, ¬ e.Clashes other := by
          rw [← firstConflict?_eq_none_iff, found]
          simp
        simp only [fail_ne_ok, false_iff, not_and]
        exact fun _ passes => absurd passes clash
    | none =>
        have passes := firstConflict?_eq_none_iff.mp found
        simp only [Except.ok.injEq, fresh, not_false_eq_true, true_and]
        exact ⟨fun appended => ⟨passes, appended.symm⟩, fun held => held.2.symm⟩

/-- A refused declaration of a new name is refused by the selector checks. -/
theorem declare_eq_error_of_clash {other : Element}
    (fresh : e.name ∉ s.elements.map Element.name) (member : other ∈ s.elements)
    (clashes : e.Clashes other) :
    ∃ error, s.declare e = .error error ∧ error.IsSelectorConflict := by
  unfold declare
  have free : s.elements.any (fun other => other.name == e.name) = false := by
    simpa [List.mem_map] using fresh
  rw [if_neg (by simp [free])]
  cases found : firstConflict? e s.elements with
  | none => exact absurd clashes (firstConflict?_eq_none_iff.mp found other member)
  | some fault =>
    obtain ⟨reason, element, other, selector, rfl⟩ := firstConflict?_eq_some found
    exact ⟨_, rfl, reason, element, other, selector, rfl⟩

/-- Declares an element after checking its name only: the scope validator
switched off. -/
def declareNamed (s : Scope) (e : Element) : Compiling Scope :=
  if s.elements.any (fun other => other.name == e.name) then
    fail e.owner (.duplicateElementName e.name)
  else .ok { s with elements := s.elements ++ [e] }

theorem declareNamed_eq_ok_iff :
    s.declareNamed e = .ok s' ↔
      e.name ∉ s.elements.map Element.name ∧ s' = { s with elements := s.elements ++ [e] } := by
  unfold declareNamed
  split
  · rename_i taken
    simp only [List.any_eq_true, beq_iff_eq] at taken
    obtain ⟨other, member, same⟩ := taken
    simp only [fail_ne_ok, false_iff, not_and]
    intro fresh
    exact absurd (List.mem_map.mpr ⟨other, member, same⟩) fresh
  · rename_i free
    have fresh : e.name ∉ s.elements.map Element.name := by
      simpa [List.mem_map] using free
    simp [fresh, eq_comm]

end Scope

/-! ## Invariants of the declared elements -/

/-- No element clashes with an element declared before it. -/
def NoClash (elements : List Element) : Prop :=
  elements.Pairwise fun earlier later => ¬ later.Clashes earlier

theorem noClash_append_singleton {elements : List Element} {e : Element} :
    NoClash (elements ++ [e]) ↔ NoClash elements ∧ ∀ other ∈ elements, ¬ e.Clashes other := by
  simp [NoClash, List.pairwise_append]

theorem NoClash.of_prefix {shorter longer : List Element} (holds : NoClash longer)
    (isPrefix : shorter <+: longer) : NoClash shorter :=
  holds.sublist isPrefix.sublist

/-- What the validator keeps of the declared elements: distinct names, and no
element clashing with an earlier one. -/
structure Declared (elements : List Element) : Prop where
  names : (elements.map Element.name).Nodup
  noClash : NoClash elements

theorem Declared.declare {s s' : Scope} {e : Element} (declared : Declared s.elements)
    (step : s.declare e = .ok s') : Declared s'.elements := by
  obtain ⟨fresh, passes, rfl⟩ := Scope.declare_eq_ok_iff.mp step
  constructor
  · simpa [List.nodup_append] using
      ⟨declared.names, fun other member same => fresh (List.mem_map.mpr ⟨other, member, same⟩)⟩
  · exact noClash_append_singleton.mpr ⟨declared.noClash, passes⟩

/-- Elements that start with the root, named `root`, and hold no other root. -/
def Rooted (elements : List Element) : Prop :=
  ∃ root rest, elements = root :: rest ∧ root.kind = .root ∧ root.name = Element.rootName ∧
    ∀ e ∈ rest, e.kind ≠ .root

theorem Rooted.append {elements : List Element} {e : Element} (rooted : Rooted elements)
    (notRoot : e.kind ≠ .root) : Rooted (elements ++ [e]) := by
  obtain ⟨root, rest, rfl, rootKind, rootName, others⟩ := rooted
  refine ⟨root, rest ++ [e], rfl, rootKind, rootName, ?_⟩
  intro other member
  rcases List.mem_append.mp member with old | new
  · exact others other old
  · rw [List.mem_singleton.mp new]
    exact notRoot

/-- A declaration step that, when it succeeds, appends the element it was given. -/
def Appends (step : Scope → Element → Compiling Scope) : Prop :=
  ∀ {s s' : Scope} {e : Element}, step s e = .ok s' → s' = { s with elements := s.elements ++ [e] }

theorem appends_declare : Appends Scope.declare :=
  fun step => (Scope.declare_eq_ok_iff.mp step).2.2

theorem appends_declareNamed : Appends Scope.declareNamed :=
  fun step => (Scope.declareNamed_eq_ok_iff.mp step).2

/-! ## The element stage, over any declaration step -/

namespace Scope

mutual

/-- Declares elements in the scope of `parent` depth-first, each through `step`. -/
def declareAllBy (step : Scope → Element → Compiling Scope) (s : Scope) (parent : Element) :
    List ElementSpec → Compiling Scope
  | [] => .ok s
  | spec :: rest => do
    let s' ← declareOneBy step s parent spec
    declareAllBy step s' parent rest

/-- Declares an element through `step`, then its nested and shadow elements. -/
def declareOneBy (step : Scope → Element → Compiling Scope) (s : Scope) (parent : Element) :
    ElementSpec → Compiling Scope
  | spec@⟨name, _, _, _, _, elements, shadowElements, _, _⟩ => do
    let e ← s.build parent spec
    let s' ← step s e
    if elements.isEmpty && shadowElements.isEmpty then .ok s'
    else if e.kind != .basic then
      fail s!"element '{name}'" (.malformedDeclaration "only basic elements can have nested elements")
    else do
      let s'' ← declareAllBy step s' e elements
      declareAllBy step s'' e shadowElements

end

/-- The element stage declares through `Scope.declare`. -/
theorem declareAll_eq_declareAllBy (s : Scope) (parent : Element) (specs : List ElementSpec) :
    s.declareAll parent specs = s.declareAllBy Scope.declare parent specs := by
  refine Scope.declareAll.induct
    (fun s parent specs => s.declareAll parent specs = s.declareAllBy Scope.declare parent specs)
    (fun s parent spec => s.declareOne parent spec = s.declareOneBy Scope.declare parent spec)
    (fun s parent name type selector isPublic isNullable elements shadowElements filter description
      elementsIH shadowIH => ?_)
    (fun s parent => ?_) (fun s parent spec rest specIH restIH => ?_) s parent specs
  · simp only [declareOne, declareOneBy, elementsIH, shadowIH]
  · simp [declareAll, declareAllBy]
  · simp only [declareAll, declareAllBy, specIH, restIH]

/-- The variant of an element comes from its type token, and it lives in the
scope of the element it was declared under. -/
theorem build_shape {s : Scope} {parent : Element} {spec : ElementSpec} {e : Element}
    (built : s.build parent spec = .ok e) :
    e.kind = elementKindOf spec.type ∧ e.name = spec.name ∧ e.scope = some parent.name := by
  unfold build at built
  simp only [bind_eq_ok] at built
  obtain ⟨selector, -, built⟩ := built
  split at built
  · simp at built
  · simp only [bind_eq_ok] at built
    obtain ⟨-, -, type, -, built⟩ := built
    split at built
    · simp only [bind_eq_ok, pure_eq_ok] at built
      obtain ⟨filter, -, -, -, rfl⟩ := built
      exact ⟨rfl, rfl, rfl⟩
    · simp only [pure_eq_ok] at built
      subst built
      exact ⟨rfl, rfl, rfl⟩

theorem build_kind_ne_root {s : Scope} {parent : Element} {spec : ElementSpec} {e : Element}
    (built : s.build parent spec = .ok e) : e.kind ≠ .root := by
  rw [(build_shape built).1]
  unfold elementKindOf
  split
  · simp
  · split <;> simp
  · simp

/--
A property of the scope that every step keeps, when it declares an
element that `build` made, holds after a whole run of the element stage.
-/
theorem declareAllBy_preserves {step : Scope → Element → Compiling Scope}
    {holds : Scope → Prop}
    (preserved : ∀ {s s' : Scope} {parent : Element} {spec : ElementSpec} {e : Element},
      s.build parent spec = .ok e → holds s → step s e = .ok s' → holds s')
    {s s' : Scope} {parent : Element} {specs : List ElementSpec}
    (initially : holds s) (run : s.declareAllBy step parent specs = .ok s') :
    holds s' := by
  -- induction along the declaration recursion, each element built before its step
  refine Scope.declareAllBy.induct
    (fun s parent specs => ∀ s', holds s →
      s.declareAllBy step parent specs = .ok s' → holds s')
    (fun s parent spec => ∀ s', holds s →
      s.declareOneBy step parent spec = .ok s' → holds s')
    (fun s parent name type selector isPublic isNullable elements shadowElements filter description
      elementsIH shadowIH s' initially run => ?_)
    (fun s parent s' initially run => ?_)
    (fun s parent spec rest specIH restIH s' initially run => ?_) s parent specs s' initially run
  · simp only [declareOneBy, bind_eq_ok] at run
    obtain ⟨e, built, stepped, stepOk, run⟩ := run
    have afterStep := preserved built initially stepOk
    split at run
    · cases run
      exact afterStep
    · split at run
      · simp at run
      · obtain ⟨nested, nestedRun, shadowRun⟩ := bind_eq_ok.mp run
        exact shadowIH e nested s' (elementsIH e stepped nested afterStep nestedRun) shadowRun
  · simp only [declareAllBy, Except.ok.injEq] at run
    exact run ▸ initially
  · obtain ⟨afterOne, oneRun, restRun⟩ := bind_eq_ok.mp run
    exact restIH afterOne s' (specIH afterOne initially oneRun) restRun

/-- A run of a step that appends only extends the declared elements. -/
theorem declareAllBy_extends {step : Scope → Element → Compiling Scope} (appends : Appends step)
    {s s' : Scope} {parent : Element} {specs : List ElementSpec}
    (run : s.declareAllBy step parent specs = .ok s') : s.elements <+: s'.elements := by
  have keeps : ∀ {before after : Scope} {parent : Element} {spec : ElementSpec} {e : Element},
      before.build parent spec = .ok e → s.elements <+: before.elements →
        step before e = .ok after → s.elements <+: after.elements := by
    intro before after parent spec e _ longer stepped
    rw [appends stepped]
    exact longer.trans (List.prefix_append _ _)
  exact declareAllBy_preserves keeps (List.prefix_refl _) run

end Scope

/-- The element stage through any declaration step: the root first, then the
elements of the document, then those of its shadow root. -/
def declareElementsBy (step : Scope → Element → Compiling Scope) (settings : Settings)
    (spec : PageObjectSpec) : Compiling Scope := do
  let empty : Scope := { settings }
  let root ← rootElement empty spec
  let s ← step empty root
  let s ← s.declareAllBy step root spec.elements
  s.declareAllBy step root spec.shadowElements

theorem declareElements_eq_declareElementsBy (settings : Settings) (spec : PageObjectSpec) :
    declareElements settings spec = declareElementsBy Scope.declare settings spec := by
  simp only [declareElements, declareElementsBy, Scope.declareAll_eq_declareAllBy]

/-- The root of a page object is the element named `root`. -/
theorem rootElement_shape {s : Scope} {spec : PageObjectSpec} {root : Element}
    (built : rootElement s spec = .ok root) :
    root.kind = .root ∧ root.name = Element.rootName := by
  unfold rootElement at built
  split at built
  · simp at built
  · split at built
    · simp at built
    · obtain ⟨selector, -, type, -, declared⟩ := by simpa only [bind_eq_ok] using built
      simp only [pure_eq_ok] at declared
      subst declared
      exact ⟨rfl, rfl⟩

/-- Whatever its declaration step, the element stage starts its elements with
the root and declares no other. -/
theorem declareElementsBy_rooted {step : Scope → Element → Compiling Scope}
    (appends : Appends step) {settings : Settings} {spec : PageObjectSpec} {s : Scope}
    (run : declareElementsBy step settings spec = .ok s) : Rooted s.elements := by
  simp only [declareElementsBy, bind_eq_ok] at run
  obtain ⟨root, built, withRoot, rootStep, nested, nestedRun, shadowRun⟩ := run
  have rootOnly : Rooted withRoot.elements := by
    obtain ⟨rootKind, rootName⟩ := rootElement_shape built
    rw [appends rootStep]
    exact ⟨root, [], rfl, rootKind, rootName, by simp⟩
  have keeps : ∀ {s s' : Scope} {parent : Element} {spec : ElementSpec} {e : Element},
      s.build parent spec = .ok e → Rooted s.elements → step s e = .ok s' → Rooted s'.elements := by
    intro s s' parent spec e built rooted stepped
    rw [appends stepped]
    exact rooted.append (Scope.build_kind_ne_root built)
  exact Scope.declareAllBy_preserves keeps (Scope.declareAllBy_preserves keeps rootOnly nestedRun)
    shadowRun

/-- The element stage keeps the settings it starts with. -/
theorem declareElements_settings {settings : Settings} {spec : PageObjectSpec} {s : Scope}
    (run : declareElements settings spec = .ok s) : s.settings = settings := by
  rw [declareElements_eq_declareElementsBy] at run
  simp only [declareElementsBy, bind_eq_ok] at run
  obtain ⟨root, -, withRoot, rootStep, nested, nestedRun, shadowRun⟩ := run
  have keeps : ∀ {s s' : Scope} {parent : Element} {spec : ElementSpec} {e : Element},
      s.build parent spec = .ok e → s.settings = settings → s.declare e = .ok s' →
        s'.settings = settings := by
    intro s s' parent spec e _ kept stepped
    rw [appends_declare stepped]
    exact kept
  have rootKept : withRoot.settings = settings := by
    rw [appends_declare rootStep]
  exact Scope.declareAllBy_preserves keeps (Scope.declareAllBy_preserves keeps rootKept nestedRun)
    shadowRun

/-- The element stage with the scope validator leaves distinct names and no clash. -/
theorem declareElements_declared {settings : Settings} {spec : PageObjectSpec} {s : Scope}
    (run : declareElements settings spec = .ok s) : Declared s.elements := by
  rw [declareElements_eq_declareElementsBy] at run
  simp only [declareElementsBy, bind_eq_ok] at run
  obtain ⟨root, -, withRoot, rootStep, nested, nestedRun, shadowRun⟩ := run
  have empty : Declared ([] : List Element) := ⟨List.nodup_nil, List.Pairwise.nil⟩
  have keeps : ∀ {s s' : Scope} {parent : Element} {spec : ElementSpec} {e : Element},
      s.build parent spec = .ok e → Declared s.elements → s.declare e = .ok s' →
        Declared s'.elements :=
    fun _ declared stepped => declared.declare stepped
  exact Scope.declareAllBy_preserves keeps
    (Scope.declareAllBy_preserves keeps (empty.declare rootStep) nestedRun) shadowRun

/-- A property that the root and every element `build` makes have holds of
every element the element stage declares. -/
theorem declareElements_forall {holds : Element → Prop}
    (rootHolds : ∀ {s : Scope} {spec : PageObjectSpec} {root : Element},
      rootElement s spec = .ok root → holds root)
    (builtHolds : ∀ {s : Scope} {parent : Element} {spec : ElementSpec} {e : Element},
      s.build parent spec = .ok e → holds e)
    {settings : Settings} {spec : PageObjectSpec} {s : Scope}
    (run : declareElements settings spec = .ok s) : ∀ e ∈ s.elements, holds e := by
  rw [declareElements_eq_declareElementsBy] at run
  simp only [declareElementsBy, bind_eq_ok] at run
  obtain ⟨root, built, withRoot, rootStep, nested, nestedRun, shadowRun⟩ := run
  have rootOnly : ∀ e ∈ withRoot.elements, holds e := by
    rw [appends_declare rootStep]
    intro e member
    rw [List.mem_singleton.mp member]
    exact rootHolds built
  have keeps : ∀ {s s' : Scope} {parent : Element} {spec : ElementSpec} {e : Element},
      s.build parent spec = .ok e → (∀ e ∈ s.elements, holds e) → s.declare e = .ok s' →
        ∀ e ∈ s'.elements, holds e := by
    intro s s' parent spec e built earlier stepped other member
    rw [appends_declare stepped] at member
    rcases List.mem_append.mp member with old | new
    · exact earlier other old
    · rw [List.mem_singleton.mp new]
      exact builtHolds built
  exact Scope.declareAllBy_preserves keeps (Scope.declareAllBy_preserves keeps rootOnly nestedRun)
    shadowRun

/-! ## The laws over the declared elements -/

/-- The laws the scope validator establishes between elements that locate the
same nodes. -/
structure SelectorLaws (elements : List Element) : Prop where
  /-- Two elements of one scope that locate the same nodes may stand side by side. -/
  siblings : ∀ e ∈ elements, ∀ other ∈ elements, e.kind ≠ .root → other.kind ≠ .root →
    e.scope = other.scope → e.SameLocator other → e.MayShareLocator other
  /-- No element of the root's scope locates the nodes of a root with a selector. -/
  root : ∀ root ∈ elements, root.kind = .root → root.selector.isSome →
    ∀ e ∈ elements, e.kind ≠ .root → e.scope = some root.name → ¬ e.SameLocator root

/-- The laws of the declared elements of every accepted page object. -/
structure ScopeLaws (elements : List Element) : Prop where
  namesDistinct : (elements.map Element.name).Nodup
  /-- Only the root is named `root`, and it is. -/
  rootNamed : ∀ e ∈ elements, e.name = Element.rootName ↔ e.kind = .root
  selectors : SelectorLaws elements

/-- Two elements that may live in one scope: when they do and locate the same
nodes, each may stand beside the other. -/
def Element.Compatible (e other : Element) : Prop :=
  e.scope = other.scope → e.SameLocator other → e.MayShareLocator other ∧ other.MayShareLocator e

theorem Element.Compatible.symm {e other : Element} (compatible : e.Compatible other) :
    other.Compatible e :=
  fun sameScope same => (compatible sameScope.symm same.symm).symm

theorem Element.compatible_iff_not_clashes {later earlier : Element} (laterKind : later.kind ≠ .root)
    (earlierKind : earlier.kind ≠ .root) : later.Compatible earlier ↔ ¬ later.Clashes earlier := by
  rw [Element.clashes_iff laterKind earlierKind]
  constructor
  · rintro compatible ⟨sameScope, same, refused⟩
    exact refused (compatible sameScope same)
  · intro notClash sameScope same
    exact Classical.byContradiction fun refused => notClash ⟨sameScope, same, refused⟩

/-- Among elements other than the root, no clash in declaration order means
that every two of them, in either order, are compatible. -/
theorem noClash_iff_compatible {elements : List Element}
    (others : ∀ e ∈ elements, e.kind ≠ .root) :
    NoClash elements ↔ ∀ e ∈ elements, ∀ other ∈ elements, e.Compatible other := by
  constructor
  · intro noClash
    have flipped : elements.Pairwise (flip Element.Compatible) :=
      noClash.imp_of_mem fun earlierMember laterMember notClash =>
        (Element.compatible_iff_not_clashes (others _ laterMember) (others _ earlierMember)).mpr
          notClash
    have ordered : elements.Pairwise Element.Compatible := flipped.imp fun compatible => compatible.symm
    intro e member other otherMember
    exact List.Pairwise.forall_of_forall_of_flip
      (fun e _ _ same => ⟨Element.mayShareLocator_self e, Element.mayShareLocator_self e⟩)
      ordered flipped member otherMember
  · intro compatible
    apply List.pairwise_of_forall_mem_list
    intro earlier earlierMember later laterMember
    exact (Element.compatible_iff_not_clashes (others _ laterMember) (others _ earlierMember)).mp
      (compatible later laterMember earlier earlierMember)

/-- For elements led by the root, the laws between selectors say exactly that no
element clashes with one declared before it. -/
theorem selectorLaws_iff_noClash {elements : List Element} (rooted : Rooted elements) :
    SelectorLaws elements ↔ NoClash elements := by
  obtain ⟨root, rest, rfl, rootKind, -, others⟩ := rooted
  have onlyRoot : ∀ e ∈ root :: rest, e.kind = .root → e = root := by
    intro e member kind
    rcases List.mem_cons.mp member with same | later
    · exact same
    · exact absurd kind (others e later)
  rw [NoClash, List.pairwise_cons, ← NoClash, noClash_iff_compatible others]
  constructor
  · intro laws
    refine ⟨fun later member clash => ?_, fun e member other otherMember sameScope same => ?_⟩
    · obtain ⟨sameScope, selected, same⟩ :=
        (Element.clashes_root_iff (others later member) rootKind).mp clash
      exact laws.root root List.mem_cons_self rootKind selected later
        (List.mem_cons_of_mem _ member) (others later member) sameScope same
    · exact ⟨laws.siblings e (List.mem_cons_of_mem _ member) other (List.mem_cons_of_mem _ otherMember)
          (others e member) (others other otherMember) sameScope same,
        laws.siblings other (List.mem_cons_of_mem _ otherMember) e (List.mem_cons_of_mem _ member)
          (others other otherMember) (others e member) sameScope.symm same.symm⟩
  · rintro ⟨rootPasses, compatible⟩
    constructor
    · intro e member other otherMember kind otherKind sameScope same
      have restMember : ∀ {x}, x ∈ root :: rest → x.kind ≠ .root → x ∈ rest := by
        intro x member kind
        rcases List.mem_cons.mp member with same | later
        · exact absurd (same ▸ rootKind) kind
        · exact later
      exact (compatible e (restMember member kind) other (restMember otherMember otherKind)
        sameScope same).1
    · intro someRoot member kind selected e eMember eKind sameScope same
      obtain rfl := onlyRoot someRoot member kind
      rcases List.mem_cons.mp eMember with isRoot | later
      · exact eKind (isRoot ▸ rootKind)
      · exact rootPasses e later
          ((Element.clashes_root_iff eKind rootKind).mpr ⟨sameScope, selected, same⟩)

/-- Distinct names, no clash and the root first give every law. -/
theorem scopeLaws_of_declared {elements : List Element} (declared : Declared elements)
    (rooted : Rooted elements) : ScopeLaws elements := by
  refine ⟨declared.names, ?_, (selectorLaws_iff_noClash rooted).mpr declared.noClash⟩
  obtain ⟨root, rest, rfl, rootKind, rootName, others⟩ := rooted
  have rootFresh : root.name ∉ rest.map Element.name :=
    (List.nodup_cons.mp (by simpa using declared.names)).1
  intro e member
  rcases List.mem_cons.mp member with rfl | later
  · exact ⟨fun _ => rootKind, fun _ => rootName⟩
  · constructor
    · intro named
      exact absurd (List.mem_map.mpr ⟨e, later, named.trans rootName.symm⟩) rootFresh
    · intro kind
      exact absurd kind (others e later)

/-! ## The element stage with and without the selector checks -/

/--
How the element stage with the selector checks ends, given how it ends without
them: with the same elements when none clashes; refused by the validator when
the elements reached without the checks hold a clash; anyhow when the run
without the checks fails.
-/
inductive Follows : Compiling Scope → Compiling Scope → Prop
  | same {s : Scope} : NoClash s.elements → Follows (.ok s) (.ok s)
  | refused {error : CompileError} {s : Scope} :
      error.IsSelectorConflict → ¬ NoClash s.elements → Follows (.error error) (.ok s)
  | failed {checked : Compiling Scope} {error : CompileError} : Follows checked (.error error)

/-- Two runs that follow each other stay so when continued, provided the
continuation without the checks only extends the elements: a clash, once
reached, is never undone. -/
theorem Follows.bind {checked unchecked : Compiling Scope}
    {next nextUnchecked : Scope → Compiling Scope} (first : Follows checked unchecked)
    (rest : ∀ s, NoClash s.elements → Follows (next s) (nextUnchecked s))
    (grows : ∀ {s s' : Scope}, nextUnchecked s = .ok s' → s.elements <+: s'.elements) :
    Follows (checked >>= next) (unchecked >>= nextUnchecked) := by
  cases first with
  | same noClash => exact rest _ noClash
  | @refused error s conflict clash =>
      rw [error_bind, ok_bind]
      cases continued : nextUnchecked s with
      | error => exact .failed
      | ok s' => exact .refused conflict fun noClash => clash (noClash.of_prefix (grows continued))
  | failed => exact .failed

/-- One declaration, with and without the selector checks. -/
theorem follows_declare {s : Scope} {e : Element} (noClash : NoClash s.elements) :
    Follows (s.declare e) (s.declareNamed e) := by
  cases named : s.declareNamed e with
  | error => exact .failed
  | ok s' =>
      obtain ⟨fresh, rfl⟩ := Scope.declareNamed_eq_ok_iff.mp named
      by_cases passes : ∀ other ∈ s.elements, ¬ e.Clashes other
      · rw [Scope.declare_eq_ok_iff.mpr ⟨fresh, passes, rfl⟩]
        exact .same (noClash_append_singleton.mpr ⟨noClash, passes⟩)
      · have clash : ∃ other ∈ s.elements, e.Clashes other :=
          Classical.byContradiction fun none => passes fun other member clashes =>
            none ⟨other, member, clashes⟩
        obtain ⟨other, member, clashes⟩ := clash
        obtain ⟨error, refused, conflict⟩ := Scope.declare_eq_error_of_clash fresh member clashes
        rw [refused]
        exact .refused conflict fun appended => passes (noClash_append_singleton.mp appended).2

/-- A whole run of the element stage, with and without the selector checks. -/
theorem follows_declareAllBy {s : Scope} {parent : Element} {specs : List ElementSpec}
    (noClash : NoClash s.elements) :
    Follows (s.declareAllBy Scope.declare parent specs)
      (s.declareAllBy Scope.declareNamed parent specs) := by
  -- both runs follow one recursion; they part only where the checked step refuses
  refine Scope.declareAllBy.induct
    (fun s parent specs => NoClash s.elements →
      Follows (s.declareAllBy Scope.declare parent specs) (s.declareAllBy Scope.declareNamed parent specs))
    (fun s parent spec => NoClash s.elements →
      Follows (s.declareOneBy Scope.declare parent spec) (s.declareOneBy Scope.declareNamed parent spec))
    (fun s parent name type selector isPublic isNullable elements shadowElements filter description
      elementsIH shadowIH noClash => ?_)
    (fun s parent noClash => ?_)
    (fun s parent spec rest specIH restIH noClash => ?_) s parent specs noClash
  · simp only [Scope.declareOneBy]
    cases built : s.build parent ⟨name, type, selector, isPublic, isNullable, elements,
      shadowElements, filter, description⟩ with
    | error => exact .failed
    | ok e =>
        refine Follows.bind (follows_declare noClash) (fun stepped steppedNoClash => ?_)
          (fun {stepped final} continued => ?_)
        · by_cases leaf : (elements.isEmpty && shadowElements.isEmpty) = true
          · simp only [leaf, if_true]
            exact .same steppedNoClash
          · by_cases notBasic : (e.kind != .basic) = true
            · simp only [leaf, notBasic, if_true]
              exact .failed
            · simp only [leaf, notBasic]
              exact Follows.bind (elementsIH e stepped steppedNoClash)
                (fun nested nestedNoClash => shadowIH e nested nestedNoClash)
                (Scope.declareAllBy_extends appends_declareNamed)
        · split at continued
          · cases continued
            exact List.prefix_refl _
          · split at continued
            · cases continued
            · obtain ⟨nested, nestedRun, shadowRun⟩ := bind_eq_ok.mp continued
              exact (Scope.declareAllBy_extends appends_declareNamed nestedRun).trans
                (Scope.declareAllBy_extends appends_declareNamed shadowRun)
  · exact .same noClash
  · exact Follows.bind (specIH noClash) (fun s' noClash' => restIH s' noClash')
      (Scope.declareAllBy_extends appends_declareNamed)

/-- The element stage, with and without the selector checks. -/
theorem follows_declareElements (settings : Settings) (spec : PageObjectSpec) :
    Follows (declareElements settings spec) (declareElementsBy Scope.declareNamed settings spec) := by
  rw [declareElements_eq_declareElementsBy]
  unfold declareElementsBy
  dsimp only
  cases built : rootElement { settings } spec with
  | error => exact .failed
  | ok root =>
      rw [ok_bind, ok_bind]
      have empty : NoClash ({ settings } : Scope).elements := List.Pairwise.nil
      refine Follows.bind (follows_declare empty)
        (fun s noClash => ?_) (fun {s s'} run => ?_)
      · exact Follows.bind (follows_declareAllBy noClash)
          (fun s' noClash' => follows_declareAllBy noClash')
          (Scope.declareAllBy_extends appends_declareNamed)
      · obtain ⟨nested, nestedRun, shadowRun⟩ := bind_eq_ok.mp run
        exact (Scope.declareAllBy_extends appends_declareNamed nestedRun).trans
          (Scope.declareAllBy_extends appends_declareNamed shadowRun)

/-! ## The validator is exact -/

/-- Every accepted page object declares elements that obey the scope laws. -/
theorem AcceptedRun.scopeLaws {settings : Settings} {identifier tree : Json}
    {declaration : Declaration} (run : AcceptedRun settings identifier tree declaration) :
    ScopeLaws run.scope.elements := by
  have rooted : Rooted run.scope.elements := by
    have declared := run.declared
    rw [declareElements_eq_declareElementsBy] at declared
    exact declareElementsBy_rooted appends_declare declared
  exact scopeLaws_of_declared (declareElements_declared run.declared) rooted

/-- Of the elements a page object declares with their names checked but not
their selectors, the validator accepts exactly those that obey the selector
laws, and refuses the others with a selector conflict. -/
theorem declareElements_of_unchecked {settings : Settings} {spec : PageObjectSpec} {s : Scope}
    (unchecked : declareElementsBy Scope.declareNamed settings spec = .ok s) :
    (declareElements settings spec = .ok s ↔ SelectorLaws s.elements) ∧
      (¬ SelectorLaws s.elements →
        ∃ error, declareElements settings spec = .error error ∧ error.IsSelectorConflict) := by
  rw [selectorLaws_iff_noClash (declareElementsBy_rooted appends_declareNamed unchecked)]
  have follows := follows_declareElements settings spec
  rw [unchecked] at follows
  generalize declareElements settings spec = checked at follows ⊢
  cases follows with
  | same noClash => exact ⟨iff_of_true rfl noClash, fun clash => absurd noClash clash⟩
  | @refused error _ conflict clash => exact ⟨iff_of_false nofun clash, fun _ => ⟨error, rfl, conflict⟩⟩

/--
The scope validator is exact. The elements of every accepted page object obey
the scope laws. Of the elements a page object declares with their names checked
but not their selectors, the validator accepts exactly those that obey the
selector laws, which relate elements of one scope only and either way round;
and a document whose page object is named and whose elements break them is
refused by the compilation with a selector conflict.
-/
theorem scope_validator_exact :
    (∀ settings identifier tree declaration, compile settings identifier tree = .ok declaration →
      ∃ run : AcceptedRun settings identifier tree declaration, ScopeLaws run.scope.elements) ∧
    (∀ settings spec s, declareElementsBy Scope.declareNamed settings spec = .ok s →
      (declareElements settings spec = .ok s ↔ SelectorLaws s.elements)) ∧
    (∀ settings identifier tree spec pageType s,
      Grammar.read settings.strictGrammar tree = .ok spec →
      Naming.typeNameOfValue identifier = .ok pageType →
      declareElementsBy Scope.declareNamed settings spec = .ok s → ¬ SelectorLaws s.elements →
      ∃ error, compile settings identifier tree = .error error ∧ error.IsSelectorConflict) := by
  refine ⟨fun settings identifier tree declaration accepted => ?_,
    fun settings spec s unchecked => (declareElements_of_unchecked unchecked).1,
    fun settings identifier tree spec pageType s read named unchecked broken => ?_⟩
  · obtain ⟨run⟩ := AcceptedRun.of_compile accepted
    exact ⟨run, run.scopeLaws⟩
  · obtain ⟨error, refused, conflict⟩ := (declareElements_of_unchecked unchecked).2 broken
    refine ⟨error.leaving identifier,
      compile_eq_error_of_compileSpec read (compileSpec_eq_error_of_declareElements named refused), ?_⟩
    obtain ⟨reason, element, other, selector, fault⟩ := conflict
    exact ⟨reason, element, other, selector, by rw [CompileError.leaving_fault, fault]⟩

/-- An element nested in another may share its selector; a component beside a
basic element of the same scope and selector is refused. -/
theorem scope_validator_on_shared_selectors :
    (∃ declaration, ∃ run : AcceptedRun {} (.str "a/b/c") (.obj [("elements", .arr [.obj [
        ("name", .str "a"), ("selector", .obj [("css", .str ".a")]),
        ("elements", .arr [.obj [("name", .str "b"), ("selector", .obj [("css", .str ".a")])]])]])])
        declaration, ScopeLaws run.scope.elements) ∧
    ∃ error, compile {} (.str "a/b/c") (.obj [("elements", .arr [
        .obj [("name", .str "a"), ("selector", .obj [("css", .str ".a")])],
        .obj [("name", .str "b"), ("type", .str "x/y/z"), ("selector", .obj [("css", .str ".a")])]])])
      = .error error ∧ error.IsSelectorConflict := by
  constructor
  · obtain ⟨declaration, accepted⟩ := exists_ok_of_toBool (show (compile {} (.str "a/b/c")
      (.obj [("elements", .arr [.obj [("name", .str "a"), ("selector", .obj [("css", .str ".a")]),
        ("elements", .arr [.obj [("name", .str "b"), ("selector", .obj [("css", .str ".a")])]])]])])
      ).toBool = true by decide +kernel)
    exact ⟨declaration, scope_validator_exact.1 _ _ _ _ accepted⟩
  · obtain ⟨spec, read⟩ := exists_ok_of_toBool (show (Grammar.read true (.obj [("elements", .arr [
        .obj [("name", .str "a"), ("selector", .obj [("css", .str ".a")])],
        .obj [("name", .str "b"), ("type", .str "x/y/z"), ("selector", .obj [("css", .str ".a")])]])])
      ).toBool = true by decide +kernel)
    obtain ⟨pageType, named⟩ := exists_ok_of_toBool
      (show (Naming.typeNameOfValue (.str "a/b/c")).toBool = true by decide +kernel)
    have uncheckedRuns : (Grammar.read true (.obj [("elements", .arr [
        .obj [("name", .str "a"), ("selector", .obj [("css", .str ".a")])],
        .obj [("name", .str "b"), ("type", .str "x/y/z"), ("selector", .obj [("css", .str ".a")])]])])
        >>= declareElementsBy Scope.declareNamed {}).toBool = true := by decide +kernel
    have checkedFails : (Grammar.read true (.obj [("elements", .arr [
        .obj [("name", .str "a"), ("selector", .obj [("css", .str ".a")])],
        .obj [("name", .str "b"), ("type", .str "x/y/z"), ("selector", .obj [("css", .str ".a")])]])])
        >>= declareElements {}).toBool = false := by decide +kernel
    rw [read, ok_bind] at uncheckedRuns checkedFails
    obtain ⟨s, unchecked⟩ := exists_ok_of_toBool uncheckedRuns
    have broken : ¬ SelectorLaws s.elements := by
      intro laws
      rw [(scope_validator_exact.2.1 {} spec s unchecked).mpr laws] at checkedFails
      cases checkedFails
    exact scope_validator_exact.2.2 {} (.str "a/b/c") _ spec pageType s read named unchecked broken

end PageObjects
