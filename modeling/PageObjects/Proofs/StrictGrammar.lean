import PageObjects.Proofs.PredicateDepth

/-!
# The strict grammar beside the lenient one

The grammar reads a page object under one flag: strict, where an object
holding a key its position does not list is refused, or lenient, where such
keys are ignored. `Shape.keys` lists the keys of each position and the reader
checks every object against it; `Shape.slot` says which position the value under
each key is read in. `Json.fits` follows those positions down a tree and holds
when every object the grammar reads holds only listed keys.

The two readings are related by `Stricter`: the strict reading fails or ends as
the lenient one does, and ends as it does on a fitting tree. The relation is
closed under the reader's binds and loops, and the reader's two mutual
recursions carry it (`arguments_stricter`, `elements_stricter`); a method and
the whole document follow. After the reading only the predicate limit of the
settings matters, so `compile_stricter` lifts the relation to compilation:
the strict grammar only adds refusals, and a fitting document compiles alike
under both.
-/

namespace PageObjects

namespace Grammar

/-- What the grammar reads the value under a key as: an object of a shape, an
array of such objects, a literal value (an element reference or a selector
when it is an object), or a value it reads no object from. -/
inductive Slot where
  | one (shape : Shape)
  | many (shape : Shape)
  | literal
  | free
  deriving DecidableEq, Repr

/-- The slot of the value under a key of an object of a shape. -/
def Shape.slot : Shape → String → Slot
  | .document, "elements" => .many .element
  | .document, "methods" => .many .method
  | .document, "selector" => .one .selector
  | .document, "shadow" => .one .shadow
  | .element, "selector" => .one .selector
  | .element, "elements" => .many .element
  | .element, "shadow" => .one .shadow
  | .element, "filter" => .one .filter
  | .shadow, "elements" => .many .element
  | .selector, "args" => .many .argument
  | .filter, "args" => .many .argument
  | .filter, "matcher" => .one .matcher
  | .matcher, "args" => .many .argument
  | .argument, "value" => .literal
  | .argument, "predicate" => .many .statement
  | .reference, "args" => .many .argument
  | .statement, "args" => .many .argument
  | .statement, "matcher" => .one .matcher
  | .statement, "predicate" => .many .statement
  | .method, "args" => .many .argument
  | .method, "compose" => .many .statement
  | .method, "chain" => .many .link
  | .method, "externalUtility" => .one .utility
  | .utility, "args" => .many .argument
  | _, _ => .free

/-- The shape of an object read as a literal value: an element reference when
it names an element, a selector otherwise. -/
def Shape.ofLiteral (fields : List (String × Json)) : Shape :=
  if (Json.obj fields).has "element" then .reference else .selector

end Grammar

namespace Json

open Grammar

mutual

/-- Whether every object the grammar reads from a value in a slot holds only
the keys its shape lists. -/
def fits : Slot → Json → Bool
  | .one shape, .obj fields => fieldsFit shape fields
  | .many shape, .arr items => itemsFit shape items
  | .literal, .obj fields => fieldsFit (Shape.ofLiteral fields) fields
  | _, _ => true

/-- Whether every item of an array fits as an object of a shape. -/
def itemsFit (shape : Shape) : List Json → Bool
  | [] => true
  | item :: rest => item.fits (.one shape) && itemsFit shape rest

/-- Whether every field of an object of a shape has a key the shape lists and
a value that fits the key's slot. -/
def fieldsFit (shape : Shape) : List (String × Json) → Bool
  | [] => true
  | (key, value) :: rest => shape.keys.contains key && value.fits (shape.slot key) && fieldsFit shape rest

end

theorem fieldsFit_iff {shape : Shape} {fields : List (String × Json)} :
    fieldsFit shape fields = true ↔
      ∀ field ∈ fields, field.1 ∈ shape.keys ∧ field.2.fits (shape.slot field.1) = true := by
  induction fields with
  | nil => simp [fieldsFit]
  | cons field rest restIH =>
      obtain ⟨key, value⟩ := field
      simp [fieldsFit, restIH]

theorem itemsFit_iff {shape : Shape} {items : List Json} :
    itemsFit shape items = true ↔ ∀ item ∈ items, item.fits (.one shape) = true := by
  induction items with
  | nil => simp [itemsFit]
  | cons item rest restIH => simp [itemsFit, restIH]

theorem fieldValue?_mem {fields : List (String × Json)} {key : String} {w : { v : Json // sizeOf v < sizeOf fields }}
    (found : fieldValue? fields key = some w) : (key, w.1) ∈ fields := by
  induction fields with
  | nil => cases found
  | cons field rest restIH =>
      obtain ⟨k, v⟩ := field
      rw [fieldValue?] at found
      split at found
      · rename_i same
        cases found
        simp_all
      · obtain ⟨inner, innerFound, rfl⟩ := Option.map_eq_some_iff.mp found
        exact List.mem_cons_of_mem _ (restIH innerFound)

theorem get?_mem {node v : Json} {key : String} (found : node.get? key = some v) :
    ∃ fields, node = .obj fields ∧ (key, v) ∈ fields := by
  unfold get? child? at found
  split at found
  · rename_i fields
    obtain ⟨w, childFound, rfl⟩ := Option.map_eq_some_iff.mp found
    obtain ⟨inner, innerFound, rfl⟩ := Option.map_eq_some_iff.mp childFound
    exact ⟨fields, rfl, fieldValue?_mem innerFound⟩
  · cases found

/-- The value under a key of a fitting object fits the key's slot. -/
theorem fits_get {node : Json} {shape : Shape} {key : String} (fits : node.fits (.one shape) = true) :
    ∀ v, node.get? key = some v → v.fits (shape.slot key) = true := by
  intro v found
  obtain ⟨fields, rfl, member⟩ := get?_mem found
  exact (fieldsFit_iff.mp fits (key, v) member).2

theorem child?_get? {node : Json} {key : String} {w : { v : Json // sizeOf v < sizeOf node }}
    (found : node.child? key = some w) : node.get? key = some w.1 := by
  simp [Json.get?, found]

theorem fits_item {node : Json} {shape : Shape} {items : List { v : Json // sizeOf v < sizeOf node }}
    (fits : node.fits (.many shape) = true) (listed : node.elements? = some items)
    {item : { v : Json // sizeOf v < sizeOf node }} (member : item ∈ items) : item.1.fits (.one shape) = true := by
  cases node with
  | arr list =>
      simp only [elements?, Option.some.injEq] at listed
      subst listed
      simp only [List.mem_map] at member
      obtain ⟨inner, innerMember, rfl⟩ := member
      simp only [itemsOf, List.mem_map, List.mem_attach, true_and] at innerMember
      obtain ⟨⟨original, originalMember⟩, rfl⟩ := innerMember
      exact itemsFit_iff.mp fits original originalMember
  | _ => cases listed

end Json

namespace Grammar

theorem field?_child? {node : Json} {key : String} {w : { v : Json // sizeOf v < sizeOf node }}
    (found : field? node key = some w) : node.child? key = some w := by
  unfold field? at found
  split at found
  · cases found
  · exact found

theorem field?_get? {node : Json} {key : String} {w : { v : Json // sizeOf v < sizeOf node }}
    (found : field? node key = some w) : node.get? key = some w.1 :=
  Json.child?_get? (field?_child? found)

theorem fieldValue?_get? {node v : Json} {key : String} (found : fieldValue? node key = some v) :
    node.get? key = some v := by
  unfold fieldValue? at found
  obtain ⟨w, present, rfl⟩ := Option.map_eq_some_iff.mp found
  exact field?_get? present

theorem checkKeys_of_fits {node : Json} {shape : Shape} {path : String} (fits : node.fits (.one shape) = true) :
    checkKeys true node shape.keys path = .ok () := by
  have listed : ∀ key ∈ node.keys, key ∈ shape.keys := by
    cases node with
    | obj fields =>
        intro key member
        simp only [Json.keys, List.mem_map] at member
        obtain ⟨field, fieldMember, rfl⟩ := member
        exact (Json.fieldsFit_iff.mp fits field fieldMember).1
    | _ => simp [Json.keys]
  have none : node.keys.filter (fun k => !shape.keys.contains k) = [] := by
    simpa [List.filter_eq_nil_iff] using listed
  rw [checkKeys]
  simp only [Bool.not_true, Bool.false_eq_true, if_false, none]
  rfl

end Grammar

/-! ## A strict reading beside a lenient one -/

section Strictness

variable {α β γ : Type} {fits : Prop}

/-- A strict reading `x` beside the lenient reading `y` of the same value: it
ends as `y` does or fails, and ends as `y` does when `fits` holds. -/
def Stricter (fits : Prop) (x y : Compiling α) : Prop :=
  (x = y ∨ ∃ e, x = .error e) ∧ (fits → x = y)

namespace Stricter

theorem refl {x : Compiling α} : Stricter fits x x := ⟨.inl rfl, fun _ => rfl⟩

theorem bind {x y : Compiling α} {f g : α → Compiling β} (first : Stricter fits x y)
    (rest : ∀ a, Stricter fits (f a) (g a)) : Stricter fits (x >>= f) (y >>= g) := by
  refine ⟨?_, fun holds => ?_⟩
  · rcases first.1 with rfl | ⟨e, rfl⟩
    · cases x with
      | error e => exact .inl rfl
      | ok a => exact (rest a).1
    · exact .inr ⟨e, rfl⟩
  · rw [first.2 holds]
    cases y with
    | error e => rfl
    | ok a => exact (rest a).2 holds

theorem mono {fits' : Prop} {x y : Compiling α} (stricter : Stricter fits x y) (weaker : fits' → fits) :
    Stricter fits' x y :=
  ⟨stricter.1, fun holds => stricter.2 (weaker holds)⟩

theorem mapM {items : List γ} {f g : γ → Compiling β}
    (each : ∀ item ∈ items, Stricter fits (f item) (g item)) :
    Stricter fits (items.mapM f) (items.mapM g) := by
  induction items with
  | nil => exact refl
  | cons item rest restIH =>
      rw [List.mapM_cons, List.mapM_cons]
      exact bind (each item List.mem_cons_self) fun b =>
        bind (restIH fun other member => each other (List.mem_cons_of_mem item member)) fun bs => refl

theorem mapIdxM {items : List γ} {f g : Nat → γ → Compiling β}
    (each : ∀ i, ∀ item ∈ items, Stricter fits (f i item) (g i item)) :
    Stricter fits (items.mapIdxM f) (items.mapIdxM g) := by
  -- the indices are the sizes of the arrays built so far, the same on both sides
  suffices going : ∀ (rest : List γ), (∀ item ∈ rest, item ∈ items) →
      ∀ acc, Stricter fits (List.mapIdxM.go f rest acc) (List.mapIdxM.go g rest acc) from
    going items (fun _ member => member) #[]
  intro rest
  induction rest with
  | nil => exact fun _ _ => refl
  | cons item rest restIH =>
      intro inItems acc
      rw [List.mapIdxM.go, List.mapIdxM.go]
      exact bind (each _ item (inItems item List.mem_cons_self)) fun b =>
        restIH (fun other member => inItems other (List.mem_cons_of_mem item member)) _

theorem ite {c : Prop} [Decidable c] {x x' y y' : Compiling α} (yes : c → Stricter fits x x')
    (no : ¬c → Stricter fits y y') : Stricter fits (if c then x else y) (if c then x' else y') := by
  by_cases holds : c
  · simpa only [if_pos holds] using yes holds
  · simpa only [if_neg holds] using no holds

/-- What the strict reading accepts, the lenient reading accepts alike. -/
theorem eq_ok {x y : Compiling α} {a : α} (stricter : Stricter fits x y) (accepted : x = .ok a) :
    y = .ok a := by
  rcases stricter.1 with same | ⟨e, failed⟩
  · exact same ▸ accepted
  · rw [accepted] at failed
    cases failed

end Stricter

end Strictness

namespace Grammar

theorem checkKeys_stricter {node : Json} {shape : Shape} {path : String} :
    Stricter (node.fits (.one shape) = true) (checkKeys true node shape.keys path)
      (checkKeys false node shape.keys path) := by
  refine ⟨?_, fun fits => checkKeys_of_fits fits⟩
  cases checked : checkKeys true node shape.keys path with
  | error e => exact .inr ⟨e, rfl⟩
  | ok u => exact .inl rfl

/-- The reading of arguments, literals, selectors, matchers and statements,
strict beside lenient, one mutual recursion on the size of the value read. -/
theorem arguments_stricter :
    (∀ node path, Stricter (node.fits (.many .argument) = true) (argumentsOf true node path)
      (argumentsOf false node path)) ∧
    (∀ node path, Stricter (node.fits (.one .argument) = true) (argumentOf true node path)
      (argumentOf false node path)) ∧
    (∀ node path, Stricter (node.fits .literal = true) (literalOf true node path)
      (literalOf false node path)) ∧
    (∀ node path, Stricter (node.fits (.one .selector) = true) (selectorOf true node path)
      (selectorOf false node path)) ∧
    (∀ node path, Stricter (∀ v, node.get? "args" = some v → v.fits (.many .argument) = true)
      (argumentsIn true node path) (argumentsIn false node path)) ∧
    (∀ node path, Stricter (node.fits (.many .statement) = true) (statementsOf true node path)
      (statementsOf false node path)) ∧
    (∀ node path, Stricter (node.fits (.one .statement) = true) (statementOf true node path)
      (statementOf false node path)) ∧
    (∀ node path, Stricter (∀ v, node.get? "matcher" = some v → v.fits (.one .matcher) = true)
      (matcherIn true node path) (matcherIn false node path)) := by
  refine argumentsOf.mutual_induct
    (fun node path => Stricter (node.fits (.many .argument) = true) (argumentsOf true node path)
      (argumentsOf false node path))
    (fun node path => Stricter (node.fits (.one .argument) = true) (argumentOf true node path)
      (argumentOf false node path))
    (fun node path => Stricter (node.fits .literal = true) (literalOf true node path)
      (literalOf false node path))
    (fun node path => Stricter (node.fits (.one .selector) = true) (selectorOf true node path)
      (selectorOf false node path))
    (fun node path => Stricter (∀ v, node.get? "args" = some v → v.fits (.many .argument) = true)
      (argumentsIn true node path) (argumentsIn false node path))
    (fun node path => Stricter (node.fits (.many .statement) = true) (statementsOf true node path)
      (statementsOf false node path))
    (fun node path => Stricter (node.fits (.one .statement) = true) (statementOf true node path)
      (statementOf false node path))
    (fun node path => Stricter (∀ v, node.get? "matcher" = some v → v.fits (.one .matcher) = true)
      (matcherIn true node path) (matcherIn false node path))
    ?argumentsListed ?argumentsAbsent ?argument ?literalBool ?literalInt ?literalFloat ?literalText
    ?literalReference ?literalSelector ?literalOther ?selector ?argumentsInPresent
    ?argumentsInAbsent ?statementsListed ?statementsAbsent ?statement ?matcherAbsent ?matcherPresent
  case argumentsListed =>
    intro node path items listed argumentIH
    rw [argumentsOf, argumentsOf, listed]
    exact Stricter.mapM fun item member =>
      (argumentIH item.1 item.2).mono fun fits => Json.fits_item fits listed member
  case argumentsAbsent =>
    intro node path missing
    rw [argumentsOf, argumentsOf, missing]
    exact Stricter.refl
  case argument =>
    -- a predicate, a value or a named parameter
    intro node path statementsIH literalIH
    rw [argumentOf, argumentOf]
    refine Stricter.bind Stricter.refl fun _ => Stricter.bind checkKeys_stricter fun _ => ?_
    -- the same branches on both sides: only the nested readings differ
    dsimp only
    refine Stricter.ite (fun _ => Stricter.refl) fun _ =>
      Stricter.ite (fun _ => Stricter.ite (fun _ => Stricter.refl) fun _ => ?_) fun _ =>
        Stricter.ite (fun _ => ?_) fun _ => Stricter.refl
    · split
      · rename_i v smaller found
        exact Stricter.bind ((statementsIH v smaller).mono fun fits =>
          Json.fits_get fits _ (Json.child?_get? found)) fun _ => Stricter.refl
      · exact Stricter.refl
    · split
      · rename_i v smaller found
        exact Stricter.bind ((literalIH v smaller).mono fun fits =>
          Json.fits_get fits _ (Json.child?_get? found)) fun _ => Stricter.refl
      · exact Stricter.refl
  case literalBool | literalInt | literalFloat | literalText =>
    intro path value
    rw [literalOf, literalOf]
    exact Stricter.refl
  case literalReference =>
    intro path fields referenced argumentsIH
    have shaped : Shape.ofLiteral fields = .reference := if_pos referenced
    rw [literalOf, literalOf, if_pos referenced, if_pos referenced]
    refine Stricter.bind (checkKeys_stricter.mono fun fits => ?_) fun _ =>
      Stricter.bind Stricter.refl fun _ => Stricter.bind (argumentsIH.mono fun fits v found => ?_)
        fun _ => Stricter.refl
    · simpa [Json.fits, shaped] using fits
    · have asReference : (Json.obj fields).fits (.one .reference) = true := by
        simpa [Json.fits, shaped] using fits
      exact Json.fits_get asReference v found
  case literalSelector =>
    intro path fields unreferenced selectorIH
    have shaped : Shape.ofLiteral fields = .selector := if_neg unreferenced
    rw [literalOf, literalOf, if_neg unreferenced, if_neg unreferenced]
    refine Stricter.bind (selectorIH.mono fun fits => ?_) fun _ => Stricter.refl
    simpa [Json.fits, shaped] using fits
  case literalOther =>
    intro path other notBool notInt notFloat notText notObject
    cases other with
    | bool b => exact absurd rfl (notBool b)
    | int n => exact absurd rfl (notInt n)
    | float x => exact absurd rfl (notFloat x)
    | str text => exact absurd rfl (notText text)
    | obj fields => exact absurd rfl (notObject fields)
    | null | arr _ =>
        rw [literalOf.eq_def, literalOf.eq_def]
        exact Stricter.refl
  case selector =>
    intro node path argumentsIH
    rw [selectorOf, selectorOf]
    refine Stricter.bind Stricter.refl fun _ => Stricter.bind checkKeys_stricter fun _ => ?_
    dsimp only
    split
    · exact Stricter.bind Stricter.refl fun _ =>
        Stricter.bind (argumentsIH.mono Json.fits_get) fun _ =>
          Stricter.refl
    · exact Stricter.refl
  case argumentsInPresent =>
    intro node path v smaller found argumentsIH
    rw [argumentsIn, argumentsIn, found]
    exact argumentsIH.mono fun fits => fits v (field?_get? found)
  case argumentsInAbsent =>
    intro node path missing
    rw [argumentsIn, argumentsIn, missing]
    exact Stricter.refl
  case statementsListed =>
    intro node path items listed statementIH
    rw [statementsOf, statementsOf, listed]
    exact Stricter.mapM fun item member =>
      (statementIH item.1 item.2).mono fun fits => Json.fits_item fits listed member
  case statementsAbsent =>
    intro node path missing
    rw [statementsOf, statementsOf, missing]
    exact Stricter.refl
  case statement =>
    intro node path argumentsIH matcherIH statementsIH
    rw [statementOf, statementOf]
    refine Stricter.bind Stricter.refl fun _ => Stricter.bind checkKeys_stricter fun _ =>
      Stricter.bind Stricter.refl fun _ => Stricter.bind Stricter.refl fun _ =>
        Stricter.bind (argumentsIH.mono Json.fits_get) fun _ =>
          Stricter.bind (matcherIH.mono Json.fits_get) fun _ => ?_
    -- the rest of the statement is read the same way after either branch
    dsimp only
    split
    · rename_i p smaller found
      exact Stricter.bind ((statementsIH p smaller).mono fun fits =>
        Json.fits_get fits _ (field?_get? found)) fun _ => Stricter.refl
    · exact Stricter.refl
  case matcherAbsent =>
    intro node path missing
    rw [matcherIn, matcherIn, missing]
    exact Stricter.refl
  case matcherPresent =>
    intro node path m smaller found argumentsIH
    rw [matcherIn, matcherIn, found]
    have present : node.get? "matcher" = some m := field?_get? found
    exact Stricter.bind Stricter.refl fun _ =>
      Stricter.bind (checkKeys_stricter.mono fun fits => fits m present) fun _ =>
        Stricter.bind Stricter.refl fun _ =>
          Stricter.bind (argumentsIH.mono fun fits => Json.fits_get (fits m present)) fun _ => Stricter.refl

theorem filterOf_stricter {node : Json} {path : String} :
    Stricter (node.fits (.one .filter) = true) (filterOf true node path) (filterOf false node path) := by
  rw [filterOf, filterOf]
  exact Stricter.bind Stricter.refl fun _ => Stricter.bind checkKeys_stricter fun _ =>
    Stricter.bind Stricter.refl fun _ =>
      Stricter.bind ((arguments_stricter.2.2.2.2.1 node path).mono Json.fits_get) fun _ =>
      Stricter.bind ((arguments_stricter.2.2.2.2.2.2.2 node path).mono Json.fits_get) fun _ => Stricter.refl

/-- The reading of elements, nested and shadow ones included, strict beside
lenient, one mutual recursion on the size of the value read. -/
theorem elements_stricter :
    (∀ node path, Stricter (node.fits (.many .element) = true) (elementsOf true node path)
      (elementsOf false node path)) ∧
    (∀ node path, Stricter (node.fits (.one .element) = true) (elementOf true node path)
      (elementOf false node path)) ∧
    (∀ node path, Stricter (∀ v, node.get? "shadow" = some v → v.fits (.one .shadow) = true)
      (shadowIn true node path) (shadowIn false node path)) ∧
    (∀ node path, Stricter (∀ v, node.get? "elements" = some v → v.fits (.many .element) = true)
      (elementsIn true node path) (elementsIn false node path)) := by
  refine elementsOf.mutual_induct
    (fun node path => Stricter (node.fits (.many .element) = true) (elementsOf true node path)
      (elementsOf false node path))
    (fun node path => Stricter (node.fits (.one .element) = true) (elementOf true node path)
      (elementOf false node path))
    (fun node path => Stricter (∀ v, node.get? "shadow" = some v → v.fits (.one .shadow) = true)
      (shadowIn true node path) (shadowIn false node path))
    (fun node path => Stricter (∀ v, node.get? "elements" = some v → v.fits (.many .element) = true)
      (elementsIn true node path) (elementsIn false node path))
    ?elementsListed ?elementsAbsent ?element ?shadowPresent ?shadowAbsent ?nestedPresent
    ?nestedAbsent
  case elementsListed =>
    intro node path items listed elementIH
    rw [elementsOf, elementsOf, listed]
    exact Stricter.mapIdxM fun i item member =>
      (elementIH i item.1 item.2).mono fun fits => Json.fits_item fits listed member
  case elementsAbsent =>
    intro node path missing
    rw [elementsOf, elementsOf, missing]
    exact Stricter.refl
  case element =>
    intro node path elementsIH shadowIH
    rw [elementOf, elementOf]
    refine Stricter.bind Stricter.refl fun _ => Stricter.bind checkKeys_stricter fun _ =>
      Stricter.bind Stricter.refl fun name => Stricter.bind Stricter.refl fun type => ?_
    refine Stricter.bind ?_ fun selector => Stricter.bind Stricter.refl fun _ =>
      Stricter.bind Stricter.refl fun _ =>
        Stricter.bind ((elementsIH name).mono Json.fits_get) fun _ =>
          Stricter.bind ((shadowIH name).mono Json.fits_get) fun _ =>
            Stricter.bind ?_ fun filter => Stricter.refl
    · split
      · rename_i v smaller found
        exact Stricter.bind ((arguments_stricter.2.2.2.1 v _).mono fun fits =>
          Json.fits_get fits _ (field?_get? found)) fun _ => Stricter.refl
      · exact Stricter.refl
    · split
      · rename_i f found
        exact Stricter.bind (filterOf_stricter.mono fun fits => Json.fits_get fits _ (fieldValue?_get? found))
          fun _ => Stricter.refl
      · exact Stricter.refl
  case shadowPresent =>
    intro node path v smaller found elementsIH
    rw [shadowIn, shadowIn, found]
    have present : node.get? "shadow" = some v := field?_get? found
    exact Stricter.bind Stricter.refl fun _ =>
      Stricter.bind (checkKeys_stricter.mono fun fits => fits v present) fun _ =>
        elementsIH.mono fun fits => Json.fits_get (fits v present)
  case shadowAbsent =>
    intro node path missing
    rw [shadowIn, shadowIn, missing]
    exact Stricter.refl
  case nestedPresent =>
    intro node path v smaller found elementsIH
    rw [elementsIn, elementsIn, found]
    exact elementsIH.mono fun fits => fits v (field?_get? found)
  case nestedAbsent =>
    intro node path missing
    rw [elementsIn, elementsIn, missing]
    exact Stricter.refl

theorem chainOf_stricter {node : Json} {path : String} :
    Stricter (node.fits (.many .link) = true) (chainOf true node path) (chainOf false node path) := by
  unfold chainOf
  split
  · rename_i items
    exact Stricter.mapIdxM fun i link member =>
      Stricter.bind Stricter.refl fun _ =>
        Stricter.bind (checkKeys_stricter.mono fun fits => Json.itemsFit_iff.mp fits link member) fun _ =>
          Stricter.refl
  · exact Stricter.refl

theorem utilityOf_stricter {node : Json} {path : String} :
    Stricter (node.fits (.one .utility) = true) (utilityOf true node path) (utilityOf false node path) := by
  rw [utilityOf, utilityOf]
  exact Stricter.bind Stricter.refl fun _ => Stricter.bind checkKeys_stricter fun _ =>
    Stricter.bind Stricter.refl fun _ => Stricter.bind Stricter.refl fun _ =>
      Stricter.bind ((arguments_stricter.2.2.2.2.1 node path).mono Json.fits_get) fun _ => Stricter.refl

theorem methodOf_stricter {node : Json} {path : String} :
    Stricter (node.fits (.one .method) = true) (methodOf true node path) (methodOf false node path) := by
  rw [methodOf, methodOf]
  refine Stricter.bind Stricter.refl fun _ => Stricter.bind checkKeys_stricter fun _ =>
    Stricter.bind Stricter.refl fun name => Stricter.bind ?_ fun args =>
      Stricter.bind Stricter.refl fun returnType => Stricter.bind Stricter.refl fun returnsAll =>
        Stricter.bind ?_ fun compose => Stricter.bind ?_ fun chain => Stricter.bind ?_ fun utility =>
          Stricter.refl
  -- each body is read from the value under its key, in its own slot
  · split
    · exact Stricter.refl
    · rename_i v _ found
      exact Stricter.bind ((arguments_stricter.1 v _).mono fun fits => Json.fits_get fits _ found) fun _ =>
        Stricter.refl
    · exact Stricter.refl
  · split
    · rename_i v found
      exact Stricter.bind ((arguments_stricter.2.2.2.2.2.1 v _).mono fun fits => Json.fits_get fits _ found)
        fun _ => Stricter.refl
    · exact Stricter.refl
  · split
    · rename_i v found
      exact Stricter.bind (chainOf_stricter.mono fun fits => Json.fits_get fits _ found) fun _ =>
        Stricter.refl
    · exact Stricter.refl
  · split
    · rename_i v found
      exact Stricter.bind (utilityOf_stricter.mono fun fits => Json.fits_get fits _ found) fun _ =>
        Stricter.refl
    · exact Stricter.refl

theorem methodsOf_stricter {node : Json} :
    Stricter (∀ v, node.get? "methods" = some v → v.fits (.many .method) = true) (methodsOf true node)
      (methodsOf false node) := by
  unfold methodsOf
  dsimp only
  -- an empty value stands for no methods; any other value is the list read
  cases found : node.get? "methods" with
  | none => exact Stricter.refl
  | some v =>
      dsimp only
      split
      · rename_i items listed
        refine Stricter.mapIdxM fun i m member => methodOf_stricter.mono fun fits => ?_
        split at listed
        · subst listed
          exact Json.itemsFit_iff.mp (by simpa [Json.fits] using fits _ rfl) m member
        · cases listed
          simp at member
      · exact Stricter.refl

theorem read_stricter {tree : Json} :
    Stricter (tree.fits (.one .document) = true) (read true tree) (read false tree) := by
  rw [read, read]
  refine Stricter.bind Stricter.refl fun _ => Stricter.bind checkKeys_stricter fun _ =>
    Stricter.bind Stricter.refl fun _ => Stricter.bind Stricter.refl fun _ =>
      Stricter.bind Stricter.refl fun _ => Stricter.bind Stricter.refl fun _ =>
        Stricter.bind Stricter.refl fun _ => Stricter.bind ?_ fun _ =>
          Stricter.bind Stricter.refl fun _ =>
            Stricter.bind ((elements_stricter.2.2.2 tree _).mono Json.fits_get) fun _ =>
            Stricter.bind ((elements_stricter.2.2.1 tree _).mono Json.fits_get) fun _ =>
            Stricter.bind (methodsOf_stricter.mono Json.fits_get) fun _ =>
              Stricter.refl
  split
  · rename_i v found
    exact Stricter.bind ((arguments_stricter.2.2.2.1 v _).mono fun fits =>
      Json.fits_get fits _ (fieldValue?_get? found)) fun _ => Stricter.refl
  · exact Stricter.refl

end Grammar

/-- The strict grammar refuses a page object or compiles it as the lenient one
does, and a document that fits its grammar compiles alike under both. -/
theorem compile_stricter (settings : Settings) (identifier tree : Json) :
    Stricter (tree.fits (.one .document) = true)
      (compile { settings with strictGrammar := true } identifier tree)
      (compile { settings with strictGrammar := false } identifier tree) := by
  -- only the reading depends on the grammar: the compilation of the spec read is shared
  have sameSpec : compileSpec { settings with strictGrammar := true } identifier =
      compileSpec { settings with strictGrammar := false } identifier :=
    funext (@compileSpec_eq_of_limit { settings with strictGrammar := true }
      { settings with strictGrammar := false } rfl identifier)
  obtain ⟨either, fitting⟩ : Stricter (tree.fits (.one .document) = true)
      (Grammar.read true tree >>= compileSpec { settings with strictGrammar := false } identifier)
      (Grammar.read false tree >>= compileSpec { settings with strictGrammar := false } identifier) :=
    Stricter.bind Grammar.read_stricter fun _ => Stricter.refl
  unfold compile
  dsimp only
  rw [sameSpec]
  refine ⟨?_, fun fits => by rw [fitting fits]⟩
  rcases either with same | ⟨e, refused⟩
  · exact .inl (by rw [same])
  · exact .inr ⟨e.leaving identifier, by rw [refused]⟩

theorem strict_grammar_only_refuses (settings : Settings) (identifier tree : Json) :
    (∀ declaration, compile { settings with strictGrammar := true } identifier tree = .ok declaration →
      compile { settings with strictGrammar := false } identifier tree = .ok declaration) ∧
    (tree.fits (.one .document) = true →
      compile { settings with strictGrammar := true } identifier tree =
        compile { settings with strictGrammar := false } identifier tree) :=
  ⟨fun _ accepted => (compile_stricter settings identifier tree).eq_ok accepted,
    (compile_stricter settings identifier tree).2⟩

theorem filtered_list_document_fits :
    (∃ declaration, compile { strictGrammar := true } (.str "a/b/c") filteredListDocument = .ok declaration ∧
      compile { strictGrammar := false } (.str "a/b/c") filteredListDocument = .ok declaration) ∧
    (filteredListDocument.fits (.one .document) = true ∧
      compile { strictGrammar := true } (.str "a/b/c") filteredListDocument =
        compile { strictGrammar := false } (.str "a/b/c") filteredListDocument) := by
  obtain ⟨declaration, accepted⟩ := exists_ok_of_toBool
    (show (compile { strictGrammar := true } (.str "a/b/c") filteredListDocument).toBool = true by
      decide +kernel)
  have fits : filteredListDocument.fits (.one .document) = true := by decide +kernel
  exact ⟨⟨declaration, accepted, (strict_grammar_only_refuses {} _ _).1 declaration accepted⟩,
    fits, (strict_grammar_only_refuses {} _ _).2 fits⟩

/-- A key the grammar does not list: the strict grammar refuses the document,
the lenient one compiles it. -/
example : (compile { strictGrammar := true } (.str "a/b/c")
      (.obj [("elements", .arr []), ("comment", .str "draft")])).toBool = false ∧
    (compile { strictGrammar := false } (.str "a/b/c")
      (.obj [("elements", .arr []), ("comment", .str "draft")])).toBool = true := by
  decide +kernel

end PageObjects
