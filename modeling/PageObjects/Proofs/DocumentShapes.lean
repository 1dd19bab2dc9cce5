import PageObjects.Proofs.StrictGrammar
import PageObjects.Proofs.Batches

/-!
# The shapes of the values a document holds

The grammar reads each key of each object of a document as a value of one
form: an object of a shape, an array of such objects, a literal value, a flag,
a non-empty text, or a non-empty text or an array of them. `Shape.forms` lists
the keys each shape reads with their forms; they are exactly the keys the shape
lists. `Json.Shaped` is the typing of a document by that table, where a key
whose value is null counts as absent.

The reading is a check of that typing: every object it reads is an object,
and every value it reads under a key has the key's form. The reader's two
mutual recursions carry it (`arguments_shaped`, `elements_shaped`), and a
method and the whole document follow. One key breaks the pattern: the methods
of a page object are read as an array only when the value is truthy, so an
empty object, a zero, `false` or an empty text passes as no methods at all
(`read_shaped_but_falsy_methods`, `falsy_methods_read_unshaped`).
-/

namespace PageObjects

namespace Grammar

/-- What the grammar reads the value under a key as. -/
inductive Form where
  /-- An object of a shape. -/
  | object (shape : Shape)
  /-- An array of objects of a shape. -/
  | objects (shape : Shape)
  /-- A literal: a flag, a number, a text, or an object read as an element
  reference or a selector. -/
  | literal
  /-- A flag. -/
  | flag
  /-- A non-empty text. -/
  | text
  /-- A non-empty text, or an array of them. -/
  | texts
  /-- A value the grammar does not read. -/
  | unread
  deriving DecidableEq, Repr

/-- The keys an object of a shape reads, each with the form of its value. -/
def Shape.forms : Shape → List (String × Form)
  | .document => [("elements", .objects .element), ("methods", .objects .method),
      ("interface", .flag), ("implements", .text), ("root", .flag), ("selector", .object .selector),
      ("type", .texts), ("exposeRootElement", .flag), ("shadow", .object .shadow),
      ("description", .texts)]
  | .element => [("name", .text), ("type", .texts), ("selector", .object .selector),
      ("public", .flag), ("nullable", .flag), ("elements", .objects .element),
      ("shadow", .object .shadow), ("filter", .object .filter), ("description", .texts)]
  | .shadow => [("elements", .objects .element)]
  | .selector => [("css", .text), ("accessid", .text), ("classchain", .text),
      ("uiautomator", .text), ("returnAll", .flag), ("args", .objects .argument)]
  | .filter => [("apply", .text), ("args", .objects .argument), ("matcher", .object .matcher),
      ("findFirst", .flag)]
  | .matcher => [("type", .text), ("args", .objects .argument)]
  | .argument => [("value", .literal), ("name", .text), ("type", .text),
      ("predicate", .objects .statement)]
  | .reference => [("element", .text), ("args", .objects .argument)]
  | .statement => [("element", .text), ("apply", .text), ("args", .objects .argument),
      ("matcher", .object .matcher), ("predicate", .objects .statement), ("returnType", .text),
      ("returnAll", .flag)]
  | .method => [("name", .text), ("args", .objects .argument), ("return", .texts),
      ("returnAll", .flag), ("compose", .objects .statement), ("chain", .objects .link),
      ("externalUtility", .object .utility), ("description", .texts)]
  | .link => [("element", .text), ("type", .text), ("returnAll", .flag)]
  | .utility => [("type", .text), ("invoke", .text), ("args", .objects .argument)]

/-- The form of the value under a key of an object of a shape. -/
def Shape.form (shape : Shape) (key : String) : Form :=
  ((shape.forms.find? (·.1 == key)).map Prod.snd).getD .unread

/-- The keys a shape reads are the keys it lists. -/
theorem Shape.keys_eq_forms (shape : Shape) : shape.keys = shape.forms.map Prod.fst := by
  cases shape <;> rfl

/-- A key a shape does not list is not read. -/
theorem Shape.form_of_not_mem {shape : Shape} {key : String} (unlisted : key ∉ shape.keys) :
    shape.form key = .unread := by
  have missing : shape.forms.find? (·.1 == key) = none := by
    rw [List.find?_eq_none]
    intro pair member same
    apply unlisted
    rw [shape.keys_eq_forms, List.mem_map]
    exact ⟨pair, member, by simpa using same⟩
  simp [form, missing]

end Grammar

namespace Json

open Grammar

/-- A value of a form, as the grammar reads it: objects whose keys hold values
of their forms, nested alike, and arrays of such objects; a key whose value is
null counts as absent. -/
inductive Shaped : Form → Json → Prop where
  | object {shape : Shape} {fields : List (String × Json)}
      (keyed : ∀ key v, (Json.obj fields).get? key = some v → v.isNull = false →
        Shaped (shape.form key) v) :
      Shaped (.object shape) (.obj fields)
  | objects {shape : Shape} {items : List Json} (each : ∀ item ∈ items, Shaped (.object shape) item) :
      Shaped (.objects shape) (.arr items)
  | flagLiteral (b : Bool) : Shaped .literal (.bool b)
  | intLiteral (n : Int) : Shaped .literal (.int n)
  | floatLiteral (x : Decimal.Binary64) : Shaped .literal (.float x)
  | textLiteral (s : String) : Shaped .literal (.str s)
  | objectLiteral {fields : List (String × Json)}
      (shaped : Shaped (.object (Shape.ofLiteral fields)) (.obj fields)) : Shaped .literal (.obj fields)
  | flag (b : Bool) : Shaped .flag (.bool b)
  | text {s : String} (nonempty : s ≠ "") : Shaped .text (.str s)
  | oneText {v : Json} (shaped : Shaped .text v) : Shaped .texts v
  | texts {items : List Json} (each : ∀ item ∈ items, Shaped .text item) : Shaped .texts (.arr items)
  | unread (v : Json) : Shaped .unread v

/-- The value under a key, when present and not null, has a form. -/
def KeyShaped (node : Json) (key : String) (form : Form) : Prop :=
  ∀ v, node.get? key = some v → v.isNull = false → v.Shaped form

/-- An object is of a shape when each key the shape lists holds a value of its form. -/
theorem Shaped.of_keys {shape : Shape} {fields : List (String × Json)}
    (keyed : ∀ key ∈ shape.keys, (Json.obj fields).KeyShaped key (shape.form key)) :
    (Json.obj fields).Shaped (.object shape) :=
  .object fun key v found present => by
    by_cases listed : key ∈ shape.keys
    · exact keyed key listed v found present
    · rw [Shape.form_of_not_mem listed]
      exact .unread v

/-- A key that is not there holds nothing to check. -/
theorem KeyShaped.of_has {node : Json} {key : String} {form : Form} (missing : node.has key = false) :
    node.KeyShaped key form := by
  intro v found
  simp [has, found] at missing

/-- An item of an array, with the evidence the reader carries. -/
theorem exists_mem_elements? {items : List Json} {listed : List { v : Json // sizeOf v < sizeOf (Json.arr items) }}
    (found : (Json.arr items).elements? = some listed) {item : Json} (member : item ∈ items) :
    ∃ w ∈ listed, w.1 = item := by
  simp only [elements?, Option.some.injEq] at found
  subst found
  refine ⟨⟨item, ?_⟩, ?_, rfl⟩
  · have := List.sizeOf_lt_of_mem member
    simp
    omega
  · simp [itemsOf, member]

/-- A value the reader lists as an array is an array of objects of a shape
when each item it lists is such an object. -/
theorem objects_of_elements? {shape : Grammar.Shape} {node : Json}
    {listed : List { v : Json // sizeOf v < sizeOf node }} (found : node.elements? = some listed)
    (each : ∀ w ∈ listed, w.1.Shaped (.object shape)) : node.Shaped (.objects shape) := by
  cases node with
  | arr items =>
    refine .objects fun item member => ?_
    obtain ⟨w, wMember, rfl⟩ := exists_mem_elements? found member
    exact each w wMember
  | _ => simp [elements?] at found

/-- A `mapIdxM` that succeeds succeeds on every item, at some index. -/
theorem mapIdxM_eq_ok_each {ε α β : Type} {f : Nat → α → Except ε β} {items : List α} {results : List β}
    (mapped : items.mapIdxM f = .ok results) : ∀ x ∈ items, ∃ i y, f i x = .ok y := by
  -- the loop carries the results so far, whose count is the index of the next item
  suffices going : ∀ (rest : List α) (acc : Array β) (out : List β),
      List.mapIdxM.go f rest acc = .ok out → ∀ x ∈ rest, ∃ i y, f i x = .ok y from
    going items #[] results mapped
  intro rest
  induction rest with
  | nil => intro _ _ _ x member; cases member
  | cons item rest restIH =>
      intro acc out looped x member
      rw [List.mapIdxM.go] at looped
      obtain ⟨y, first, looped⟩ := bind_eq_ok.mp looped
      rcases List.mem_cons.mp member with rfl | later
      · exact ⟨_, y, first⟩
      · exact restIH _ _ looped x later

end Json

/-- A mapped computation succeeds exactly when the computation does. -/
theorem map_eq_ok {ε α β : Type} {f : α → β} {x : Except ε α} {b : β} :
    f <$> x = .ok b ↔ ∃ a, x = .ok a ∧ f a = b := by
  cases x <;> simp [Functor.map, Except.map]

namespace Grammar

open Json

variable {node v : Json} {key path : String}

/-! ## What each check of the reader establishes -/

theorem getD_of_get? (found : node.get? key = some v) : node.getD key = v := by
  simp [Json.getD, found]

theorem expectObject_eq_ok (checked : expectObject node path = .ok ()) :
    ∃ fields, node = .obj fields := by
  cases node with
  | obj fields => exact ⟨fields, rfl⟩
  | _ => simp [expectObject, reject] at checked

/-- A reading that starts by checking for an object and its keys succeeds only
on an object, as the rest of the reading does. -/
theorem opened_eq_ok {α : Type} {strict : Bool} {keys : List String} {p q : String} {rest : Compiling α}
    {r : α} (read : (expectObject node p >>= fun _ => checkKeys strict node keys q >>= fun _ => rest) = .ok r) :
    ∃ fields, node = .obj fields ∧ rest = .ok r := by
  obtain ⟨⟨⟩, isObject, read⟩ := bind_eq_ok.mp read
  obtain ⟨fields, rfl⟩ := expectObject_eq_ok isObject
  obtain ⟨⟨⟩, -, read⟩ := bind_eq_ok.mp read
  exact ⟨fields, rfl, read⟩

theorem expectText_shaped {s : String} (read : expectText node path = .ok s) : node.Shaped .text := by
  cases node with
  | str t =>
      by_cases empty : t = ""
      · simp [expectText, empty, reject] at read
      · exact .text empty
  | _ => simp [expectText, reject] at read

theorem expectFlag_shaped {b : Bool} (read : expectFlag node path = .ok b) : node.Shaped .flag := by
  cases node with
  | bool b => exact .flag b
  | _ => simp [expectFlag, reject] at read

/-- A text read under a key, absent or null counting as an empty text: the
value under the key, when present and not null, is a non-empty text. -/
theorem expectText_getD_shaped {s : String} (read : expectText (node.getD key) path = .ok s) :
    node.KeyShaped key .text := by
  intro v found _
  rw [getD_of_get? found] at read
  exact expectText_shaped read

/-- A value present and not null is what the reader finds under its key. -/
theorem field?_of_present (found : node.get? key = some v) (present : v.isNull = false) :
    ∃ smaller, field? node key = some ⟨v, smaller⟩ := by
  unfold Json.get? at found
  obtain ⟨w, child, rfl⟩ := Option.map_eq_some_iff.mp found
  refine ⟨w.2, ?_⟩
  unfold field?
  rw [child]
  split
  · rename_i smaller same
    cases same
    simp [Json.isNull] at present
  · rfl

theorem fieldValue?_of_present (found : node.get? key = some v) (present : v.isNull = false) :
    fieldValue? node key = some v := by
  obtain ⟨smaller, field⟩ := field?_of_present found present
  simp [fieldValue?, field]

/-- What the reader finds absent under a key holds nothing to check. -/
theorem keyShaped_of_field?_none {form : Form} (missing : field? node key = none) :
    node.KeyShaped key form := by
  intro v found present
  obtain ⟨smaller, field⟩ := field?_of_present found present
  rw [missing] at field
  cases field

/-- What the reader finds under a key stands for every value under the key. -/
theorem keyShaped_of_field? {form : Form} {smaller : sizeOf v < sizeOf node}
    (field : field? node key = some ⟨v, smaller⟩) (shaped : v.Shaped form) : node.KeyShaped key form := by
  intro v' found _
  rw [field?_get? field] at found
  cases found
  exact shaped

theorem optionalFlag_shaped {b : Bool} (read : optionalFlag node key path = .ok b) :
    node.KeyShaped key .flag := by
  intro v found present
  unfold optionalFlag at read
  rw [fieldValue?_of_present found present] at read
  exact expectFlag_shaped read

theorem presentFlag?_shaped {b : Option Bool} (read : presentFlag? node key path = .ok b) :
    node.KeyShaped key .flag := by
  intro v found present
  unfold presentFlag? at read
  rw [fieldValue?_of_present found present] at read
  obtain ⟨flag, checked, -⟩ := bind_eq_ok.mp read
  exact expectFlag_shaped checked

theorem typeToken_shaped {token : TypeToken} (read : typeToken node path = .ok token) :
    node.Shaped .texts := by
  unfold typeToken at read
  split at read
  · rename_i items
    obtain ⟨tokens, each, -⟩ := bind_eq_ok.mp read
    refine .texts fun item member => ?_
    obtain ⟨i, text, checked⟩ := mapIdxM_eq_ok_each each item member
    exact expectText_shaped checked
  · obtain ⟨text, checked, -⟩ := bind_eq_ok.mp read
    exact .oneText (expectText_shaped checked)

theorem typeTokenIn_shaped {token : Option TypeToken} (read : typeTokenIn node path = .ok token) :
    node.KeyShaped "type" .texts := by
  intro v found present
  unfold typeTokenIn at read
  rw [fieldValue?_of_present found present] at read
  obtain ⟨t, checked, -⟩ := bind_eq_ok.mp read
  exact typeToken_shaped checked

theorem description_shaped {text : String} (read : description node path = .ok text) :
    node.KeyShaped "description" .texts := by
  intro v found present
  unfold description at read
  rw [fieldValue?_of_present found present] at read
  cases v with
  | arr items =>
      dsimp only at read
      obtain ⟨lines, each, -⟩ := bind_eq_ok.mp read
      refine .texts fun item member => ?_
      obtain ⟨line, checked⟩ := (mapM_eq_ok_iff.mp each).1 item member
      exact expectText_shaped checked
  | _ => exact .oneText (expectText_shaped read)

theorem keyShaped_of_child? {form : Form} {smaller : sizeOf v < sizeOf node}
    (found : node.child? key = some ⟨v, smaller⟩) (shaped : v.Shaped form) : node.KeyShaped key form := by
  intro v' found' _
  rw [Json.child?_get? found] at found'
  cases found'
  exact shaped

/-- A predicate argument's type, when given, is the text `function`. -/
theorem predicateTypeAllowed_shaped (allowed : predicateTypeAllowed node = true) :
    node.KeyShaped "type" .text := by
  intro v found _
  cases v with
  | str s =>
      have named : s = "function" := by
        by_contra other
        simp [predicateTypeAllowed, found, other] at allowed
      subst named
      exact .text (by decide)
  | _ => simp [predicateTypeAllowed, found] at allowed

/-- Of the locator kinds, a selector holds the one it reads, a non-empty text. -/
theorem locatorKind_shaped {kind template : String}
    (listed : locatorKinds.filter (fun k => node.has k) = [kind])
    (read : expectText (node.getD kind) path = .ok template) :
    ∀ k ∈ locatorKinds, node.KeyShaped k .text := by
  intro k member
  by_cases same : k = kind
  · subst same
    exact expectText_getD_shaped read
  · apply KeyShaped.of_has
    cases present : node.has k
    · rfl
    · have kept : k ∈ locatorKinds.filter (fun k => node.has k) := List.mem_filter.mpr ⟨member, present⟩
      rw [listed, List.mem_singleton] at kept
      exact absurd kept same

/-- A reading that, under either strictness, succeeds only when a property holds. -/
def SucceedsOnlyIf {α : Type} (reading : Bool → Compiling α) (holds : Prop) : Prop :=
  ∀ strict result, reading strict = .ok result → holds

/-- One argument is read only from an object of the argument shape, given
that the statements of its predicate and its literal value are read only from
values of their forms: exactly one of a value, a name with its type, and a
predicate is present, each of its form. -/
theorem argumentOf_shaped_of {node : Json} {path : String}
    (predicateIH : ∀ v, sizeOf v < sizeOf node →
      SucceedsOnlyIf (statementsOf · v s!"{path} predicate") (v.Shaped (.objects .statement)))
    (literalIH : ∀ v, sizeOf v < sizeOf node → SucceedsOnlyIf (literalOf · v path) (v.Shaped .literal)) :
    SucceedsOnlyIf (argumentOf · node path) (node.Shaped (.object .argument)) := by
  intro strict argument read
  dsimp only at read
  rw [argumentOf] at read
  obtain ⟨fields, rfl, read⟩ := opened_eq_ok read
  apply Shaped.of_keys
  intro key listedKey
  simp only [Shape.keys, List.mem_cons, List.not_mem_nil, or_false] at listedKey
  cases hasValue : (Json.obj fields).has "value" <;> cases hasName : (Json.obj fields).has "name" <;>
    cases hasPredicate : (Json.obj fields).has "predicate" <;>
    simp only [hasValue, hasName, hasPredicate, Bool.false_eq_true, ↓reduceIte,
      Nat.reduceAdd, Nat.reduceBNe, rejectAt, failWith, reduceCtorEq] at read
  -- a predicate, with the type `function` when it has one
  · split at read
    · cases read
    rename_i allowed
    split at read
    · rename_i v smaller found
      obtain ⟨statements, listed, -⟩ := bind_eq_ok.mp read
      rcases listedKey with rfl | rfl | rfl | rfl
      · exact KeyShaped.of_has hasValue
      · exact KeyShaped.of_has hasName
      · exact predicateTypeAllowed_shaped (by simpa using allowed)
      · exact keyShaped_of_child? found (predicateIH v smaller strict statements listed)
    · cases read
  -- a named parameter, with its type
  · obtain ⟨name, nameRead, read⟩ := bind_eq_ok.mp read
    rcases listedKey with rfl | rfl | rfl | rfl
    · exact KeyShaped.of_has hasValue
    · exact expectText_getD_shaped nameRead
    · obtain ⟨type, typeRead, -⟩ := map_eq_ok.mp read
      exact expectText_getD_shaped typeRead
    · exact KeyShaped.of_has hasPredicate
  -- a literal value, with a declared type when it has one
  · split at read
    · rename_i v smaller found
      obtain ⟨literal, literalRead, read⟩ := bind_eq_ok.mp read
      rcases listedKey with rfl | rfl | rfl | rfl
      · exact keyShaped_of_child? found (literalIH v smaller strict literal literalRead)
      · exact KeyShaped.of_has hasName
      · intro t typed _
        rw [typed] at read
        obtain ⟨token, checked, -⟩ := map_eq_ok.mp read
        exact expectText_shaped checked
      · exact KeyShaped.of_has hasPredicate
    · cases read

/-- One statement is read only from an object of the statement shape, given
that its arguments, its matcher and the statements of its predicate are read
only from values of their forms. -/
theorem statementOf_shaped_of {node : Json} {path : String}
    (argumentsIH : SucceedsOnlyIf (argumentsIn · node path) (node.KeyShaped "args" (.objects .argument)))
    (matcherIH : SucceedsOnlyIf (matcherIn · node path) (node.KeyShaped "matcher" (.object .matcher)))
    (statementsIH : ∀ p, sizeOf p < sizeOf node →
      SucceedsOnlyIf (statementsOf · p s!"{path} predicate") (p.Shaped (.objects .statement))) :
    SucceedsOnlyIf (statementOf · node path) (node.Shaped (.object .statement)) := by
  intro strict statement read
  dsimp only at read
  rw [statementOf] at read
  obtain ⟨fields, rfl, read⟩ := opened_eq_ok read
  obtain ⟨element, elementRead, read⟩ := bind_eq_ok.mp read
  obtain ⟨apply, applyRead, read⟩ := bind_eq_ok.mp read
  obtain ⟨args, argsRead, read⟩ := bind_eq_ok.mp read
  obtain ⟨matcher, matcherRead, read⟩ := bind_eq_ok.mp read
  have predicateShaped : (Json.obj fields).KeyShaped "predicate" (.objects .statement) := by
    intro v found present
    obtain ⟨smaller, field⟩ := field?_of_present found present
    rw [field] at read
    dsimp only at read
    obtain ⟨statements, listed, -⟩ := bind_eq_ok.mp read
    exact statementsIH v smaller strict statements listed
  -- whichever way the predicate was read, the return type and the flag follow it
  dsimp only at read
  split at read
  on_goal 1 =>
    obtain ⟨statements, -, read⟩ := bind_eq_ok.mp read
    obtain ⟨predicate, -, read⟩ := bind_eq_ok.mp read
  on_goal 2 =>
    obtain ⟨predicate, -, read⟩ := bind_eq_ok.mp read
  all_goals
    have returnTypeShaped : (Json.obj fields).KeyShaped "returnType" .text := by
      intro v found present
      rw [fieldValue?_of_present found present] at read
      dsimp only at read
      obtain ⟨token, checked, -⟩ := bind_eq_ok.mp read
      exact expectText_shaped checked
    -- the flag is read last, after either way of reading the return type
    obtain ⟨returnsAll, flagRead⟩ : ∃ returnsAll, optionalFlag (Json.obj fields) "returnAll" path = .ok returnsAll := by
      split at read
      · obtain ⟨token, -, read⟩ := bind_eq_ok.mp read
        obtain ⟨returnType, -, read⟩ := bind_eq_ok.mp read
        obtain ⟨returnsAll, flagRead, -⟩ := bind_eq_ok.mp read
        exact ⟨returnsAll, flagRead⟩
      · obtain ⟨returnType, -, read⟩ := bind_eq_ok.mp read
        obtain ⟨returnsAll, flagRead, -⟩ := bind_eq_ok.mp read
        exact ⟨returnsAll, flagRead⟩
    apply Shaped.of_keys
    intro key listedKey
    simp only [Shape.keys, List.mem_cons, List.not_mem_nil, or_false] at listedKey
    rcases listedKey with rfl | rfl | rfl | rfl | rfl | rfl | rfl
    · exact expectText_getD_shaped elementRead
    · exact expectText_getD_shaped applyRead
    · exact argumentsIH strict args argsRead
    · exact matcherIH strict matcher matcherRead
    · exact predicateShaped
    · exact returnTypeShaped
    · exact optionalFlag_shaped flagRead

/-- Arguments, literals, selectors, matchers and statements are read only from
values of their forms, one mutual recursion on the size of the value read. -/
theorem arguments_shaped :
    (∀ node path, SucceedsOnlyIf (argumentsOf · node path) (node.Shaped (.objects .argument))) ∧
    (∀ node path, SucceedsOnlyIf (argumentOf · node path) (node.Shaped (.object .argument))) ∧
    (∀ node path, SucceedsOnlyIf (literalOf · node path) (node.Shaped .literal)) ∧
    (∀ node path, SucceedsOnlyIf (selectorOf · node path) (node.Shaped (.object .selector))) ∧
    (∀ node path, SucceedsOnlyIf (argumentsIn · node path) (node.KeyShaped "args" (.objects .argument))) ∧
    (∀ node path, SucceedsOnlyIf (statementsOf · node path) (node.Shaped (.objects .statement))) ∧
    (∀ node path, SucceedsOnlyIf (statementOf · node path) (node.Shaped (.object .statement))) ∧
    (∀ node path, SucceedsOnlyIf (matcherIn · node path)
      (node.KeyShaped "matcher" (.object .matcher))) := by
  refine argumentsOf.mutual_induct
    (fun node path => SucceedsOnlyIf (argumentsOf · node path) (node.Shaped (.objects .argument)))
    (fun node path => SucceedsOnlyIf (argumentOf · node path) (node.Shaped (.object .argument)))
    (fun node path => SucceedsOnlyIf (literalOf · node path) (node.Shaped .literal))
    (fun node path => SucceedsOnlyIf (selectorOf · node path) (node.Shaped (.object .selector)))
    (fun node path => SucceedsOnlyIf (argumentsIn · node path)
      (node.KeyShaped "args" (.objects .argument)))
    (fun node path => SucceedsOnlyIf (statementsOf · node path) (node.Shaped (.objects .statement)))
    (fun node path => SucceedsOnlyIf (statementOf · node path) (node.Shaped (.object .statement)))
    (fun node path => SucceedsOnlyIf (matcherIn · node path)
      (node.KeyShaped "matcher" (.object .matcher)))
    ?argumentsListed ?argumentsAbsent ?argument ?literalBool ?literalInt ?literalFloat ?literalText
    ?literalReference ?literalSelector ?literalOther ?selector ?argumentsInPresent
    ?argumentsInAbsent ?statementsListed ?statementsAbsent ?statement ?matcherAbsent ?matcherPresent
  case argumentsListed =>
    -- an array whose items are arguments
    intro node path items listed argumentIH strict arguments read
    dsimp only at read
    rw [argumentsOf, listed] at read
    refine objects_of_elements? listed fun w wMember => ?_
    obtain ⟨argument, readOne⟩ := (mapM_eq_ok_iff.mp read).1 w wMember
    exact argumentIH w.1 w.2 strict argument readOne
  case argumentsAbsent =>
    intro node path missing strict arguments read
    dsimp only at read
    rw [argumentsOf, missing] at read
    simp [notAnArray, reject] at read
  case argument =>
    -- exactly one of a predicate, a value and a name is present
    intro node path predicateIH literalIH
    exact argumentOf_shaped_of predicateIH literalIH
  case literalBool =>
    intro path b strict literal read
    exact .flagLiteral b
  case literalInt =>
    intro path n strict literal read
    exact .intLiteral n
  case literalFloat =>
    intro path x strict literal read
    exact .floatLiteral x
  case literalText =>
    intro path text strict literal read
    exact .textLiteral text
  case literalReference =>
    intro path fields referenced argumentsIH strict literal read
    dsimp only at read
    rw [literalOf, if_pos referenced] at read
    obtain ⟨⟨⟩, -, read⟩ := bind_eq_ok.mp read
    obtain ⟨name, nameRead, read⟩ := bind_eq_ok.mp read
    obtain ⟨args, argsRead, -⟩ := bind_eq_ok.mp read
    have reference : Shape.ofLiteral fields = .reference := if_pos referenced
    refine .objectLiteral ?_
    rw [reference]
    apply Shaped.of_keys
    intro key listedKey
    simp only [Shape.keys, List.mem_cons, List.not_mem_nil, or_false] at listedKey
    rcases listedKey with rfl | rfl
    · exact expectText_getD_shaped nameRead
    · exact argumentsIH strict args argsRead
  case literalSelector =>
    intro path fields unreferenced selectorIH strict literal read
    dsimp only at read
    rw [literalOf, if_neg unreferenced] at read
    obtain ⟨spec, specRead, -⟩ := bind_eq_ok.mp read
    have selector : Shape.ofLiteral fields = .selector := if_neg unreferenced
    refine .objectLiteral ?_
    rw [selector]
    exact selectorIH strict spec specRead
  case literalOther =>
    intro path other notBool notInt notFloat notText notObject strict literal read
    dsimp only at read
    cases other with
    | bool b => exact absurd rfl (notBool b)
    | int n => exact absurd rfl (notInt n)
    | float x => exact absurd rfl (notFloat x)
    | str text => exact absurd rfl (notText text)
    | obj fields => exact absurd rfl (notObject fields)
    | null | arr _ => simp [literalOf, rejectAt, failWith] at read
  case selector =>
    -- exactly one locator kind, with its template
    intro node path argumentsIH strict spec read
    dsimp only at read
    rw [selectorOf] at read
    obtain ⟨fields, rfl, read⟩ := opened_eq_ok read
    dsimp only at read
    split at read
    · rename_i kind listed
      obtain ⟨template, templateRead, read⟩ := bind_eq_ok.mp read
      obtain ⟨args, argsRead, read⟩ := bind_eq_ok.mp read
      obtain ⟨returnsAll, flagRead, -⟩ := bind_eq_ok.mp read
      have locatorForm : ∀ k ∈ locatorKinds, Shape.selector.form k = .text := by decide
      apply Shaped.of_keys
      intro key listedKey
      rcases List.mem_append.mp listedKey with locator | other
      · rw [locatorForm key locator]
        exact locatorKind_shaped listed templateRead key locator
      · simp only [List.mem_cons, List.not_mem_nil, or_false] at other
        rcases other with rfl | rfl
        · exact optionalFlag_shaped flagRead
        · exact argumentsIH strict args argsRead
    · simp [reject, fail] at read
  case argumentsInPresent =>
    intro node path v smaller found argumentsIH strict args read
    dsimp only at read
    rw [argumentsIn, found] at read
    exact keyShaped_of_field? found (argumentsIH strict args read)
  case argumentsInAbsent =>
    intro node path missing strict args read
    exact keyShaped_of_field?_none missing
  case statementsListed =>
    -- an array whose items are statements
    intro node path items listed statementIH strict statements read
    dsimp only at read
    rw [statementsOf, listed] at read
    refine objects_of_elements? listed fun w wMember => ?_
    obtain ⟨statement, readOne⟩ := (mapM_eq_ok_iff.mp read).1 w wMember
    exact statementIH w.1 w.2 strict statement readOne
  case statementsAbsent =>
    intro node path missing strict statements read
    dsimp only at read
    rw [statementsOf, missing] at read
    simp [notAnArray, reject] at read
  case statement =>
    intro node path argumentsIH matcherIH statementsIH
    exact statementOf_shaped_of argumentsIH matcherIH statementsIH
  case matcherAbsent =>
    intro node path missing strict matcher read
    exact keyShaped_of_field?_none missing
  case matcherPresent =>
    intro node path m smaller found argumentsIH strict matcher read
    dsimp only at read
    rw [matcherIn, found] at read
    dsimp only at read
    obtain ⟨fields, rfl, read⟩ := opened_eq_ok read
    obtain ⟨type, typeRead, read⟩ := bind_eq_ok.mp read
    obtain ⟨args, argsRead, -⟩ := bind_eq_ok.mp read
    refine keyShaped_of_field? found (Shaped.of_keys fun key listedKey => ?_)
    simp only [Shape.keys, List.mem_cons, List.not_mem_nil, or_false] at listedKey
    rcases listedKey with rfl | rfl
    · exact expectText_getD_shaped typeRead
    · exact argumentsIH strict args argsRead

section Projections

variable {strict : Bool} {node : Json} {path : String}

theorem argumentsOf_shaped {args : List ArgumentSpec} (read : argumentsOf strict node path = .ok args) :
    node.Shaped (.objects .argument) :=
  arguments_shaped.1 node path strict args read

theorem selectorOf_shaped {spec : SelectorSpec} (read : selectorOf strict node path = .ok spec) :
    node.Shaped (.object .selector) :=
  arguments_shaped.2.2.2.1 node path strict spec read

theorem argumentsIn_shaped {args : List ArgumentSpec} (read : argumentsIn strict node path = .ok args) :
    node.KeyShaped "args" (.objects .argument) :=
  arguments_shaped.2.2.2.2.1 node path strict args read

theorem statementsOf_shaped {statements : List StatementSpec}
    (read : statementsOf strict node path = .ok statements) : node.Shaped (.objects .statement) :=
  arguments_shaped.2.2.2.2.2.1 node path strict statements read

theorem matcherIn_shaped {matcher : Option MatcherSpec} (read : matcherIn strict node path = .ok matcher) :
    node.KeyShaped "matcher" (.object .matcher) :=
  arguments_shaped.2.2.2.2.2.2.2 node path strict matcher read

end Projections

theorem filterOf_shaped {strict : Bool} {node : Json} {path : String} {spec : FilterSpec}
    (read : filterOf strict node path = .ok spec) : node.Shaped (.object .filter) := by
  rw [filterOf] at read
  obtain ⟨fields, rfl, read⟩ := opened_eq_ok read
  obtain ⟨apply, applyRead, read⟩ := bind_eq_ok.mp read
  obtain ⟨args, argsRead, read⟩ := bind_eq_ok.mp read
  obtain ⟨matcher, matcherRead, read⟩ := bind_eq_ok.mp read
  obtain ⟨findFirst, flagRead, -⟩ := bind_eq_ok.mp read
  apply Shaped.of_keys
  intro key listedKey
  simp only [Shape.keys, List.mem_cons, List.not_mem_nil, or_false] at listedKey
  rcases listedKey with rfl | rfl | rfl | rfl
  · exact expectText_getD_shaped applyRead
  · exact argumentsIn_shaped argsRead
  · exact matcherIn_shaped matcherRead
  · exact optionalFlag_shaped flagRead

/-- Elements, nested and shadow ones included, are read only from values of
their forms, one mutual recursion on the size of the value read. -/
theorem elements_shaped :
    (∀ node path, SucceedsOnlyIf (elementsOf · node path) (node.Shaped (.objects .element))) ∧
    (∀ node path, SucceedsOnlyIf (elementOf · node path) (node.Shaped (.object .element))) ∧
    (∀ node path, SucceedsOnlyIf (shadowIn · node path) (node.KeyShaped "shadow" (.object .shadow))) ∧
    (∀ node path, SucceedsOnlyIf (elementsIn · node path)
      (node.KeyShaped "elements" (.objects .element))) := by
  refine elementsOf.mutual_induct
    (fun node path => SucceedsOnlyIf (elementsOf · node path) (node.Shaped (.objects .element)))
    (fun node path => SucceedsOnlyIf (elementOf · node path) (node.Shaped (.object .element)))
    (fun node path => SucceedsOnlyIf (shadowIn · node path) (node.KeyShaped "shadow" (.object .shadow)))
    (fun node path => SucceedsOnlyIf (elementsIn · node path)
      (node.KeyShaped "elements" (.objects .element)))
    ?elementsListed ?elementsAbsent ?element ?shadowPresent ?shadowAbsent ?nestedPresent
    ?nestedAbsent
  case elementsListed =>
    -- an array whose items are elements
    intro node path items listed elementIH strict elements read
    dsimp only at read
    rw [elementsOf, listed] at read
    refine objects_of_elements? listed fun w wMember => ?_
    obtain ⟨i, element, readOne⟩ := mapIdxM_eq_ok_each read w wMember
    exact elementIH i w.1 w.2 strict element readOne
  case elementsAbsent =>
    intro node path missing strict elements read
    dsimp only at read
    rw [elementsOf, missing] at read
    simp [notAnArray, reject] at read
  case element =>
    intro node path elementsIH shadowIH strict element read
    dsimp only at read
    rw [elementOf] at read
    obtain ⟨fields, rfl, read⟩ := opened_eq_ok read
    obtain ⟨name, nameRead, read⟩ := bind_eq_ok.mp read
    obtain ⟨type, typeRead, read⟩ := bind_eq_ok.mp read
    obtain ⟨selector, selectorRead, read⟩ := bind_eq_ok.mp read
    obtain ⟨isPublic, publicRead, read⟩ := bind_eq_ok.mp read
    obtain ⟨isNullable, nullableRead, read⟩ := bind_eq_ok.mp read
    obtain ⟨elements, elementsRead, read⟩ := bind_eq_ok.mp read
    obtain ⟨shadowElements, shadowRead, read⟩ := bind_eq_ok.mp read
    obtain ⟨filter, filterRead, read⟩ := bind_eq_ok.mp read
    obtain ⟨text, textRead, -⟩ := bind_eq_ok.mp read
    apply Shaped.of_keys
    intro key listedKey
    simp only [Shape.keys, List.mem_cons, List.not_mem_nil, or_false] at listedKey
    rcases listedKey with rfl | rfl | rfl | rfl | rfl | rfl | rfl | rfl | rfl
    · exact expectText_getD_shaped nameRead
    · exact typeTokenIn_shaped typeRead
    · intro v found present
      obtain ⟨smaller, field⟩ := field?_of_present found present
      rw [field] at selectorRead
      dsimp only at selectorRead
      obtain ⟨spec, specRead, -⟩ := bind_eq_ok.mp selectorRead
      exact selectorOf_shaped specRead
    · exact optionalFlag_shaped publicRead
    · exact optionalFlag_shaped nullableRead
    · exact elementsIH name strict elements elementsRead
    · exact shadowIH name strict shadowElements shadowRead
    · intro v found present
      rw [fieldValue?_of_present found present] at filterRead
      dsimp only at filterRead
      obtain ⟨spec, specRead, -⟩ := bind_eq_ok.mp filterRead
      exact filterOf_shaped specRead
    · exact description_shaped textRead
  case shadowPresent =>
    intro node path v smaller found elementsIH strict elements read
    dsimp only at read
    rw [shadowIn, found] at read
    dsimp only at read
    obtain ⟨fields, rfl, read⟩ := opened_eq_ok read
    refine keyShaped_of_field? found (Shaped.of_keys fun key listedKey => ?_)
    simp only [Shape.keys, List.mem_cons, List.not_mem_nil, or_false] at listedKey
    subst listedKey
    exact elementsIH strict elements read
  case shadowAbsent =>
    intro node path missing strict elements read
    exact keyShaped_of_field?_none missing
  case nestedPresent =>
    intro node path v smaller found elementsIH strict elements read
    dsimp only at read
    rw [elementsIn, found] at read
    exact keyShaped_of_field? found (elementsIH strict elements read)
  case nestedAbsent =>
    intro node path missing strict elements read
    exact keyShaped_of_field?_none missing

theorem chainOf_shaped {strict : Bool} {node : Json} {path : String} {links : List ChainLinkSpec}
    (read : chainOf strict node path = .ok links) : node.Shaped (.objects .link) := by
  cases node with
  | arr items =>
      rw [chainOf] at read
      refine .objects fun link member => ?_
      obtain ⟨i, spec, read⟩ := mapIdxM_eq_ok_each read link member
      dsimp only at read
      obtain ⟨fields, rfl, read⟩ := opened_eq_ok read
      obtain ⟨element, elementRead, read⟩ := bind_eq_ok.mp read
      have typeShaped : (Json.obj fields).KeyShaped "type" .text := by
        intro v found present
        rw [fieldValue?_of_present found present] at read
        dsimp only at read
        obtain ⟨token, checked, -⟩ := bind_eq_ok.mp read
        exact expectText_shaped checked
      -- the flag is read last, after either way of reading the type
      obtain ⟨returnsAll, flagRead⟩ :
          ∃ returnsAll, optionalFlag (Json.obj fields) "returnAll" path = .ok returnsAll := by
        split at read
        · obtain ⟨token, -, read⟩ := bind_eq_ok.mp read
          obtain ⟨type, -, read⟩ := bind_eq_ok.mp read
          obtain ⟨returnsAll, flagRead, -⟩ := bind_eq_ok.mp read
          exact ⟨returnsAll, flagRead⟩
        · obtain ⟨type, -, read⟩ := bind_eq_ok.mp read
          obtain ⟨returnsAll, flagRead, -⟩ := bind_eq_ok.mp read
          exact ⟨returnsAll, flagRead⟩
      apply Shaped.of_keys
      intro key listedKey
      simp only [Shape.keys, List.mem_cons, List.not_mem_nil, or_false] at listedKey
      rcases listedKey with rfl | rfl | rfl
      · exact expectText_getD_shaped elementRead
      · exact typeShaped
      · exact optionalFlag_shaped flagRead
  | _ => simp [chainOf, notAnArray, reject] at read

theorem utilityOf_shaped {strict : Bool} {node : Json} {path : String} {spec : UtilitySpec}
    (read : utilityOf strict node path = .ok spec) : node.Shaped (.object .utility) := by
  rw [utilityOf] at read
  obtain ⟨fields, rfl, read⟩ := opened_eq_ok read
  obtain ⟨type, typeRead, read⟩ := bind_eq_ok.mp read
  obtain ⟨invoke, invokeRead, read⟩ := bind_eq_ok.mp read
  obtain ⟨args, argsRead, -⟩ := bind_eq_ok.mp read
  apply Shaped.of_keys
  intro key listedKey
  simp only [Shape.keys, List.mem_cons, List.not_mem_nil, or_false] at listedKey
  rcases listedKey with rfl | rfl | rfl
  · exact expectText_getD_shaped typeRead
  · exact expectText_getD_shaped invokeRead
  · exact argumentsIn_shaped argsRead

theorem methodOf_shaped {strict : Bool} {node : Json} {path : String} {spec : MethodSpec}
    (read : methodOf strict node path = .ok spec) : node.Shaped (.object .method) := by
  rw [methodOf] at read
  obtain ⟨fields, rfl, read⟩ := opened_eq_ok read
  obtain ⟨name, nameRead, read⟩ := bind_eq_ok.mp read
  obtain ⟨args, argsRead, read⟩ := bind_eq_ok.mp read
  obtain ⟨returnType, returnRead, read⟩ := bind_eq_ok.mp read
  obtain ⟨returnsAll, flagRead, read⟩ := bind_eq_ok.mp read
  obtain ⟨compose, composeRead, read⟩ := bind_eq_ok.mp read
  obtain ⟨chain, chainRead, read⟩ := bind_eq_ok.mp read
  obtain ⟨utility, utilityRead, read⟩ := bind_eq_ok.mp read
  obtain ⟨text, textRead, -⟩ := bind_eq_ok.mp read
  apply Shaped.of_keys
  intro key listedKey
  simp only [Shape.keys, List.mem_cons, List.not_mem_nil, or_false] at listedKey
  rcases listedKey with rfl | rfl | rfl | rfl | rfl | rfl | rfl | rfl
  · exact expectText_getD_shaped nameRead
  · intro v found present
    rw [found] at argsRead
    split at argsRead
    · rename_i same
      cases same
      simp [Json.isNull] at present
    · rename_i other _ same
      cases same
      obtain ⟨list, listRead, -⟩ := bind_eq_ok.mp argsRead
      exact argumentsOf_shaped listRead
    · rename_i same
      cases same
  · intro v found present
    rw [fieldValue?_of_present found present] at returnRead
    dsimp only at returnRead
    obtain ⟨token, tokenRead, -⟩ := bind_eq_ok.mp returnRead
    exact typeToken_shaped tokenRead
  · exact presentFlag?_shaped flagRead
  · intro v found _
    rw [found] at composeRead
    dsimp only at composeRead
    obtain ⟨statements, statementsRead, -⟩ := bind_eq_ok.mp composeRead
    exact statementsOf_shaped statementsRead
  · intro v found _
    rw [found] at chainRead
    dsimp only at chainRead
    obtain ⟨links, linksRead, -⟩ := bind_eq_ok.mp chainRead
    exact chainOf_shaped linksRead
  · intro v found _
    rw [found] at utilityRead
    dsimp only at utilityRead
    obtain ⟨spec, specRead, -⟩ := bind_eq_ok.mp utilityRead
    exact utilityOf_shaped specRead
  · exact description_shaped textRead

/-- The methods of a page object, when their value is truthy, are an array of methods. -/
theorem methodsOf_shaped {strict : Bool} {node v : Json} {methods : List MethodSpec}
    (read : methodsOf strict node = .ok methods) (found : node.get? "methods" = some v)
    (truthy : v.truthy = true) : v.Shaped (.objects .method) := by
  unfold methodsOf at read
  simp only [found, truthy, if_true] at read
  cases v with
  | arr items =>
      refine .objects fun item member => ?_
      obtain ⟨i, spec, specRead⟩ := mapIdxM_eq_ok_each read item member
      exact methodOf_shaped specRead
  | _ => simp [notAnArray, reject] at read

/-- The grammar reads a document only when it is an object whose keys hold
values of their forms, except the methods: their value is read as an array only
when it is truthy, so any falsy value passes as no methods. -/
theorem read_shaped_but_falsy_methods (strict : Bool) (tree : Json) (spec : PageObjectSpec)
    (accepted : read strict tree = .ok spec) :
    ∃ fields, tree = .obj fields ∧ ∀ key v, tree.get? key = some v → v.isNull = false →
      (key = "methods" ∧ v.truthy = false) ∨ v.Shaped (Shape.document.form key) := by
  rw [read] at accepted
  obtain ⟨fields, rfl, accepted⟩ := opened_eq_ok accepted
  obtain ⟨isInterface, interfaceRead, accepted⟩ := bind_eq_ok.mp accepted
  obtain ⟨isRoot, rootRead, accepted⟩ := bind_eq_ok.mp accepted
  obtain ⟨exposeRoot, exposeRead, accepted⟩ := bind_eq_ok.mp accepted
  obtain ⟨text, textRead, accepted⟩ := bind_eq_ok.mp accepted
  obtain ⟨implements, implementsRead, accepted⟩ := bind_eq_ok.mp accepted
  obtain ⟨rootSelector, selectorRead, accepted⟩ := bind_eq_ok.mp accepted
  obtain ⟨rootType, typeRead, accepted⟩ := bind_eq_ok.mp accepted
  obtain ⟨elements, elementsRead, accepted⟩ := bind_eq_ok.mp accepted
  obtain ⟨shadowElements, shadowRead, accepted⟩ := bind_eq_ok.mp accepted
  obtain ⟨methods, methodsRead, -⟩ := bind_eq_ok.mp accepted
  refine ⟨fields, rfl, fun key v found present => ?_⟩
  by_cases listed : key ∈ Shape.document.keys
  · simp only [Shape.keys, List.mem_cons, List.not_mem_nil, or_false] at listed
    rcases listed with rfl | rfl | rfl | rfl | rfl | rfl | rfl | rfl | rfl | rfl
    · exact .inr (elements_shaped.2.2.2 _ _ strict elements elementsRead v found present)
    · by_cases truthy : v.truthy = true
      · exact .inr (methodsOf_shaped methodsRead found truthy)
      · exact .inl ⟨rfl, by simpa using truthy⟩
    · exact .inr (optionalFlag_shaped interfaceRead v found present)
    · rw [fieldValue?_of_present found present] at implementsRead
      dsimp only at implementsRead
      obtain ⟨token, tokenRead, -⟩ := bind_eq_ok.mp implementsRead
      exact .inr (expectText_shaped tokenRead)
    · exact .inr (optionalFlag_shaped rootRead v found present)
    · rw [fieldValue?_of_present found present] at selectorRead
      dsimp only at selectorRead
      obtain ⟨selector, specRead, -⟩ := bind_eq_ok.mp selectorRead
      exact .inr (selectorOf_shaped specRead)
    · exact .inr (typeTokenIn_shaped typeRead v found present)
    · exact .inr (optionalFlag_shaped exposeRead v found present)
    · exact .inr (elements_shaped.2.2.1 _ _ strict shadowElements shadowRead v found present)
    · exact .inr (description_shaped textRead v found present)
  · rw [Shape.form_of_not_mem listed]
    exact .inr (.unread v)

/-- A page object with a public button and an empty object for its methods. -/
def buttonDocument : Json :=
  .obj [("elements", .arr [.obj [("name", .str "button"), ("selector", .obj [("css", .str ".ok")]),
    ("public", .bool true)]]), ("methods", .obj [])]

theorem button_document_read_shaped :
    ∃ spec, read true buttonDocument = .ok spec ∧
      ∃ fields, buttonDocument = .obj fields ∧ ∀ key v, buttonDocument.get? key = some v →
        v.isNull = false → (key = "methods" ∧ v.truthy = false) ∨ v.Shaped (Shape.document.form key) := by
  obtain ⟨spec, accepted⟩ := exists_ok_of_toBool
    (show (read true buttonDocument).toBool = true by decide +kernel)
  exact ⟨spec, accepted, read_shaped_but_falsy_methods true buttonDocument spec accepted⟩

/-- The methods of a page object given as an empty object: the grammar reads the
document, with no methods, though the value is no array. -/
theorem falsy_methods_read_unshaped :
    (∃ spec, read true (.obj [("methods", .obj [])]) = .ok spec) ∧
      ¬ (Json.obj [("methods", .obj [])]).Shaped (.object .document) := by
  refine ⟨exists_ok_of_toBool (by decide +kernel), fun shaped => ?_⟩
  cases shaped with
  | object keyed =>
      have methods := keyed "methods" (.obj []) rfl rfl
      have form : Shape.document.form "methods" = .objects .method := by decide
      rw [form] at methods
      cases methods

end Grammar

end PageObjects
