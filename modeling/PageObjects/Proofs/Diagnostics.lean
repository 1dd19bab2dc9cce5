import PageObjects.Proofs.Stages

/-!
# Diagnostics

A compilation that stops reports a diagnostic of the document: a cause that
is a fault of the document (`Fault.isCompilationFault`), owned or not, and no
page object yet, which only the compiler's entry point names. The one cause
that is not a fault of the document is a number of more digits than the host
reads, met when a selector template is lexed.

`OnlyDiagnostics x` says that every error `x` may stop with is such a
diagnostic. It holds of `.ok`, of `fail` and `failWith` with a reportable cause,
and is closed under `bind`, `map`, `mapM`, `mapIdxM` and `foldlM`: the lemmas
below are tagged `simp`, so that a function whose body only calls functions
already known to report diagnostics is checked by unfolding it and simplifying.
This module covers the grammar, the type registry and namer, and the selector
templates; `PageObjects.Proofs.Failures` the compiler's stages.
-/

namespace PageObjects

/-- A cause a compilation may stop with: a fault of the document, or a number of
more digits than the limit. -/
def Fault.Reportable (f : Fault) : Prop :=
  f.isCompilationFault = true ∨ ∃ digits, f = .oversizedNumber digits ∧ Decimal.digitLimit < digits

/-- A cause is reportable unless it is a number too long to read of no more
digits than the limit. -/
@[simp]
theorem Fault.reportable_iff {f : Fault} :
    f.Reportable ↔ ∀ digits, f = .oversizedNumber digits → Decimal.digitLimit < digits := by
  cases f with
  | oversizedNumber d => simp [Fault.Reportable, Fault.isCompilationFault]
  | _ => simp [Fault.Reportable, Fault.isCompilationFault]

/-- An error before it leaves its page object: it names no page object, and
its cause is reportable. -/
structure CompileError.Pending (e : CompileError) : Prop where
  unplaced : e.pageObject = none
  reportable : e.fault.Reportable

/-- A computation whose every error is pending. -/
def OnlyDiagnostics {α : Type} (x : Compiling α) : Prop :=
  ∀ e, x = .error e → e.Pending

/-! ## Closure -/

section Closure

variable {α β : Type}

@[simp]
theorem onlyDiagnostics_ok (a : α) : OnlyDiagnostics (.ok a : Compiling α) :=
  fun _ failed => by cases failed

@[simp]
theorem onlyDiagnostics_pure (a : α) : OnlyDiagnostics (pure a : Compiling α) :=
  fun _ failed => by cases failed

@[simp]
theorem onlyDiagnostics_error {e : CompileError} :
    OnlyDiagnostics (.error e : Compiling α) ↔ e.Pending :=
  ⟨fun held => held e rfl, fun pending _ failed => by cases failed; exact pending⟩

@[simp]
theorem onlyDiagnostics_fail {owner : String} {f : Fault} :
    OnlyDiagnostics (fail owner f : Compiling α) ↔ f.Reportable := by
  rw [fail, onlyDiagnostics_error]
  exact ⟨fun pending => pending.reportable, fun reportable => ⟨rfl, reportable⟩⟩

@[simp]
theorem onlyDiagnostics_failWith {owner : Option String} {f : Fault} :
    OnlyDiagnostics (failWith owner f : Compiling α) ↔ f.Reportable := by
  rw [failWith, onlyDiagnostics_error]
  exact ⟨fun pending => pending.reportable, fun reportable => ⟨rfl, reportable⟩⟩

@[simp]
theorem onlyDiagnostics_bind {x : Compiling α} {f : α → Compiling β} :
    OnlyDiagnostics (x >>= f) ↔ OnlyDiagnostics x ∧ ∀ a, x = .ok a → OnlyDiagnostics (f a) := by
  cases x with
  | error e =>
      simp only [error_bind, onlyDiagnostics_error, reduceCtorEq, false_implies, implies_true,
        and_true]
  | ok a =>
      rw [ok_bind]
      exact ⟨fun next => ⟨onlyDiagnostics_ok a, fun _ same => by cases same; exact next⟩,
        fun held => held.2 a rfl⟩

@[simp]
theorem onlyDiagnostics_map {x : Compiling α} {f : α → β} :
    OnlyDiagnostics (f <$> x) ↔ OnlyDiagnostics x := by
  cases x <;> simp [Functor.map, Except.map]

@[simp]
theorem onlyDiagnostics_ite {c : Prop} [Decidable c] {x y : Compiling α} :
    OnlyDiagnostics (if c then x else y) ↔ (c → OnlyDiagnostics x) ∧ (¬c → OnlyDiagnostics y) := by
  by_cases holds : c <;> simp [holds]

@[simp]
theorem onlyDiagnostics_mapM {f : α → Compiling β} {l : List α}
    (each : ∀ a ∈ l, OnlyDiagnostics (f a)) : OnlyDiagnostics (l.mapM f) := by
  induction l with
  | nil => exact onlyDiagnostics_pure []
  | cons a rest restIH =>
      rw [List.mapM_cons]
      simp only [onlyDiagnostics_bind, onlyDiagnostics_pure, implies_true, and_true]
      exact ⟨each a List.mem_cons_self,
        fun _ _ => restIH (fun b member => each b (List.mem_cons_of_mem a member))⟩

@[simp]
theorem onlyDiagnostics_mapIdxM {f : Nat → α → Compiling β} {l : List α}
    (each : ∀ i, ∀ a ∈ l, OnlyDiagnostics (f i a)) : OnlyDiagnostics (l.mapIdxM f) := by
  -- the indices are the sizes of the array built so far
  suffices going : ∀ (rest : List α), (∀ a ∈ rest, a ∈ l) →
      ∀ acc, OnlyDiagnostics (List.mapIdxM.go f rest acc) from going l (fun _ member => member) #[]
  intro rest
  induction rest with
  | nil => exact fun _ _ => onlyDiagnostics_pure _
  | cons a rest restIH =>
      intro inList acc
      rw [List.mapIdxM.go]
      simp only [onlyDiagnostics_bind]
      exact ⟨each _ a (inList a List.mem_cons_self),
        fun _ _ => restIH (fun b member => inList b (List.mem_cons_of_mem a member)) _⟩

@[simp]
theorem onlyDiagnostics_foldlM {f : β → α → Compiling β} {l : List α} {init : β}
    (each : ∀ b, ∀ a ∈ l, OnlyDiagnostics (f b a)) : OnlyDiagnostics (l.foldlM f init) := by
  induction l generalizing init with
  | nil => exact onlyDiagnostics_pure init
  | cons a rest restIH =>
      rw [List.foldlM_cons]
      simp only [onlyDiagnostics_bind]
      exact ⟨each init a List.mem_cons_self,
        fun _ _ => restIH (fun b c member => each b c (List.mem_cons_of_mem a member))⟩

end Closure

@[simp]
theorem CompileError.pending_plain {f : Fault} : (CompileError.plain f).Pending ↔ f.Reportable :=
  ⟨fun pending => pending.reportable, fun reportable => ⟨rfl, reportable⟩⟩

/-! ## The grammar -/

namespace Grammar

variable {strict : Bool} {node : Json} {path key : String}

@[simp]
theorem reject_onlyDiagnostics {α : Type} {text : String} :
    OnlyDiagnostics (reject path text : Compiling α) := by
  simp [reject]

@[simp]
theorem rejectAt_onlyDiagnostics {α : Type} {text : String} :
    OnlyDiagnostics (rejectAt path text : Compiling α) := by
  simp [rejectAt]

@[simp]
theorem notAnArray_onlyDiagnostics {α : Type} : OnlyDiagnostics (notAnArray node path : Compiling α) := by
  simp [notAnArray]

@[simp]
theorem expectObject_onlyDiagnostics : OnlyDiagnostics (expectObject node path) := by
  unfold expectObject
  split <;> simp

@[simp]
theorem expectText_onlyDiagnostics : OnlyDiagnostics (expectText node path) := by
  unfold expectText
  split <;> simp

@[simp]
theorem expectFlag_onlyDiagnostics : OnlyDiagnostics (expectFlag node path) := by
  unfold expectFlag
  split <;> simp

@[simp]
theorem optionalFlag_onlyDiagnostics : OnlyDiagnostics (optionalFlag node key path) := by
  unfold optionalFlag
  split <;> simp

@[simp]
theorem checkKeys_onlyDiagnostics {allowed : List String} :
    OnlyDiagnostics (checkKeys strict node allowed path) := by
  simp [checkKeys]

@[simp]
theorem typeToken_onlyDiagnostics : OnlyDiagnostics (typeToken node path) := by
  unfold typeToken
  split <;> simp

@[simp]
theorem description_onlyDiagnostics : OnlyDiagnostics (description node path) := by
  unfold description
  split <;> simp

@[simp]
theorem presentFlag?_onlyDiagnostics : OnlyDiagnostics (presentFlag? node key path) := by
  unfold presentFlag?
  split <;> simp

/-- The reading of arguments, literals, selectors, matchers and statements,
one mutual recursion on the size of the value read. -/
theorem arguments_onlyDiagnostics :
    (∀ node path, OnlyDiagnostics (argumentsOf strict node path)) ∧
    (∀ node path, OnlyDiagnostics (argumentOf strict node path)) ∧
    (∀ node path, OnlyDiagnostics (literalOf strict node path)) ∧
    (∀ node path, OnlyDiagnostics (selectorOf strict node path)) ∧
    (∀ node path, OnlyDiagnostics (argumentsIn strict node path)) ∧
    (∀ node path, OnlyDiagnostics (statementsOf strict node path)) ∧
    (∀ node path, OnlyDiagnostics (statementOf strict node path)) ∧
    (∀ node path, OnlyDiagnostics (matcherIn strict node path)) := by
  refine argumentsOf.mutual_induct
    (fun node path => OnlyDiagnostics (argumentsOf strict node path))
    (fun node path => OnlyDiagnostics (argumentOf strict node path))
    (fun node path => OnlyDiagnostics (literalOf strict node path))
    (fun node path => OnlyDiagnostics (selectorOf strict node path))
    (fun node path => OnlyDiagnostics (argumentsIn strict node path))
    (fun node path => OnlyDiagnostics (statementsOf strict node path))
    (fun node path => OnlyDiagnostics (statementOf strict node path))
    (fun node path => OnlyDiagnostics (matcherIn strict node path))
    ?argumentsListed ?argumentsAbsent ?argument ?literalBool ?literalInt ?literalFloat ?literalText
    ?literalReference ?literalSelector ?literalOther ?selector ?argumentsInPresent
    ?argumentsInAbsent ?statementsListed ?statementsAbsent ?statement ?matcherAbsent ?matcherPresent
  case argumentsListed =>
    intro node path items listed argumentIH
    rw [argumentsOf, listed]
    exact onlyDiagnostics_mapM (fun item _ => argumentIH item.1 item.2)
  case argumentsAbsent =>
    intro node path missing
    rw [argumentsOf, missing]
    simp
  case argument =>
    -- a predicate, a value or a named parameter: each branch reports only diagnostics
    intro node path statementsIH literalIH
    rw [argumentOf]
    repeat' split
    all_goals simp_all
  case literalBool | literalInt | literalFloat | literalText =>
    intro path value
    simp [literalOf]
  case literalReference =>
    intro path fields referenced argumentsIH
    rw [literalOf]
    simp_all
  case literalSelector =>
    intro path fields unreferenced selectorIH
    rw [literalOf]
    simp_all
  case literalOther =>
    intro path other notBool notInt notFloat notText notObject
    rw [literalOf.eq_def]
    split <;> simp_all
  case selector =>
    intro node path argumentsIH
    rw [selectorOf]
    simp only [onlyDiagnostics_bind, expectObject_onlyDiagnostics, checkKeys_onlyDiagnostics,
      true_and]
    intro _ _ _ _
    split <;> simp_all
  case argumentsInPresent =>
    intro node path v smaller found argumentsIH
    rw [argumentsIn, found]
    exact argumentsIH
  case argumentsInAbsent =>
    intro node path missing
    rw [argumentsIn, missing]
    simp
  case statementsListed =>
    intro node path items listed statementIH
    rw [statementsOf, listed]
    exact onlyDiagnostics_mapM (fun item _ => statementIH item.1 item.2)
  case statementsAbsent =>
    intro node path missing
    rw [statementsOf, missing]
    simp
  case statement =>
    intro node path argumentsIH matcherIH statementsIH
    rw [statementOf]
    repeat' split
    all_goals simp_all
  case matcherAbsent =>
    intro node path missing
    rw [matcherIn, missing]
    simp
  case matcherPresent =>
    intro node path m smaller found argumentsIH
    rw [matcherIn, found]
    simp_all

@[simp]
theorem argumentsOf_onlyDiagnostics : OnlyDiagnostics (argumentsOf strict node path) :=
  arguments_onlyDiagnostics.1 node path

@[simp]
theorem selectorOf_onlyDiagnostics : OnlyDiagnostics (selectorOf strict node path) :=
  arguments_onlyDiagnostics.2.2.2.1 node path

@[simp]
theorem argumentsIn_onlyDiagnostics : OnlyDiagnostics (argumentsIn strict node path) :=
  arguments_onlyDiagnostics.2.2.2.2.1 node path

@[simp]
theorem statementsOf_onlyDiagnostics : OnlyDiagnostics (statementsOf strict node path) :=
  arguments_onlyDiagnostics.2.2.2.2.2.1 node path

@[simp]
theorem matcherIn_onlyDiagnostics : OnlyDiagnostics (matcherIn strict node path) :=
  arguments_onlyDiagnostics.2.2.2.2.2.2.2 node path

@[simp]
theorem filterOf_onlyDiagnostics : OnlyDiagnostics (filterOf strict node path) := by
  simp [filterOf]

@[simp]
theorem typeTokenIn_onlyDiagnostics : OnlyDiagnostics (typeTokenIn node path) := by
  unfold typeTokenIn
  split <;> simp

/-- The reading of elements, nested and shadow ones included, one mutual
recursion on the size of the value read. -/
theorem elements_onlyDiagnostics :
    (∀ node path, OnlyDiagnostics (elementsOf strict node path)) ∧
    (∀ node path, OnlyDiagnostics (elementOf strict node path)) ∧
    (∀ node path, OnlyDiagnostics (shadowIn strict node path)) ∧
    (∀ node path, OnlyDiagnostics (elementsIn strict node path)) := by
  refine elementsOf.mutual_induct
    (fun node path => OnlyDiagnostics (elementsOf strict node path))
    (fun node path => OnlyDiagnostics (elementOf strict node path))
    (fun node path => OnlyDiagnostics (shadowIn strict node path))
    (fun node path => OnlyDiagnostics (elementsIn strict node path))
    ?elementsListed ?elementsAbsent ?element ?shadowPresent ?shadowAbsent ?nestedPresent
    ?nestedAbsent
  case elementsListed =>
    intro node path items listed elementIH
    rw [elementsOf, listed]
    exact onlyDiagnostics_mapIdxM (fun i item _ => elementIH i item.1 item.2)
  case elementsAbsent =>
    intro node path missing
    rw [elementsOf, missing]
    simp
  case element =>
    intro node path nestedIH shadowIH
    rw [elementOf]
    simp only [onlyDiagnostics_bind, expectObject_onlyDiagnostics, checkKeys_onlyDiagnostics,
      expectText_onlyDiagnostics, typeTokenIn_onlyDiagnostics, true_and]
    intros
    repeat' split
    all_goals simp_all
  case shadowPresent =>
    intro node path v smaller found elementsIH
    rw [shadowIn, found]
    simp_all
  case shadowAbsent =>
    intro node path missing
    rw [shadowIn, missing]
    simp
  case nestedPresent =>
    intro node path v smaller found elementsIH
    rw [elementsIn, found]
    exact elementsIH
  case nestedAbsent =>
    intro node path missing
    rw [elementsIn, missing]
    simp

@[simp]
theorem elementsIn_onlyDiagnostics : OnlyDiagnostics (elementsIn strict node path) :=
  elements_onlyDiagnostics.2.2.2 node path

@[simp]
theorem shadowIn_onlyDiagnostics : OnlyDiagnostics (shadowIn strict node path) :=
  elements_onlyDiagnostics.2.2.1 node path

@[simp]
theorem chainOf_onlyDiagnostics : OnlyDiagnostics (chainOf strict node path) := by
  unfold chainOf
  split
  · refine onlyDiagnostics_mapIdxM (fun i link _ => ?_)
    simp only [onlyDiagnostics_bind, expectObject_onlyDiagnostics, checkKeys_onlyDiagnostics,
      expectText_onlyDiagnostics, true_and]
    intros
    split <;> simp_all
  · simp

@[simp]
theorem utilityOf_onlyDiagnostics : OnlyDiagnostics (utilityOf strict node path) := by
  simp [utilityOf]

@[simp]
theorem methodOf_onlyDiagnostics : OnlyDiagnostics (methodOf strict node path) := by
  unfold methodOf
  simp only [onlyDiagnostics_bind, expectObject_onlyDiagnostics, checkKeys_onlyDiagnostics,
    expectText_onlyDiagnostics, true_and]
  intros
  repeat' split
  all_goals simp_all

@[simp]
theorem methodsOf_onlyDiagnostics : OnlyDiagnostics (methodsOf strict node) := by
  unfold methodsOf
  split
  · rename_i value _
    by_cases truthy : value.truthy = true
    · simp only [truthy, if_true]
      cases value <;> simp
    · simp [truthy]
  · simp

/-- Reading a document reports only diagnostics. -/
@[simp]
theorem read_onlyDiagnostics {tree : Json} : OnlyDiagnostics (read strict tree) := by
  unfold read
  simp only [onlyDiagnostics_bind, expectObject_onlyDiagnostics, checkKeys_onlyDiagnostics,
    optionalFlag_onlyDiagnostics, description_onlyDiagnostics, true_and]
  intros
  repeat' split
  all_goals simp_all

end Grammar

/-! ## Types -/

namespace Registry

variable {owner : Option String} {token : String}

@[simp]
theorem resolveAmong_onlyDiagnostics {allowed : List String} :
    OnlyDiagnostics (resolveAmong allowed owner token) := by
  unfold resolveAmong
  split <;> simp

@[simp]
theorem resolve_onlyDiagnostics : OnlyDiagnostics (resolve owner token) := by
  simp [resolve]

@[simp]
theorem resolveArgument_onlyDiagnostics : OnlyDiagnostics (resolveArgument owner token) := by
  simp [resolveArgument]

@[simp]
theorem resolvePrimitive_onlyDiagnostics : OnlyDiagnostics (resolvePrimitive owner token) := by
  simp [resolvePrimitive]

@[simp]
theorem capabilityOf_onlyDiagnostics {value : Json} : OnlyDiagnostics (capabilityOf owner value) := by
  unfold capabilityOf
  repeat' split
  all_goals simp

@[simp]
theorem basicElementType_onlyDiagnostics {tokens : List Json} :
    OnlyDiagnostics (basicElementType owner tokens) := by
  simp [basicElementType]

end Registry

namespace Naming

@[simp]
theorem typeName_onlyDiagnostics {identifier : String} : OnlyDiagnostics (typeName identifier) := by
  unfold typeName
  dsimp only
  split
  · split <;> simp
  · simp

@[simp]
theorem typeNameOfValue_onlyDiagnostics {identifier : Json} :
    OnlyDiagnostics (typeNameOfValue identifier) := by
  unfold typeNameOfValue
  split <;> simp

end Naming

/-! ## Selector templates -/

namespace UiSelector

theorem TokenKind.oversized?_eq_some {kind : TokenKind} {digits : Nat}
    (oversized : kind.oversized? = some digits) : Decimal.digitLimit < digits := by
  cases kind with
  | number value count =>
      rw [TokenKind.oversized?] at oversized
      split at oversized
      · cases oversized
        assumption
      · cases oversized
  | _ => cases oversized

/-- Lexing stops at a number only when it has more digits than the limit. -/
theorem lexFrom_stop_oversized {pos : Nat} {cs : List Char} {digits : Nat}
    (stopped : (lexFrom pos cs).stop = some (.oversized digits)) : Decimal.digitLimit < digits := by
  fun_induction lexFrom pos cs with
  | case1 => cases stopped
  | case2 =>
      rename_i restIH
      exact restIH stopped
  | case3 =>
      rename_i oversized
      obtain rfl : _ = digits := by simpa using stopped
      exact TokenKind.oversized?_eq_some oversized
  | case4 =>
      rename_i afterIH
      exact afterIH stopped
  | case5 => simp at stopped
  | case6 => simp at stopped

/-- A chain stops at a number too long to read only where its lexing stopped. -/
theorem readCalls_oversized {stop : Option Stop} {stage : Stage} {done : List Call}
    {tokens : List Token} {digits : Nat}
    (failed : readCalls stop stage done tokens = .error (.oversizedNumber digits)) :
    stop = some (.oversized digits) := by
  fun_induction readCalls stop stage done tokens with
  | case2 =>
      rename_i stopped
      cases failed
      exact stopped
  | case5 | case6 =>
      rename_i restIH
      exact restIH failed
  | _ => cases failed

/-- Parsing a chain refuses a number only when it has more digits than the
limit. -/
theorem parse_oversized {text : String} {digits : Nat}
    (failed : parse text = .error (.oversizedNumber digits)) : Decimal.digitLimit < digits := by
  unfold parse at failed
  dsimp only at failed
  cases read : readCalls (lex (withPrefix text)).stop .start [] (lex (withPrefix text)).tokens with
  | error e =>
      rw [read, error_bind] at failed
      cases failed
      exact lexFrom_stop_oversized (readCalls_oversized read)
  | ok calls =>
      rw [read, ok_bind] at failed
      split at failed <;> cases failed

end UiSelector

@[simp]
theorem LocatorKind.resolve_onlyDiagnostics {owner : Option String} {token : String} :
    OnlyDiagnostics (LocatorKind.resolve owner token) := by
  unfold LocatorKind.resolve
  split <;> simp

/-- A template refused for a number too long to read names its number of
digits, which exceeds the limit. -/
@[simp]
theorem normalizeTemplate_onlyDiagnostics {owner : Option String} {kind : LocatorKind}
    {template : String} : OnlyDiagnostics (normalizeTemplate owner kind template) := by
  unfold normalizeTemplate
  split
  · simp
  · split
    · split
      · rename_i digits parsed
        simpa using UiSelector.parse_oversized parsed
      · simp
      · simp
    · simp

end PageObjects
