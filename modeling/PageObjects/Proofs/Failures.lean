import PageObjects.Proofs.Diagnostics
import PageObjects.Proofs.ScopeValidation

/-!
# How a compilation fails

Every stage of a compilation after the grammar reports only diagnostics:
argument resolution, the scope's declaration check, element building, method
compilation and the assembly of the page object's methods. The recursions of
the compiler (arguments and their nested literals and selectors, nested
elements, statements with their predicates and filters) are followed by their
own induction principles.

Hence a compilation either succeeds or fails with an error that names the
page object and whose cause is a fault of the document, except for a number in
a selector template of more digits than the host reads. The last case is real:
a `uiautomator` template holding a number of 4301 digits stops the compilation
with a cause that is no fault of the document.

Declaring an element compares it only with earlier elements of its scope and
with a root that has a selector, so the pair check never meets a root without
a selector.
-/

namespace PageObjects

/-! ## Argument resolution -/

namespace Resolver

variable {r : Resolver}

@[simp]
theorem refuse_onlyDiagnostics {α : Type} {f : Fault} :
    OnlyDiagnostics (r.refuse f : Compiling α) ↔ f.Reportable := by
  simp [refuse]

@[simp]
theorem element_onlyDiagnostics {name : String} : OnlyDiagnostics (r.element name) := by
  unfold element
  split <;> simp

@[simp]
theorem checkDistinct_onlyDiagnostics {owner : Option String} {parameters : List Parameter} :
    OnlyDiagnostics (checkDistinct owner parameters) := by
  unfold checkDistinct
  split <;> simp

@[simp]
theorem requireLiterals_onlyDiagnostics {args : List ArgumentSpec} {what : String} :
    OnlyDiagnostics (r.requireLiterals args what) := by
  simp [requireLiterals]

@[simp]
theorem checkCount_onlyDiagnostics {args : List ArgumentSpec} {expected : Option (List Ty)} :
    OnlyDiagnostics (r.checkCount args expected) := by
  unfold checkCount
  split <;> simp

/-- Resolving arguments, literals and selectors, one mutual recursion on the
arguments. -/
theorem resolution_onlyDiagnostics :
    (∀ args expected done, OnlyDiagnostics (r.resolveEach args expected done)) ∧
    (∀ arg, OnlyDiagnostics (r.resolveOne arg)) ∧
    (∀ literal, OnlyDiagnostics (r.literalOf literal)) ∧
    (∀ spec literalOnly, OnlyDiagnostics (r.selectorOf spec literalOnly)) := by
  refine resolveEach.mutual_induct
    (fun args expected done => OnlyDiagnostics (r.resolveEach args expected done))
    (fun arg => OnlyDiagnostics (r.resolveOne arg))
    (fun literal => OnlyDiagnostics (r.literalOf literal))
    (fun spec literalOnly => OnlyDiagnostics (r.selectorOf spec literalOnly))
    ?predicate ?named ?value ?selectorLiteral ?elementLiteral ?scalarLiteral ?unknownLiteral
    ?selector ?nil ?cons
  case predicate =>
    intro statements
    simp [resolveOne]
  case named =>
    intro name type
    simp [resolveOne]
  case value =>
    intro literal declared literalIH
    rw [resolveOne]
    simp only [onlyDiagnostics_bind, literalIH, true_and]
    intros
    split <;> simp
  case selectorLiteral =>
    intro spec selectorIH
    rw [literalOf]
    simp_all
  case elementLiteral =>
    intro name args eachIH
    rw [literalOf]
    simp_all
  case scalarLiteral =>
    intro other notSelector notElement code t scalar
    rw [literalOf.eq_def]
    split <;> simp_all
  case unknownLiteral =>
    intro other notSelector notElement scalar
    rw [literalOf.eq_def]
    split <;> simp_all
  case selector =>
    intro kindToken template args returnsAll literalOnly eachIH
    rw [selectorOf]
    simp_all
  case nil =>
    intro expected done
    simp [resolveEach]
  case cons =>
    intro arg rest expected done argIH restIH
    rw [resolveEach.eq_def]
    simp only [onlyDiagnostics_bind, argIH, true_and]
    -- every branch goes on with the rest, or refuses a mismatch
    intro parameter _
    split <;> simp [restIH]

@[simp]
theorem resolveEach_onlyDiagnostics {args : List ArgumentSpec} {expected : Option (List Ty)}
    {done : List Parameter} : OnlyDiagnostics (r.resolveEach args expected done) :=
  resolution_onlyDiagnostics.1 args expected done

@[simp]
theorem selectorOf_onlyDiagnostics {spec : SelectorSpec} {literalOnly : Bool} :
    OnlyDiagnostics (r.selectorOf spec literalOnly) :=
  resolution_onlyDiagnostics.2.2.2 spec literalOnly

@[simp]
theorem resolve_onlyDiagnostics {args : List ArgumentSpec} {expected : Option (List Ty)} :
    OnlyDiagnostics (r.resolve args expected) := by
  simp [resolve]

@[simp]
theorem selector_onlyDiagnostics {spec : SelectorSpec} : OnlyDiagnostics (r.selector spec) := by
  simp [selector]

/-- Trying the shapes of an action reports the mismatch it keeps, which is a
diagnostic of an earlier attempt. -/
theorem resolveShapes_onlyDiagnostics {args : List ArgumentSpec} {shapes : List (List Ty)}
    {first : Option CompileError} (kept : ∀ e ∈ first, e.Pending) :
    OnlyDiagnostics (r.resolveShapes args shapes first) := by
  induction shapes generalizing first with
  | nil =>
      cases first with
      | some e =>
          rw [resolveShapes]
          exact onlyDiagnostics_error.mpr (kept e rfl)
      | none => simp [resolveShapes]
  | cons shape rest restIH =>
      rw [resolveShapes]
      cases resolved : r.resolve args (some shape) with
      | ok parameters => simp
      | error e =>
          have pending : e.Pending := resolve_onlyDiagnostics e resolved
          simp only
          split
          · refine restIH (fun e' held => ?_)
            cases first with
            | some e₀ => exact kept e' held
            | none => cases held; exact pending
          · exact onlyDiagnostics_error.mpr pending

@[simp]
theorem resolveAction_onlyDiagnostics {a : Action} {args : List ArgumentSpec} :
    OnlyDiagnostics (r.resolveAction a args) := by
  unfold resolveAction
  simp only [onlyDiagnostics_bind]
  refine ⟨?_, fun _ _ => resolveShapes_onlyDiagnostics (fun _ held => by cases held)⟩
  unfold Action.shapesFor
  split <;> simp

@[simp]
theorem matcher_onlyDiagnostics {spec : MatcherSpec} {operand : Ty} :
    OnlyDiagnostics (r.matcher spec operand) := by
  unfold matcher MatcherKind.lookup
  split <;> simp

end Resolver

@[simp]
theorem MatcherKind.lookup_onlyDiagnostics {owner : Option String} {name : String} :
    OnlyDiagnostics (MatcherKind.lookup owner name) := by
  unfold MatcherKind.lookup
  split <;> simp

@[simp]
theorem lookupAction_onlyDiagnostics {owner : Option String} {elementType : Ty}
    {name elementName : String} {isList : Bool} :
    OnlyDiagnostics (lookupAction owner elementType name elementName isList) := by
  unfold lookupAction
  split <;> simp

/-! ## Declaring elements -/

namespace Scope

variable {s : Scope} {owner : String}

@[simp]
theorem declare_onlyDiagnostics {e : Element} : OnlyDiagnostics (s.declare e) := by
  unfold declare
  split
  · simp
  · split
    · rename_i fault found
      obtain ⟨reason, element, other, selector, rfl⟩ := firstConflict?_eq_some found
      simp
    · simp

@[simp]
theorem resolveType_onlyDiagnostics {token : String} : OnlyDiagnostics (resolveType owner token) := by
  simp [resolveType]

@[simp]
theorem elementType_onlyDiagnostics {token : Option TypeToken} :
    OnlyDiagnostics (elementType owner token) := by
  unfold elementType
  repeat' split
  all_goals simp

@[simp]
theorem filterOf_onlyDiagnostics {e : Element} {spec : FilterSpec} :
    OnlyDiagnostics (s.filterOf e owner spec) := by
  unfold filterOf
  cases spec.matcher <;> simp

@[simp]
theorem ownSelector_onlyDiagnostics {spec : Option SelectorSpec} :
    OnlyDiagnostics (s.ownSelector owner spec) := by
  unfold ownSelector
  split <;> simp

@[simp]
theorem typeOfKind_onlyDiagnostics {kind : ElementKind} {token : Option TypeToken} :
    OnlyDiagnostics (typeOfKind owner kind token) := by
  simp [typeOfKind]

@[simp]
theorem build_onlyDiagnostics {parent : Element} {spec : ElementSpec} :
    OnlyDiagnostics (s.build parent spec) := by
  unfold build
  simp only [onlyDiagnostics_bind, ownSelector_onlyDiagnostics, true_and]
  intros
  split
  · simp
  · simp only [onlyDiagnostics_bind, Resolver.checkDistinct_onlyDiagnostics,
      typeOfKind_onlyDiagnostics, true_and]
    intros
    split <;> simp

/-- Declaring elements, nested and shadow ones included, one mutual recursion
on the declared elements. -/
theorem declarations_onlyDiagnostics :
    (∀ s parent specs, OnlyDiagnostics (declareAll s parent specs)) ∧
    (∀ s parent spec, OnlyDiagnostics (declareOne s parent spec)) := by
  refine declareAll.mutual_induct
    (fun s parent specs => OnlyDiagnostics (declareAll s parent specs))
    (fun s parent spec => OnlyDiagnostics (declareOne s parent spec)) ?element ?nil ?cons
  case element =>
    intro s parent name type selector isPublic isNullable elements shadowElements filter
      description nestedIH shadowIH
    rw [declareOne]
    simp only [onlyDiagnostics_bind, build_onlyDiagnostics, declare_onlyDiagnostics, true_and]
    intros
    simp [nestedIH, shadowIH]
  case nil =>
    intro s parent
    simp [declareAll]
  case cons =>
    intro s parent spec rest specIH restIH
    rw [declareAll]
    simp [specIH, restIH]

@[simp]
theorem declareAll_onlyDiagnostics {parent : Element} {specs : List ElementSpec} :
    OnlyDiagnostics (s.declareAll parent specs) :=
  declarations_onlyDiagnostics.1 s parent specs

end Scope

@[simp]
theorem rootSelectorOf_onlyDiagnostics {s : Scope} {owner : String} {spec : Option SelectorSpec} :
    OnlyDiagnostics (rootSelectorOf s owner spec) := by
  unfold rootSelectorOf
  split <;> simp

@[simp]
theorem rootElement_onlyDiagnostics {s : Scope} {spec : PageObjectSpec} :
    OnlyDiagnostics (rootElement s spec) := by
  simp [rootElement]

/-- Declaring the elements of a page object reports only diagnostics. -/
@[simp]
theorem declareElements_onlyDiagnostics {settings : Settings} {spec : PageObjectSpec} :
    OnlyDiagnostics (declareElements settings spec) := by
  simp [declareElements]

/-! ## Compiling methods -/

namespace Scope

variable {s : Scope} {owner : String}

@[simp]
theorem componentResult_onlyDiagnostics {returnType : Option String} {returnsAll : Bool} :
    OnlyDiagnostics (componentResult owner returnType returnsAll) := by
  unfold componentResult
  split <;> simp

@[simp]
theorem checkLevel_onlyDiagnostics {depth : Nat} {specs : List StatementSpec} :
    OnlyDiagnostics (s.checkLevel owner depth specs) := by
  simp [checkLevel]

@[simp]
theorem statementCall_onlyDiagnostics {e : Element} {apply : String} {args : List ArgumentSpec}
    {returnType : Option String} {returnsAll : Bool} {predicate : List Statement} :
    OnlyDiagnostics (s.statementCall owner e apply args returnType returnsAll predicate) := by
  unfold statementCall
  split <;> simp

@[simp]
theorem statementMatcher_onlyDiagnostics {spec : Option MatcherSpec} {result : Ty} :
    OnlyDiagnostics (s.statementMatcher owner spec result) := by
  unfold statementMatcher
  split <;> simp

@[simp]
theorem filterResult_onlyDiagnostics {compiled : List Statement} :
    OnlyDiagnostics (filterResult owner compiled) := by
  unfold filterResult
  split <;> simp

/-- Compiling statements, their predicates and filters, one mutual recursion on
the statements. -/
theorem statements_onlyDiagnostics :
    (∀ depth specs, OnlyDiagnostics (s.compileSequence owner depth specs)) ∧
    (∀ depth isLast spec, OnlyDiagnostics (s.compileStatement owner depth isLast spec)) ∧
    (∀ depth args found, OnlyDiagnostics (s.compilePredicates owner depth args found)) := by
  refine compileSequence.mutual_induct
    (fun depth specs => OnlyDiagnostics (s.compileSequence owner depth specs))
    (fun depth isLast spec => OnlyDiagnostics (s.compileStatement owner depth isLast spec))
    (fun depth args found => OnlyDiagnostics (s.compilePredicates owner depth args found))
    ?statement ?nil ?cons ?argumentsNil ?predicateFound ?predicate ?otherArgument
  case statement =>
    -- the predicates are compiled first, then the call, the matcher and the filter
    intro depth isLast elementName apply args matcherSpec filterSpec returnType returnsAll
      predicatesIH filterIH
    rw [compileStatement]
    simp only [onlyDiagnostics_bind, Resolver.element_onlyDiagnostics, predicatesIH, true_and]
    intros
    cases filterSpec <;> simp_all
  case nil =>
    intro depth
    simp [compileSequence]
  case cons =>
    intro depth spec rest specIH restIH
    rw [compileSequence]
    simp [specIH, restIH]
  case argumentsNil =>
    intro depth found
    simp [compilePredicates]
  case predicateFound =>
    intro depth statements rest found taken
    rw [compilePredicates]
    simp [taken]
  case predicate =>
    intro depth statements rest found untaken sequenceIH restIH
    rw [compilePredicates]
    simp_all
  case otherArgument =>
    intro depth head rest found notPredicate restIH
    cases head with
    | predicate statements => exact absurd rfl (notPredicate statements)
    | _ => simpa [compilePredicates] using restIH

@[simp]
theorem compileSequence_onlyDiagnostics {depth : Nat} {specs : List StatementSpec} :
    OnlyDiagnostics (s.compileSequence owner depth specs) :=
  statements_onlyDiagnostics.1 depth specs

@[simp]
theorem declaredReturn_onlyDiagnostics {spec : MethodSpec} :
    OnlyDiagnostics (declaredReturn owner spec) := by
  unfold declaredReturn
  split
  · simp
  · rename_i token _
    cases token <;> simp

@[simp]
theorem compileAbstract_onlyDiagnostics {spec : MethodSpec} :
    OnlyDiagnostics (s.compileAbstract owner spec) := by
  simp [compileAbstract]

@[simp]
theorem compileCompose_onlyDiagnostics {spec : MethodSpec} {specs : List StatementSpec} :
    OnlyDiagnostics (s.compileCompose owner spec specs) := by
  unfold compileCompose
  simp only [onlyDiagnostics_ite]
  refine ⟨fun _ => by simp, fun _ => ⟨fun _ => by simp, fun _ => ?_⟩⟩
  simp only [onlyDiagnostics_bind, declaredReturn_onlyDiagnostics, checkLevel_onlyDiagnostics,
    compileSequence_onlyDiagnostics, true_and]
  intros
  split <;> simp

@[simp]
theorem chainStart_onlyDiagnostics {link : ChainLinkSpec} :
    OnlyDiagnostics (s.chainStart owner link) := by
  unfold chainStart
  simp only [onlyDiagnostics_bind, Resolver.element_onlyDiagnostics, true_and]
  intros
  split
  · simp
  · split <;> simp [pageObjectType]

@[simp]
theorem chainLink_onlyDiagnostics {link : ChainLinkSpec} : OnlyDiagnostics (chainLink owner link) := by
  unfold chainLink
  split <;> simp [pageObjectType]

@[simp]
theorem compileChain_onlyDiagnostics {spec : MethodSpec} {links : List ChainLinkSpec} :
    OnlyDiagnostics (s.compileChain owner spec links) := by
  unfold compileChain
  simp only [onlyDiagnostics_ite]
  refine ⟨fun _ => by simp, fun _ => ?_⟩
  split <;> simp

@[simp]
theorem compileUtility_onlyDiagnostics {spec : MethodSpec} {utility : UtilitySpec} :
    OnlyDiagnostics (s.compileUtility owner spec utility) := by
  simp [compileUtility, pageObjectType]

/-- Compiling a method reports only diagnostics. -/
@[simp]
theorem compileMethod_onlyDiagnostics {isInterface : Bool} {spec : MethodSpec} :
    OnlyDiagnostics (s.compileMethod isInterface spec) := by
  unfold compileMethod
  simp only [onlyDiagnostics_ite]
  refine ⟨fun _ => by simp, fun _ => ⟨fun _ => ?_, fun _ => ?_⟩⟩
  · split <;> simp
  · split <;> simp

end Scope

/-! ## Compiling a page object -/

@[simp]
theorem addMethod_onlyDiagnostics {elements : List Element} {methods : List CompiledMethod}
    {m : CompiledMethod} : OnlyDiagnostics (addMethod elements methods m) := by
  simp [addMethod]

@[simp]
theorem compileMethods_onlyDiagnostics {s : Scope} {isInterface : Bool} {specs : List MethodSpec} :
    OnlyDiagnostics (compileMethods s isInterface specs) := by
  simp [compileMethods]

@[simp]
theorem implementedType_onlyDiagnostics {token : Option String} :
    OnlyDiagnostics (implementedType token) := by
  unfold implementedType
  repeat' split
  all_goals simp

/-- Every stage after the grammar reports only diagnostics. -/
@[simp]
theorem compileSpec_onlyDiagnostics {settings : Settings} {identifier : Json}
    {spec : PageObjectSpec} : OnlyDiagnostics (compileSpec settings identifier spec) := by
  simp [compileSpec]

/-! ## Failing compilations -/

/-- An error leaving a page object under a text identifier names that
identifier, when it named no page object before. -/
theorem CompileError.leaving_str {e : CompileError} {identifier : String}
    (unplaced : e.pageObject = none) : (e.leaving (.str identifier)).pageObject = some identifier := by
  by_cases empty : identifier.isEmpty = true
  · have blank : identifier = "" := String.isEmpty_iff.mp empty
    subst blank
    simp [CompileError.leaving, CompileError.leave, unplaced, Json.truthy]
  · simp [CompileError.leaving, CompileError.leave, unplaced, Json.truthy, Json.plain, empty]

/-- On a pair that declaring an element compares, the pair check is the
conflict check: the element is not the root, and a root it is compared with
has a selector. -/
theorem Element.validatePair_of_comparedWith {e other : Element} (notRoot : e.isRoot = false)
    (compared : Scope.comparedWith e other = true) :
    e.validatePair other = (e.conflict? other).elim (.ok ()) (fun fault => .error (.conflict fault)) := by
  have selected : other.isRoot = true → other.selector.isSome = true := by
    intro rooted
    simp only [Scope.comparedWith, rooted, if_true, Bool.and_eq_true] at compared
    exact compared.2
  have guard : ¬((e.isRoot && e.selector.isNone) || (other.isRoot && other.selector.isNone)) = true := by
    cases rooted : other.isRoot
    · simp [notRoot]
    · simp [notRoot, Option.isSome_iff_ne_none.mp (selected rooted)]
  unfold Element.validatePair
  rw [if_neg guard]
  cases e.conflict? other <;> rfl

/--
A compilation under a text identifier either succeeds, or fails with an error
that names the identifier and whose cause is a fault of the document, or is a
number of more digits than the limit. Declaring an element never asks the pair
check about a root without a selector.
-/
theorem compile_fails_only_with_diagnostics (settings : Settings) (identifier : String) (tree : Json) :
    (∀ e, compile settings (.str identifier) tree = .error e →
      e.pageObject = some identifier ∧
        (e.fault.isCompilationFault = true ∨
          ∃ digits, e.fault = .oversizedNumber digits ∧ Decimal.digitLimit < digits)) ∧
    ∀ e other : Element, e.isRoot = false → Scope.comparedWith e other = true →
      e.validatePair other ≠ .error .unselectedRoot := by
  refine ⟨fun e failed => ?_, fun e other notRoot compared => ?_⟩
  · have stages : OnlyDiagnostics (Grammar.read settings.strictGrammar tree >>=
        compileSpec settings (.str identifier)) := by simp
    unfold compile at failed
    split at failed
    · cases failed
    · rename_i inner stopped
      cases failed
      have pending := stages inner stopped
      exact ⟨CompileError.leaving_str pending.unplaced,
        (CompileError.leaving_fault _ _).symm ▸ pending.reportable⟩
  · rw [Element.validatePair_of_comparedWith notRoot compared]
    cases e.conflict? other <;> simp

/-- A document that is not an object fails the compilation, with an error that
names the page object. -/
theorem array_document_fails_with_diagnostic :
    ∃ e, compile {} (.str "a/b/c") (.arr []) = .error e ∧ e.pageObject = some "a/b/c" := by
  cases compiled : compile {} (.str "a/b/c") (.arr []) with
  | ok _ =>
    have refused : (compile {} (.str "a/b/c") (.arr [])).toBool = false := by decide +kernel
    simp [compiled, Except.toBool] at refused
  | error e =>
    exact ⟨e, rfl, ((compile_fails_only_with_diagnostics {} "a/b/c" (.arr [])).1 e compiled).1⟩

/-! ## A number too long to read

A selector text is lexed by the compiler itself, so a document whose numbers
are all within reach can still hold, inside a UiSelector text, a number of
more digits than may be read. Reading it is refused, and that refusal is the
one error of a compilation that is not a fault of the document.
-/

/-- A UiSelector text calling className on a number of 4301 digits. -/
def oversizedClassName : String := "className(" ++ String.ofList (List.replicate 4301 '1') ++ ")"

theorem oversizedClassName_toList :
    oversizedClassName.toList = "className(".toList ++ List.replicate 4301 '1' ++ [')'] := by
  simp only [oversizedClassName, String.toList_append, String.toList_ofList]
  rfl

/-- Parsing stops at the number: lexing ends there, after the tokens of the
prefix and of the call it opens, and a chain cut short by a number too long to
read reports that number. -/
theorem UiSelector.parse_oversizedClassName :
    UiSelector.parse oversizedClassName = .error (.oversizedNumber 4301) := by
  have prefixed : UiSelector.withPrefix oversizedClassName = UiSelector.prefixText ++ oversizedClassName := by
    rw [UiSelector.withPrefix, if_neg]
    rw [String.startsWith_string_iff, oversizedClassName_toList]
    simp [UiSelector.prefixText, -List.reduceReplicate]
  have chars : (UiSelector.prefixText ++ oversizedClassName).toList =
      "new UiSelector().className(".toList ++ List.replicate 4301 '1' ++ [')'] := by
    rw [String.toList_append, oversizedClassName_toList]
    simp only [UiSelector.prefixText, ← List.append_assoc, ← String.toList_append]
    rfl
  -- the lexer runs on a list of characters, which the kernel evaluates
  have stopped : (UiSelector.lexFrom 0 ("new UiSelector().className(".toList ++
      List.replicate 4301 '1' ++ [')'])).stop = some (.oversized 4301) := by decide +kernel
  have tokens : (UiSelector.lexFrom 0 ("new UiSelector().className(".toList ++
      List.replicate 4301 '1' ++ [')'])).tokens =
      [⟨.newKeyword, 0⟩, ⟨.uiSelectorKeyword, 4⟩, ⟨.openParen, 14⟩, ⟨.closeParen, 15⟩, ⟨.dot, 16⟩,
        ⟨.word "className", 17⟩, ⟨.openParen, 26⟩] := by decide +kernel
  simp only [UiSelector.parse, UiSelector.lex, prefixed, chars, stopped, tokens]
  rfl

theorem isBlankText_oversizedClassName : Text.isBlankText oversizedClassName = false := by
  rw [Text.isBlankText, oversizedClassName_toList]
  decide

/-- A root page object located by a UiSelector text: the document read. -/
theorem Grammar.read_uiautomatorRoot (strict : Bool) (template : String) (filled : template ≠ "") :
    Grammar.read strict (.obj [("root", .bool true), ("selector", .obj [("uiautomator", .str template)])]) =
      .ok (PageObjectSpec.mk [] [] [] false none true (some ⟨"uiautomator", template, [], false⟩)
        none false "") := by
  simp [Grammar.read, Grammar.expectObject, Grammar.checkKeys, Grammar.optionalFlag, Grammar.fieldValue?,
    Grammar.field?, Json.child?, Json.fieldValue?, Grammar.description, Grammar.typeTokenIn,
    Grammar.elementsIn, Grammar.shadowIn, Grammar.methodsOf, Json.get?, Json.keys, List.firstOccurrences,
    Grammar.expectFlag, Grammar.selectorOf, Grammar.expectText, Grammar.argumentsIn, Json.has, Json.getD,
    Grammar.locatorKinds, Grammar.Shape.keys, filled]
  rfl

/-- A root page object whose UiSelector text holds a number too long to read
fails with that number, placed at the root element. -/
theorem compile_uiautomatorRoot_oversized {settings : Settings} {identifier : String}
    {pageType : TypeName} {template : String} {digits : Nat}
    (named : Naming.typeNameOfValue (.str identifier) = .ok pageType)
    (filled : Text.isBlankText template = false)
    (oversized : UiSelector.parse template = .error (.oversizedNumber digits)) :
    compile settings (.str identifier)
        (.obj [("root", .bool true), ("selector", .obj [("uiautomator", .str template)])]) =
      .error (CompileError.leaving (.str identifier) ⟨.oversizedNumber digits, some "element 'root'", none⟩) := by
  have nonempty : template ≠ "" := by
    rintro rfl
    simp [Text.isBlankText] at filled
  have located : LocatorKind.ofToken? "uiautomator" = some .uiautomator := rfl
  have refused : declareElements settings
      (PageObjectSpec.mk [] [] [] false none true (some ⟨"uiautomator", template, [], false⟩) none false "") =
      .error ⟨.oversizedNumber digits, some "element 'root'", none⟩ := by
    simp [located, declareElements, rootElement, rootSelectorOf, Scope.resolver, Resolver.selector,
      Resolver.selectorOf, LocatorKind.resolve, normalizeTemplate, filled, oversized, failWith]
  exact compile_eq_error_of_compileSpec (Grammar.read_uiautomatorRoot _ _ nonempty)
    (compileSpec_eq_error_of_declareElements named refused)

/-- A root page object located by a UiSelector text with a number of 4301
digits fails, and its fault is no fault of the document. -/
theorem compile_stops_at_oversized_selector_number :
    compile {} (.str "a/b/c")
        (.obj [("root", .bool true), ("selector", .obj [("uiautomator", .str oversizedClassName)])]) =
      .error ⟨.oversizedNumber 4301, some "element 'root'", some "a/b/c"⟩ ∧
    (Fault.oversizedNumber 4301).isCompilationFault = false := by
  obtain ⟨_, named⟩ := exists_ok_of_toBool
    (by decide +kernel : (Naming.typeNameOfValue (.str "a/b/c")).toBool = true)
  refine ⟨?_, rfl⟩
  rw [compile_uiautomatorRoot_oversized named isBlankText_oversizedClassName
    UiSelector.parse_oversizedClassName]
  rfl

end PageObjects
