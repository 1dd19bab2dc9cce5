import PageObjects.Compile.PageObject

/-!
# Stages of a compilation

A compilation stops at its first error or runs through every stage: the
grammar reads the document, the identifier names the page-object type, the
root and the elements are declared, the methods are compiled, and the
implemented type is named. The declaration is then assembled from what the
stages produced.

`AcceptedRun` records the results of such a run, and `compile_eq_ok_iff` says
that a compilation succeeds exactly when its stages run through. Everything
proved about accepted documents starts from it, so that no later proof opens
`compile` again.

The lemmas on `Except` take a `do` block apart one bind at a time.
-/

namespace PageObjects

section Binds

variable {ε α β : Type}

/-- A bind succeeds exactly when both of its computations do. -/
theorem bind_eq_ok {computation : Except ε α} {next : α → Except ε β} {result : β} :
    computation >>= next = .ok result ↔ ∃ value, computation = .ok value ∧ next value = .ok result := by
  cases computation <;> simp [bind, Except.bind]

@[simp]
theorem ok_bind {value : α} {next : α → Except ε β} : (.ok value : Except ε α) >>= next = next value :=
  rfl

@[simp]
theorem error_bind {error : ε} {next : α → Except ε β} :
    (.error error : Except ε α) >>= next = .error error :=
  rfl

@[simp]
theorem pure_eq_ok {value result : α} :
    (pure value : Except ε α) = .ok result ↔ value = result := by
  simp [pure, Except.pure]

@[simp]
theorem fail_ne_ok {owner : String} {fault : Fault} {value : α} :
    (fail owner fault : Compiling α) ≠ .ok value := by
  simp [fail]

@[simp]
theorem failWith_ne_ok {owner : Option String} {fault : Fault} {value : α} :
    (failWith owner fault : Compiling α) ≠ .ok value := by
  simp [failWith]

/-- A check that fails when its condition holds lets through only what follows it. -/
theorem of_ite_fail_eq_ok {c : Prop} [Decidable c] {owner : String} {fault : Fault}
    {rest : Compiling α} {value : α} (succeeded : (if c then fail owner fault else rest) = .ok value) :
    rest = .ok value := by
  split at succeeded
  · exact absurd succeeded fail_ne_ok
  · exact succeeded

/-- A computation that a decision procedure found to succeed has a value. -/
theorem exists_ok_of_toBool {computation : Except ε α} (succeeded : computation.toBool = true) :
    ∃ value, computation = .ok value := by
  cases computation with
  | error => simp [Except.toBool] at succeeded
  | ok value => exact ⟨value, rfl⟩

/-- A fold whose every step keeps an invariant keeps it over the whole list. -/
theorem foldlM_preserves {σ : Type} {f : σ → α → Except ε σ} (holds : σ → Prop) :
    ∀ {xs : List α} {init result : σ},
      (∀ {acc acc' x}, x ∈ xs → holds acc → f acc x = .ok acc' → holds acc') →
      holds init → xs.foldlM f init = .ok result → holds result := by
  intro xs
  induction xs with
  | nil =>
      intro init result _ initially run
      simp only [List.foldlM_nil, pure, Except.pure, Except.ok.injEq] at run
      exact run ▸ initially
  | cons x rest restIH =>
      intro init result keeps initially run
      rw [List.foldlM_cons] at run
      obtain ⟨next, stepped, restRun⟩ := bind_eq_ok.mp run
      exact restIH (fun member => keeps (List.mem_cons_of_mem x member))
        (keeps List.mem_cons_self initially stepped) restRun

end Binds

/--
The stages of a compilation that accepted a document, with what each produced.
-/
structure AcceptedRun (settings : Settings) (identifier tree : Json) (declaration : Declaration) where
  spec : PageObjectSpec
  pageType : TypeName
  scope : Scope
  methods : List CompiledMethod
  implements : Option Ty
  read : Grammar.read settings.strictGrammar tree = .ok spec
  named : Naming.typeNameOfValue identifier = .ok pageType
  declared : declareElements settings spec = .ok scope
  compiled : compileMethods scope spec.isInterface spec.methods = .ok methods
  implemented : implementedType spec.implements = .ok implements
  assembled : declaration =
    assemble identifier.plain pageType scope.elements methods spec.isInterface implements
      spec.description

theorem compileSpec_eq_ok_iff {settings : Settings} {identifier : Json} {spec : PageObjectSpec}
    {declaration : Declaration} :
    compileSpec settings identifier spec = .ok declaration ↔
      ∃ pageType scope methods implements,
        Naming.typeNameOfValue identifier = .ok pageType ∧
        declareElements settings spec = .ok scope ∧
        compileMethods scope spec.isInterface spec.methods = .ok methods ∧
        implementedType spec.implements = .ok implements ∧
        declaration = assemble identifier.plain pageType scope.elements methods spec.isInterface
          implements spec.description := by
  simp only [compileSpec, bind_eq_ok, pure_eq_ok]
  constructor
  · rintro ⟨pageType, named, scope, declared, methods, compiled, implements, implemented, rfl⟩
    exact ⟨pageType, scope, methods, implements, named, declared, compiled, implemented, rfl⟩
  · rintro ⟨pageType, scope, methods, implements, named, declared, compiled, implemented, rfl⟩
    exact ⟨pageType, named, scope, declared, methods, compiled, implements, implemented, rfl⟩

/-- Naming the page object an error left never turns it into a success: the
compilation succeeds exactly when reading and compiling the document do. -/
theorem compile_eq_ok_iff_compileSpec {settings : Settings} {identifier tree : Json}
    {declaration : Declaration} :
    compile settings identifier tree = .ok declaration ↔
      ∃ spec, Grammar.read settings.strictGrammar tree = .ok spec ∧
        compileSpec settings identifier spec = .ok declaration := by
  rw [← bind_eq_ok]
  unfold compile
  split <;> rename_i outcome <;> simp [outcome]

/-- A compilation succeeds exactly when its stages run through. -/
theorem compile_eq_ok_iff {settings : Settings} {identifier tree : Json} {declaration : Declaration} :
    compile settings identifier tree = .ok declaration ↔
      Nonempty (AcceptedRun settings identifier tree declaration) := by
  rw [compile_eq_ok_iff_compileSpec]
  constructor
  · rintro ⟨spec, read, compiled⟩
    obtain ⟨pageType, scope, methods, implements, named, declared, compiledMethods, implemented,
      assembled⟩ := compileSpec_eq_ok_iff.mp compiled
    exact ⟨⟨spec, pageType, scope, methods, implements, read, named, declared, compiledMethods,
      implemented, assembled⟩⟩
  · rintro ⟨run⟩
    exact ⟨run.spec, run.read, compileSpec_eq_ok_iff.mpr
      ⟨run.pageType, run.scope, run.methods, run.implements, run.named, run.declared, run.compiled,
        run.implemented, run.assembled⟩⟩

@[simp]
theorem CompileError.leave_fault (identifier : String) (error : CompileError) :
    (error.leave identifier).fault = error.fault := by
  unfold CompileError.leave
  split <;> rfl

@[simp]
theorem CompileError.leaving_fault (identifier : Json) (error : CompileError) :
    (error.leaving identifier).fault = error.fault := by
  unfold CompileError.leaving
  split <;> simp

/-- A stage that fails after the document is read fails the compilation, which
names the page object the error left and keeps its fault. -/
theorem compile_eq_error_of_compileSpec {settings : Settings} {identifier tree : Json}
    {spec : PageObjectSpec} {error : CompileError}
    (read : Grammar.read settings.strictGrammar tree = .ok spec)
    (failed : compileSpec settings identifier spec = .error error) :
    compile settings identifier tree = .error (error.leaving identifier) := by
  unfold compile
  rw [read, ok_bind, failed]

/-- Once the page object is named, an error of the element stage is the error of
the compilation. -/
theorem compileSpec_eq_error_of_declareElements {settings : Settings} {identifier : Json}
    {spec : PageObjectSpec} {pageType : TypeName} {error : CompileError}
    (named : Naming.typeNameOfValue identifier = .ok pageType)
    (refused : declareElements settings spec = .error error) :
    compileSpec settings identifier spec = .error error := by
  simp only [compileSpec, named, ok_bind, refused, error_bind]

/-- A method is added exactly when its name is neither an earlier method's nor
a getter's. -/
theorem addMethod_eq_ok_iff {elements : List Element} {methods methods' : List CompiledMethod}
    {m : CompiledMethod} :
    addMethod elements methods m = .ok methods' ↔
      m.name ∉ methods.map CompiledMethod.name ∧ (∀ e ∈ elements, e.getterName ≠ m.name) ∧
        methods' = methods ++ [m] := by
  unfold addMethod
  split
  · rename_i taken
    simp only [Bool.or_eq_true, List.any_eq_true, beq_iff_eq] at taken
    simp only [fail_ne_ok, false_iff]
    rintro ⟨fresh, apart, -⟩
    rcases taken with ⟨other, member, same⟩ | ⟨e, member, same⟩
    · exact fresh (List.mem_map.mpr ⟨other, member, same⟩)
    · exact apart e member same
  · rename_i free
    simp only [Bool.or_eq_true, List.any_eq_true, beq_iff_eq, not_or, not_exists, not_and] at free
    obtain ⟨fresh, apart⟩ := free
    simp only [Except.ok.injEq, List.mem_map, not_exists, not_and]
    exact ⟨fun equal => ⟨fresh, apart, equal.symm⟩, fun ⟨_, _, equal⟩ => equal.symm⟩

/-- Every compiled method of a page object is the compilation of one of its
declared methods. -/
theorem compileMethods_mem {s : Scope} {isInterface : Bool} {specs : List MethodSpec}
    {methods : List CompiledMethod} (compiled : compileMethods s isInterface specs = .ok methods) :
    ∀ m ∈ methods, ∃ spec ∈ specs, s.compileMethod isInterface spec = .ok m := by
  unfold compileMethods at compiled
  refine foldlM_preserves (fun methods => ∀ m ∈ methods, ∃ spec ∈ specs,
      s.compileMethod isInterface spec = .ok m)
    (fun {methods methods' spec} declared earlier stepped => ?_) (fun _ member => absurd member List.not_mem_nil)
    compiled
  obtain ⟨m, methodCompiled, added⟩ := bind_eq_ok.mp stepped
  obtain ⟨-, -, rfl⟩ := addMethod_eq_ok_iff.mp added
  intro method member
  rcases List.mem_append.mp member with old | new
  · exact earlier method old
  · rw [List.mem_singleton.mp new]
    exact ⟨spec, declared, methodCompiled⟩

/-- The run behind an accepted document. -/
theorem AcceptedRun.of_compile {settings : Settings} {identifier tree : Json}
    {declaration : Declaration} (accepted : compile settings identifier tree = .ok declaration) :
    Nonempty (AcceptedRun settings identifier tree declaration) :=
  compile_eq_ok_iff.mp accepted

end PageObjects
