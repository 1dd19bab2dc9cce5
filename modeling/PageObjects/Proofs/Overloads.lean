import PageObjects.Proofs.GetterCalls

/-!
# Overloaded actions

An action may accept several shapes of arguments. A call is resolved against
the shapes of its arity in declaration order: the first shape under which the
arguments resolve gives the parameters, a type mismatch moves on to the next
shape, and any other fault ends the call at once. When every shape of the
arity mismatches, the mismatch against the first is reported; when no shape
has the arity, the count error lists the arities.

Stopping at the first fault that is not a mismatch loses no fitting shape,
because only the type checks of a resolution read the shape: the count, the
resolution of each argument and the distinct names come out the same under
every shape of one length. So when the arguments resolve under one shape, under
any other of that length they resolve alike or stop at a mismatch
(`resolve_ok_or_mismatch`). `resolveAction_first_fit` states the whole rule
through `Resolver.firstFit`, the parameters of the first shape in order under
which the arguments resolve.
-/

namespace PageObjects

namespace Action

/-- The shapes of an action that take a number of arguments, in declaration order. -/
def shapesOfArity (a : Action) (count : Nat) : List (List Ty) :=
  a.shapes.filter (fun shape => shape.length == count)

theorem length_of_mem_shapesOfArity {a : Action} {count : Nat} {shape : List Ty}
    (member : shape ∈ a.shapesOfArity count) : shape.length = count := by
  simpa using (List.mem_filter.mp member).2

/-- The shapes tried for a call are those of its arity, or the count error
when there are none. -/
theorem shapesFor_eq {a : Action} {owner : Option String} {count : Nat} :
    a.shapesFor owner count =
      if a.shapesOfArity count = [] then failWith owner (.argumentCountMismatch a.arities count)
      else .ok (a.shapesOfArity count) := by
  unfold shapesFor shapesOfArity
  split
  · rename_i none
    rw [if_pos none]
  · rename_i shapes some
    rw [if_neg some]

end Action

namespace Resolver

variable {r : Resolver}

/-- The parameters of the first shape, in order, under which arguments resolve. -/
def firstFit (r : Resolver) (args : List ArgumentSpec) (shapes : List (List Ty)) :
    Option (List Parameter) :=
  shapes.findSome? (fun shape => (r.resolve args (some shape)).toOption)

theorem firstFit_cons {args : List ArgumentSpec} {shape : List Ty} {rest : List (List Ty)} :
    r.firstFit args (shape :: rest) =
      match r.resolve args (some shape) with
      | .ok parameters => some parameters
      | .error _ => r.firstFit args rest := by
  unfold firstFit
  rw [List.findSome?_cons]
  cases r.resolve args (some shape) <;> rfl

/-- Some shape fits exactly when the arguments resolve under one of them. -/
theorem firstFit_isSome_iff {args : List ArgumentSpec} {shapes : List (List Ty)} :
    (∃ parameters, r.firstFit args shapes = some parameters) ↔
      ∃ shape ∈ shapes, ∃ parameters, r.resolve args (some shape) = .ok parameters := by
  induction shapes with
  | nil => simp [firstFit]
  | cons shape rest restIH =>
      rw [firstFit_cons]
      cases resolved : r.resolve args (some shape) with
      | ok parameters => simp [resolved]
      | error e => simp [restIH, resolved]

/-- The count check passes when the types expected are as many as the arguments. -/
theorem checkCount_of_length {args : List ArgumentSpec} {expected : List Ty}
    (counted : expected.length = args.length) : r.checkCount args (some expected) = .ok () := by
  simp [checkCount, counted]

/-- An argument that resolves is checked against the type at its place, and the
rest go on under the rest of the types. -/
theorem resolveEach_cons_of_resolveOne {arg : ArgumentSpec} {rest : List ArgumentSpec} {t : Ty}
    {ts : List Ty} {done : List Parameter} {parameter : Option Parameter}
    (resolved : r.resolveOne arg = .ok parameter) :
    r.resolveEach (arg :: rest) (some (t :: ts)) done =
      if accepts t ((parameter.map Parameter.type).getD .function) then
        r.resolveEach rest (some ts) (parameter.toList ++ done)
      else r.refuse (.typeMismatch t ((parameter.map Parameter.type).getD .function)) := by
  rw [resolveEach.eq_2, resolved, ok_bind]
  cases parameter with
  | none => by_cases fits : accepts t .function = true <;> simp [fits]
  | some p => by_cases fits : accepts t p.type = true <;> simp [fits]

/-- Under two shapes of one length, arguments resolved in order come out alike
but for the type checks: what resolves under one resolves under the other to
the same parameters, or stops there at a mismatch. -/
theorem resolveEach_ok_or_mismatch : ∀ {args : List ArgumentSpec} {shape other : List Ty}
    {done parameters : List Parameter}, shape.length = args.length → other.length = shape.length →
    r.resolveEach args (some shape) done = .ok parameters →
    r.resolveEach args (some other) done = .ok parameters ∨
      ∃ e, r.resolveEach args (some other) done = .error e ∧ e.fault.isTypeMismatch = true
  | [], [], [], done, parameters, _, _, resolved => .inl resolved
  | _ :: _, [], _, _, _, counted, _, _ => absurd counted (by simp)
  | _ :: _, _ :: _, [], _, _, _, same, _ => absurd same (by simp)
  | arg :: rest, t :: ts, u :: us, done, parameters, counted, same, resolved => by
      obtain ⟨parameter, resolvedOne, -, resolvedRest⟩ := resolveEach_cons_eq_ok resolved
      rw [resolveEach_cons_of_resolveOne resolvedOne]
      split
      · exact resolveEach_ok_or_mismatch (by simpa using counted) (by simpa using same) resolvedRest
      · exact .inr ⟨_, rfl, rfl⟩

/-- When arguments resolve under one shape, under any other of the same length
they resolve to the same parameters or stop at a mismatch. -/
theorem resolve_ok_or_mismatch {args : List ArgumentSpec} {shape other : List Ty}
    {parameters : List Parameter} (same : other.length = shape.length)
    (resolved : r.resolve args (some shape) = .ok parameters) :
    r.resolve args (some other) = .ok parameters ∨
      ∃ e, r.resolve args (some other) = .error e ∧ e.fault.isTypeMismatch = true := by
  unfold resolve at resolved ⊢
  obtain ⟨⟨⟩, counted, resolved⟩ := bind_eq_ok.mp resolved
  obtain ⟨each, resolvedEach, resolved⟩ := bind_eq_ok.mp resolved
  obtain ⟨⟨⟩, distinct, built⟩ := bind_eq_ok.mp resolved
  obtain rfl := pure_eq_ok.mp built
  have counted := checkCount_eq_ok counted
  rw [checkCount_of_length (same.trans counted), ok_bind]
  rcases resolveEach_ok_or_mismatch counted same resolvedEach with alike | ⟨e, mismatched, isMismatch⟩
  · left
    rw [alike, ok_bind, distinct, ok_bind]
    rfl
  · exact .inr ⟨e, by rw [mismatched, error_bind], isMismatch⟩

/-- The shapes tried in turn end with the first that fits, when one does. -/
theorem resolveShapes_of_firstFit {args : List ArgumentSpec} {shapes : List (List Ty)}
    {first : Option CompileError} {parameters : List Parameter}
    (counted : ∀ shape ∈ shapes, shape.length = args.length)
    (fit : r.firstFit args shapes = some parameters) :
    r.resolveShapes args shapes first = .ok parameters := by
  induction shapes generalizing first with
  | nil => simp [firstFit] at fit
  | cons shape rest restIH =>
      have restCounted : ∀ s ∈ rest, s.length = args.length :=
        fun s member => counted s (List.mem_cons_of_mem shape member)
      rw [firstFit_cons] at fit
      rw [resolveShapes]
      cases resolved : r.resolve args (some shape) with
      | ok found =>
          rw [resolved] at fit
          exact congrArg Except.ok (Option.some.inj fit)
      | error e =>
          rw [resolved] at fit
          -- a later shape fits, so this one failed only by a mismatch
          obtain ⟨later, member, laterFound, laterResolved⟩ :=
            firstFit_isSome_iff.mp ⟨parameters, fit⟩
          have same : shape.length = later.length :=
            (counted shape List.mem_cons_self).trans (restCounted later member).symm
          rcases resolve_ok_or_mismatch same laterResolved with alike | ⟨e', mismatched, isMismatch⟩
          · rw [resolved] at alike
            cases alike
          · rw [resolved] at mismatched
            cases mismatched
            simp only [isMismatch, if_true]
            exact restIH restCounted fit

/-- What the shapes tried in turn end with is the first fit, when some shape
was tried or a mismatch is held. -/
theorem firstFit_of_resolveShapes {args : List ArgumentSpec} {shapes : List (List Ty)}
    {first : Option CompileError} {parameters : List Parameter}
    (tried : first.isSome ∨ shapes ≠ [])
    (resolved : r.resolveShapes args shapes first = .ok parameters) :
    r.firstFit args shapes = some parameters := by
  induction shapes generalizing first with
  | nil =>
      cases first with
      | some e => simp [resolveShapes] at resolved
      | none => simp at tried
  | cons shape rest restIH =>
      rw [firstFit_cons]
      rw [resolveShapes] at resolved
      cases attempt : r.resolve args (some shape) with
      | ok found =>
          rw [attempt] at resolved
          exact congrArg some (Except.ok.inj resolved)
      | error e =>
          rw [attempt] at resolved
          dsimp only at resolved
          split at resolved
          · exact restIH (.inl (by cases first <;> rfl)) resolved
          · cases resolved

/-- When every shape mismatches, the mismatch held is reported. -/
theorem resolveShapes_of_mismatches {args : List ArgumentSpec} {shapes : List (List Ty)}
    {held : CompileError}
    (mismatched : ∀ shape ∈ shapes, ∃ e, r.resolve args (some shape) = .error e ∧
      e.fault.isTypeMismatch = true) :
    r.resolveShapes args shapes (some held) = .error held := by
  induction shapes with
  | nil => rfl
  | cons shape rest restIH =>
      obtain ⟨e, resolved, isMismatch⟩ := mismatched shape List.mem_cons_self
      rw [resolveShapes, resolved]
      simp only [isMismatch, if_true]
      exact restIH fun s member => mismatched s (List.mem_cons_of_mem shape member)

/-- Overload resolution: a call of an action resolves exactly when some shape of
its arity fits, and then to the parameters of the first such shape in
declaration order; with no shape of its arity it fails with the count error
listing the arities, and when every shape of its arity mismatches, with the
mismatch against the first. -/
theorem resolveAction_first_fit (r : Resolver) (a : Action) (args : List ArgumentSpec) :
    ((∃ parameters, r.resolveAction a args = .ok parameters) ↔
      ∃ shape ∈ a.shapesOfArity args.length, ∃ parameters,
        r.resolve args (some shape) = .ok parameters) ∧
    (∀ parameters, r.resolveAction a args = .ok parameters ↔
      r.firstFit args (a.shapesOfArity args.length) = some parameters) ∧
    (a.shapesOfArity args.length = [] →
      r.resolveAction a args = failWith r.owner (.argumentCountMismatch a.arities args.length)) ∧
    (∀ shape rest, a.shapesOfArity args.length = shape :: rest →
      (∀ s ∈ shape :: rest, ∃ e, r.resolve args (some s) = .error e ∧
        e.fault.isTypeMismatch = true) →
      r.resolveAction a args = r.resolve args (some shape)) := by
  have counted : ∀ shape ∈ a.shapesOfArity args.length, shape.length = args.length :=
    fun _ member => Action.length_of_mem_shapesOfArity member
  have resolvesIff : ∀ parameters, r.resolveAction a args = .ok parameters ↔
      r.firstFit args (a.shapesOfArity args.length) = some parameters := by
    intro parameters
    unfold resolveAction
    rw [Action.shapesFor_eq]
    split
    · rename_i none
      rw [none]
      simp [firstFit, failWith]
    · rename_i some
      rw [ok_bind]
      exact ⟨firstFit_of_resolveShapes (.inr some), resolveShapes_of_firstFit counted⟩
  refine ⟨?_, resolvesIff, fun none => ?_, fun shape rest listed mismatched => ?_⟩
  · simp only [resolvesIff]
    exact firstFit_isSome_iff
  · unfold resolveAction
    rw [Action.shapesFor_eq, if_pos none]
    rfl
  · unfold resolveAction
    rw [Action.shapesFor_eq, if_neg (by simp [listed]), ok_bind, listed, resolveShapes]
    obtain ⟨e, resolved, isMismatch⟩ := mismatched shape List.mem_cons_self
    rw [resolved]
    simp only [isMismatch, if_true]
    exact resolveShapes_of_mismatches fun s member => mismatched s (List.mem_cons_of_mem shape member)

/-- Two numbers dragged by: `dragAndDrop` has two shapes of two arguments, an
element and a number, then two numbers; the first mismatches on the leading
number and the second fits. -/
theorem offset_drag_takes_second_shape :
    ∃ a ∈ Action.find? "dragAndDrop",
      (∃ e, (⟨none, fun _ => none⟩ : Resolver).resolve
          [.value (.integer 3) none, .value (.integer 4) none] (some [Ty.element, Ty.number]) =
          .error e ∧ e.fault.isTypeMismatch = true) ∧
      (⟨none, fun _ => none⟩ : Resolver).resolveAction a
          [.value (.integer 3) none, .value (.integer 4) none] =
        .ok [.literal "3" Ty.number, .literal "4" Ty.number] :=
  ⟨_, rfl, ⟨_, rfl, rfl⟩, ((resolveAction_first_fit _ _ _).2.1 _).mpr rfl⟩

end Resolver

end PageObjects
