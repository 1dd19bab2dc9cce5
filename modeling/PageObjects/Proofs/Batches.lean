import Mathlib.Data.List.Nodup
import PageObjects.Proofs.Failures
import PageObjects.Proofs.Imports

/-!
# Compiling a batch

A batch compiles every page object in order. One that stops the compiler
itself ends the batch at once, before any outcome is gathered
(`compileAll_single_stopped`). Otherwise, under text identifiers, the outcomes
are gathered by one fold that keeps the first place of each identifier: a
repeated identifier fails with the repeat, whatever its page objects give, and
any other failing identifier with the error of its page object.

`reportedFailures` and `keptDeclarations` say what the fold holds after each
prefix of the batch. One lemma per branch of the fold's step
(`keepFirst_reported_repeated`, `keepFirst_reported_failed`,
`keepFirst_kept_compiled`) carries them from a prefix to the next, and
`compileAll_textSources` reads the outcome of the whole batch off them.
-/

namespace PageObjects

/-- The error a computation ends with, if it fails. -/
def errorOf {ε α : Type} : Except ε α → Option ε
  | .error e => some e
  | .ok _ => none

/-- The sources of a batch whose identifiers are texts. -/
def textSources (batch : List (String × Json)) : List (Json × Json) :=
  batch.map fun p => (.str p.1, p.2)

/-- Whether an identifier names more than one page object of a batch. -/
def repeatedIn (batch : List (String × Json)) (id : String) : Bool :=
  1 < batch.countP fun p => p.1 == id

/-- The failure a batch reports under an identifier: the repeat when it names
more than one page object, whatever they give, and otherwise the error of the
page object it names, if that fails. -/
def failureOf (settings : Settings) (batch : List (String × Json)) (id : String) : Option CompileError :=
  if repeatedIn batch id then some (.plain (.duplicatePageObject id))
  else (batch.find? fun p => p.1 == id).bind fun p => errorOf (compile settings (.str id) p.2)

/-- The failures a batch reports for the identifiers of its sources `done`: one
for each identifier with a failure, in the order the identifiers first occur. -/
def reportedFailures (settings : Settings) (batch done : List (String × Json)) : List (Json × CompileError) :=
  (done.map Prod.fst).firstOccurrences.filterMap fun id => (failureOf settings batch id).map fun e => (.str id, e)

/-- The declarations a batch keeps from its sources `done`: one for each page
object compiled whose identifier is not repeated, in order. -/
def keptDeclarations (settings : Settings) (batch done : List (String × Json)) : List (Json × Declaration) :=
  done.filterMap fun p =>
    if repeatedIn batch p.1 then none else (compile settings (.str p.1) p.2).toOption.map fun d => (.str p.1, d)

@[simp]
theorem Json.sameKey_str (a b : String) : (Json.str a).sameKey (.str b) = (a == b) := rfl

@[simp]
theorem Json.plain_str (text : String) : (Json.str text).plain = text := rfl

section KeepFirst

variable {α : Type} {entries : List (Json × α)} {key : Json} {value : α}

/-- A key not yet present is added last. -/
theorem keepFirst_of_absent (absent : ∀ entry ∈ entries, entry.1.sameKey key = false) :
    keepFirst entries key value = entries ++ [(key, value)] := by
  unfold keepFirst
  rw [if_neg]
  simp only [List.any_eq_true, not_exists, not_and]
  intro entry member
  simp [absent entry member]

/-- A key present with the value given already is left as it is. -/
theorem keepFirst_of_present (present : ∃ entry ∈ entries, entry.1.sameKey key = true)
    (same : ∀ entry ∈ entries, entry.1.sameKey key = true → entry.2 = value) :
    keepFirst entries key value = entries := by
  unfold keepFirst
  rw [if_pos (List.any_eq_true.mpr present)]
  conv => rhs; rw [← List.map_id entries]
  refine List.map_congr_left fun entry member => ?_
  split
  · rename_i keyed
    rw [← same entry member keyed]
    rfl
  · rfl

end KeepFirst

/-- A fold keeps a property of the items folded so far when each step does. -/
theorem foldl_invariant {σ α : Type} {f : σ → α → σ} {init : σ} (holds : List α → σ → Prop)
    (start : holds [] init) (step : ∀ done x acc, holds done acc → holds (done ++ [x]) (f acc x))
    (items : List α) : holds items (items.foldl f init) := by
  induction items using List.reverseRecOn with
  | nil => exact start
  | append_singleton done x doneIH =>
      rw [List.foldl_append, List.foldl_cons, List.foldl_nil]
      exact step done x _ doneIH

section Prefix

variable {batch done : List (String × Json)} {p : String × Json}

/-- An identifier met again after earlier sources of the batch is repeated. -/
theorem repeatedIn_of_earlier (before : done ++ [p] <+: batch) (seen : p.1 ∈ done.map Prod.fst) :
    repeatedIn batch p.1 = true := by
  have counted : (done ++ [p]).countP (fun q => q.1 == p.1) ≤ batch.countP (fun q => q.1 == p.1) :=
    before.sublist.countP_le
  have earlier : 0 < done.countP (fun q => q.1 == p.1) := by
    obtain ⟨q, member, same⟩ := List.mem_map.mp seen
    exact List.countP_pos_iff.mpr ⟨q, member, by simp [same]⟩
  simp only [List.countP_append, List.countP_singleton, BEq.rfl, if_true] at counted
  simp only [repeatedIn, decide_eq_true_eq]
  omega

/-- The first source of an identifier new after `done` is the one after `done`. -/
theorem find?_of_first (before : done ++ [p] <+: batch) (fresh : p.1 ∉ done.map Prod.fst) :
    batch.find? (fun q => q.1 == p.1) = some p := by
  obtain ⟨rest, rfl⟩ := before
  rw [List.append_assoc, List.find?_append, List.find?_eq_none.mpr]
  · simp
  · intro q member
    simp only [beq_iff_eq]
    exact fun same => fresh (List.mem_map.mpr ⟨q, member, same⟩)

end Prefix

section Steps

variable {settings : Settings} {batch done : List (String × Json)} {p : String × Json}

theorem mem_reportedFailures {entry : Json × CompileError}
    (member : entry ∈ reportedFailures settings batch done) :
    ∃ id ∈ done.map Prod.fst, failureOf settings batch id = some entry.2 ∧ entry.1 = .str id := by
  simp only [reportedFailures, List.mem_filterMap, Option.map_eq_some_iff, List.mem_firstOccurrences] at member
  obtain ⟨id, listed, e, failed, rfl⟩ := member
  exact ⟨id, listed, failed, rfl⟩

theorem mem_keptDeclarations {entry : Json × Declaration}
    (member : entry ∈ keptDeclarations settings batch done) : ∃ q ∈ done, entry.1 = .str q.1 := by
  simp only [keptDeclarations, List.mem_filterMap] at member
  obtain ⟨q, listed, kept⟩ := member
  split at kept
  · cases kept
  · obtain ⟨d, -, rfl⟩ := Option.map_eq_some_iff.mp kept
    exact ⟨q, listed, rfl⟩

/-- No failure is reported yet under an identifier new after `done`. -/
theorem reportedFailures_absent (fresh : p.1 ∉ done.map Prod.fst) :
    ∀ entry ∈ reportedFailures settings batch done, entry.1.sameKey (.str p.1) = false := by
  intro entry member
  obtain ⟨id, listed, -, key⟩ := mem_reportedFailures member
  rw [key, Json.sameKey_str, beq_eq_false_iff_ne]
  rintro rfl
  exact fresh listed

/-- No declaration is kept yet under an identifier new after `done`. -/
theorem keptDeclarations_absent (fresh : p.1 ∉ done.map Prod.fst) :
    ∀ entry ∈ keptDeclarations settings batch done, entry.1.sameKey (.str p.1) = false := by
  intro entry member
  obtain ⟨q, listed, key⟩ := mem_keptDeclarations member
  rw [key, Json.sameKey_str, beq_eq_false_iff_ne]
  rintro same
  exact fresh (List.mem_map.mpr ⟨q, listed, same⟩)

theorem reportedFailures_append_of_seen (seen : p.1 ∈ done.map Prod.fst) :
    reportedFailures settings batch (done ++ [p]) = reportedFailures settings batch done := by
  simp only [reportedFailures, List.map_append, List.map_cons, List.map_nil,
    List.firstOccurrences_append_singleton, List.appendNew_of_mem (List.mem_firstOccurrences.mpr seen)]

theorem reportedFailures_append_of_fresh (fresh : p.1 ∉ done.map Prod.fst) :
    reportedFailures settings batch (done ++ [p]) =
      reportedFailures settings batch done ++ ((failureOf settings batch p.1).map fun e => (.str p.1, e)).toList := by
  simp only [reportedFailures, List.map_append, List.map_cons, List.map_nil,
    List.firstOccurrences_append_singleton, List.appendNew_of_not_mem (mt List.mem_firstOccurrences.mp fresh),
    List.filterMap_append, List.filterMap_cons, List.filterMap_nil]
  cases failureOf settings batch p.1 <;> rfl

/-- A source whose identifier is met once is the first of it. -/
theorem fresh_of_single (before : done ++ [p] <+: batch) (single : repeatedIn batch p.1 = false) :
    p.1 ∉ done.map Prod.fst := fun seen => by
  rw [repeatedIn_of_earlier before seen] at single
  cases single

/-- A repeated identifier is reported as a repeat, once, at its first place. -/
theorem keepFirst_reported_repeated (repeated : repeatedIn batch p.1 = true) :
    keepFirst (reportedFailures settings batch done) (.str p.1) (.plain (.duplicatePageObject p.1)) =
      reportedFailures settings batch (done ++ [p]) := by
  have failed : failureOf settings batch p.1 = some (.plain (.duplicatePageObject p.1)) := by
    simp [failureOf, repeated]
  by_cases seen : p.1 ∈ done.map Prod.fst
  · -- the repeat is reported already, at the identifier's first place
    rw [reportedFailures_append_of_seen seen]
    refine keepFirst_of_present ⟨(.str p.1, .plain (.duplicatePageObject p.1)), ?_, by simp⟩
      fun entry member keyed => ?_
    · simp only [reportedFailures, List.mem_filterMap, List.mem_firstOccurrences]
      exact ⟨p.1, seen, by rw [failed]; rfl⟩
    · obtain ⟨id, -, idFailed, key⟩ := mem_reportedFailures member
      rw [key, Json.sameKey_str, beq_iff_eq] at keyed
      subst keyed
      rw [failed] at idFailed
      exact (Option.some.inj idFailed).symm
  · rw [reportedFailures_append_of_fresh seen, failed]
    exact keepFirst_of_absent (reportedFailures_absent seen)

/-- A page object that fails under an identifier met once is reported with its
error. -/
theorem keepFirst_reported_failed {e : CompileError} (before : done ++ [p] <+: batch)
    (single : repeatedIn batch p.1 = false) (failed : compile settings (.str p.1) p.2 = .error e) :
    keepFirst (reportedFailures settings batch done) (.str p.1) e = reportedFailures settings batch (done ++ [p]) := by
  have fresh := fresh_of_single before single
  have reported : failureOf settings batch p.1 = some e := by
    simp [failureOf, single, find?_of_first before fresh, failed, errorOf]
  rw [reportedFailures_append_of_fresh fresh, reported]
  exact keepFirst_of_absent (reportedFailures_absent fresh)

/-- A page object compiled under an identifier met once reports no failure. -/
theorem reportedFailures_compiled {d : Declaration} (before : done ++ [p] <+: batch)
    (single : repeatedIn batch p.1 = false) (compiled : compile settings (.str p.1) p.2 = .ok d) :
    reportedFailures settings batch (done ++ [p]) = reportedFailures settings batch done := by
  have fresh := fresh_of_single before single
  have reported : failureOf settings batch p.1 = none := by
    simp [failureOf, single, find?_of_first before fresh, compiled, errorOf]
  rw [reportedFailures_append_of_fresh fresh, reported, Option.map_none, Option.toList_none, List.append_nil]

/-- A page object compiled under an identifier met once is kept, last. -/
theorem keepFirst_kept_compiled {d : Declaration} (before : done ++ [p] <+: batch)
    (single : repeatedIn batch p.1 = false) (compiled : compile settings (.str p.1) p.2 = .ok d) :
    keepFirst (keptDeclarations settings batch done) (.str p.1) d = keptDeclarations settings batch (done ++ [p]) := by
  rw [keepFirst_of_absent (keptDeclarations_absent (fresh_of_single before single))]
  simp [keptDeclarations, single, compiled, Except.toOption]

/-- A page object repeated or failing keeps no declaration. -/
theorem keptDeclarations_unkept (unkept : repeatedIn batch p.1 = true ∨ ∃ e, compile settings (.str p.1) p.2 = .error e) :
    keptDeclarations settings batch (done ++ [p]) = keptDeclarations settings batch done := by
  rcases unkept with repeated | ⟨e, failed⟩
  · simp [keptDeclarations, repeated]
  · simp [keptDeclarations, failed, Except.toOption]

end Steps

/-- An identifier names as many sources of a batch as page objects. -/
theorem length_filter_sameKey (batch : List (String × Json)) (id : String) :
    ((batch.map fun p => (Json.str p.1, p.2)).filter fun source => source.1.sameKey (.str id)).length >
        1 ↔ repeatedIn batch id = true := by
  simp [repeatedIn, List.filter_map, List.countP_eq_length_filter, Function.comp_def]

theorem compileAll_textSources (settings : Settings) (batch : List (String × Json))
    (noStop : ∀ p ∈ batch, ∀ e, compile settings (.str p.1) p.2 = .error e → e.fault.isCompilationFault = true) :
    compileAll settings (textSources batch) =
      if reportedFailures settings batch batch = [] then .ok (keptDeclarations settings batch batch)
      else .error (.failed ⟨reportedFailures settings batch batch⟩) := by
  unfold compileAll
  dsimp only
  split
  · -- no page object stops the compiler
    rename_i e stopped
    unfold firstStop at stopped
    obtain ⟨x, member, found⟩ := List.exists_of_findSome?_eq_some stopped
    simp only [textSources, List.map_map, List.mem_map, Function.comp_apply] at member
    obtain ⟨p, listed, rfl⟩ := member
    cases compiled : compile settings (.str p.1) p.2 with
    | ok d => simp [compiled] at found
    | error e' => simp [compiled, noStop p listed e' compiled] at found
  · -- every identifier is a text
    rename_i identifier tree _ unkeyed
    have keyed := List.find?_some unkeyed
    obtain ⟨p, -, same⟩ := List.mem_map.mp (List.mem_of_find?_eq_some unkeyed)
    rw [← same] at keyed
    simp [Json.isKey] at keyed
  · unfold collectOutcomes
    dsimp only
    rw [textSources, List.map_map, List.foldl_map]
    generalize folded : List.foldl _ ([], []) batch = final
    -- the fold keeps, after each prefix, the declarations and failures of that prefix
    have collected : final = (keptDeclarations settings batch batch, reportedFailures settings batch batch) := by
      rw [← folded]
      refine foldl_invariant (fun done acc => done <+: batch →
          acc = (keptDeclarations settings batch done, reportedFailures settings batch done))
        (fun _ => rfl) (fun done p acc doneIH before => ?_) batch (List.prefix_refl batch)
      rw [doneIH ((List.prefix_append done [p]).trans before)]
      dsimp only [Function.comp_apply]
      split
      · rename_i longer
        have repeated := (length_filter_sameKey batch p.1).mp longer
        rw [Json.plain_str, keepFirst_reported_repeated repeated, keptDeclarations_unkept (.inl repeated)]
      · rename_i shorter
        have single : repeatedIn batch p.1 = false := by
          simpa using mt (length_filter_sameKey batch p.1).mpr shorter
        split
        · rename_i e compiled
          rw [keepFirst_reported_failed before single compiled, keptDeclarations_unkept (.inr ⟨e, compiled⟩)]
        · rename_i d compiled
          rw [keepFirst_kept_compiled before single compiled, reportedFailures_compiled before single compiled]
    subst collected
    by_cases empty : reportedFailures settings batch batch = []
    · simp [empty, Except.mapError]
    · simp [empty, Except.mapError, List.isEmpty_iff]

/-- A `mapM` succeeds exactly when every item does, with their results in order. -/
theorem mapM_eq_ok_iff {ε α β : Type} {f : α → Except ε β} {items : List α} {results : List β} :
    items.mapM f = .ok results ↔
      (∀ x ∈ items, ∃ y, f x = .ok y) ∧ results = items.filterMap fun x => (f x).toOption := by
  induction items generalizing results with
  | nil => simp [pure, Except.pure, eq_comm]
  | cons x rest restIH =>
      rw [List.mapM_cons]
      cases fx : f x with
      | error e => simp [fx, bind, Except.bind]
      | ok y =>
          simp only [fx, ok_bind, bind_eq_ok, pure_eq_ok, restIH, List.mem_cons, forall_eq_or_imp,
            List.filterMap_cons, Except.toOption]
          constructor
          · rintro ⟨ys, ⟨each, rfl⟩, rfl⟩
            exact ⟨⟨⟨y, rfl⟩, each⟩, rfl⟩
          · rintro ⟨⟨-, each⟩, rfl⟩
            exact ⟨_, ⟨each, rfl⟩, rfl⟩

section Distinct

variable {settings : Settings} {batch : List (String × Json)}

/-- The identifiers of a batch are distinct exactly when none is repeated. -/
theorem nodup_iff_not_repeated :
    (batch.map Prod.fst).Nodup ↔ ∀ p ∈ batch, repeatedIn batch p.1 = false := by
  rw [List.nodup_iff_count_le_one]
  simp only [repeatedIn, decide_eq_false_iff_not, Nat.not_lt, List.count, List.countP_map]
  constructor
  · intro atMostOnce p _
    simpa [Function.comp_def] using atMostOnce p.1
  · intro atMostOnce id
    by_cases listed : ∃ p ∈ batch, p.1 = id
    · obtain ⟨p, member, rfl⟩ := listed
      simpa [Function.comp_def] using atMostOnce p member
    · have absent : batch.countP (fun q => q.1 == id) = 0 :=
        List.countP_eq_zero.mpr fun q member same => listed ⟨q, member, by simpa using same⟩
      simp only [Function.comp_def]
      omega

/-- Under distinct identifiers, an identifier finds its own source. -/
theorem find?_of_nodup (distinct : (batch.map Prod.fst).Nodup) {p : String × Json} (member : p ∈ batch) :
    batch.find? (fun q => q.1 == p.1) = some p := by
  obtain ⟨q, found⟩ : ∃ q, batch.find? (fun q => q.1 == p.1) = some q :=
    Option.isSome_iff_exists.mp (List.find?_isSome.mpr ⟨p, member, by simp⟩)
  have same : q.1 = p.1 := by simpa using List.find?_some found
  rw [found, List.inj_on_of_nodup_map distinct (List.mem_of_find?_eq_some found) member same]

/-- Under distinct identifiers, the failure reported for a source is the error
of its page object. -/
theorem failureOf_of_nodup (distinct : (batch.map Prod.fst).Nodup) {p : String × Json} (member : p ∈ batch) :
    failureOf settings batch p.1 = errorOf (compile settings (.str p.1) p.2) := by
  simp [failureOf, nodup_iff_not_repeated.mp distinct p member, find?_of_nodup distinct member]

/-- A batch reports no failure exactly when its identifiers are distinct and
every page object compiles. -/
theorem reportedFailures_eq_nil_iff :
    reportedFailures settings batch batch = [] ↔
      (batch.map Prod.fst).Nodup ∧ ∀ p ∈ batch, ∃ d, compile settings (.str p.1) p.2 = .ok d := by
  have noFailure : reportedFailures settings batch batch = [] ↔ ∀ p ∈ batch, failureOf settings batch p.1 = none := by
    simp [reportedFailures, List.filterMap_eq_nil_iff]
  rw [noFailure]
  constructor
  · intro none
    -- a repeat is always reported, so no identifier is repeated
    have distinct : (batch.map Prod.fst).Nodup := nodup_iff_not_repeated.mpr fun p member => by
      have unreported := none p member
      by_contra repeated
      simp [failureOf, Bool.not_eq_false] at unreported repeated
      simp [repeated] at unreported
    refine ⟨distinct, fun p member => ?_⟩
    have unreported := none p member
    rw [failureOf_of_nodup distinct member] at unreported
    cases compiled : compile settings (.str p.1) p.2 with
    | ok d => exact ⟨d, rfl⟩
    | error e => simp [compiled, errorOf] at unreported
  · rintro ⟨distinct, compiled⟩ p member
    obtain ⟨d, ok⟩ := compiled p member
    rw [failureOf_of_nodup distinct member, ok]
    rfl

end Distinct

/-- Under distinct identifiers, every page object compiled is kept, in order. -/
theorem keptDeclarations_of_nodup {settings : Settings} {batch : List (String × Json)}
    (distinct : (batch.map Prod.fst).Nodup) :
    keptDeclarations settings batch batch =
      batch.filterMap fun p => ((compile settings (.str p.1) p.2).map fun d => (Json.str p.1, d)).toOption := by
  unfold keptDeclarations
  refine List.filterMap_congr fun p member => ?_
  rw [nodup_iff_not_repeated.mp distinct p member]
  cases compile settings (.str p.1) p.2 <;> rfl

/--
A batch of page objects under text identifiers, none of which stops the
compiler, compiles exactly when its identifiers are distinct and every page
object compiles, and then gives each identifier its declaration, in order.
Otherwise it fails with the failures `reportedFailures` lists: every repeated
identifier with the repeat and every other failing one with its error, in the
order identifiers first occur, under a message counting them.
-/
theorem text_batch_compiles_or_reports (settings : Settings) (batch : List (String × Json))
    (noStop : ∀ p ∈ batch, ∀ e, compile settings (.str p.1) p.2 = .error e → e.fault.isCompilationFault = true) :
    (∀ declarations, compileAll settings (textSources batch) = .ok declarations ↔
      (batch.map Prod.fst).Nodup ∧
        batch.mapM (fun p => (compile settings (.str p.1) p.2).map fun d => (Json.str p.1, d)) = .ok declarations) ∧
    (∀ error, compileAll settings (textSources batch) = .error error →
      reportedFailures settings batch batch ≠ [] ∧ error = .failed ⟨reportedFailures settings batch batch⟩ ∧
      error.message = s!"{(reportedFailures settings batch batch).length} page object(s) failed to compile:" ++
        String.join ((reportedFailures settings batch batch).map fun f => "\n  " ++ f.1.plain ++ ": " ++ f.2.message)) := by
  rw [compileAll_textSources settings batch noStop]
  refine ⟨fun declarations => ?_, fun error failed => ?_⟩
  · rw [mapM_eq_ok_iff]
    by_cases empty : reportedFailures settings batch batch = []
    · obtain ⟨distinct, compiled⟩ := reportedFailures_eq_nil_iff.mp empty
      rw [if_pos empty, keptDeclarations_of_nodup distinct]
      constructor
      · intro same
        refine ⟨distinct, fun p member => ?_, (Except.ok.inj same).symm⟩
        obtain ⟨d, ok⟩ := compiled p member
        exact ⟨(.str p.1, d), by rw [ok]; rfl⟩
      · rintro ⟨-, -, rfl⟩
        rfl
    · rw [if_neg empty]
      -- a reported failure leaves some identifier repeated or some page object failing
      refine ⟨fun same => ?_, fun ⟨distinct, each, _⟩ => absurd ?_ empty⟩
      · cases same
      · refine reportedFailures_eq_nil_iff.mpr ⟨distinct, fun p member => ?_⟩
        obtain ⟨y, mapped⟩ := each p member
        cases compiled : compile settings (.str p.1) p.2 with
        | ok d => exact ⟨d, rfl⟩
        | error e => simp [compiled, Except.map] at mapped
  · by_cases empty : reportedFailures settings batch batch = []
    · rw [if_pos empty] at failed
      cases failed
    · rw [if_neg empty] at failed
      cases failed
      exact ⟨empty, rfl, rfl⟩

/-- No page object of a batch stops the compiler when the check finds every
failure a compilation fault. -/
theorem compilationFaults_of_all {settings : Settings} {batch : List (String × Json)}
    (checked : batch.all (fun p => (errorOf (compile settings (.str p.1) p.2)).all fun e =>
      e.fault.isCompilationFault) = true) :
    ∀ p ∈ batch, ∀ e, compile settings (.str p.1) p.2 = .error e → e.fault.isCompilationFault = true := by
  intro p member e failed
  have faulted := List.all_eq_true.mp checked p member
  simpa [failed, errorOf] using faulted

/-- A batch naming one page object twice and holding one that fails. -/
def mixedBatch : List (String × Json) :=
  [("a/b/c", .obj []), ("x/y/z", .arr []), ("a/b/c", .obj [("elements", .arr [])])]

theorem mixed_batch_reports_repeat_and_failure :
    (∀ p ∈ mixedBatch, ∀ e, compile {} (.str p.1) p.2 = .error e → e.fault.isCompilationFault = true) ∧
    ((∀ declarations, compileAll {} (textSources mixedBatch) = .ok declarations ↔
      (mixedBatch.map Prod.fst).Nodup ∧
        mixedBatch.mapM (fun p => (compile {} (.str p.1) p.2).map fun d => (Json.str p.1, d)) = .ok declarations) ∧
    (∀ error, compileAll {} (textSources mixedBatch) = .error error →
      reportedFailures {} mixedBatch mixedBatch ≠ [] ∧ error = .failed ⟨reportedFailures {} mixedBatch mixedBatch⟩ ∧
      error.message = s!"{(reportedFailures {} mixedBatch mixedBatch).length} page object(s) failed to compile:" ++
        String.join ((reportedFailures {} mixedBatch mixedBatch).map fun f =>
          "\n  " ++ f.1.plain ++ ": " ++ f.2.message))) := by
  have noStop := compilationFaults_of_all (show mixedBatch.all (fun p =>
    (errorOf (compile {} (.str p.1) p.2)).all fun e => e.fault.isCompilationFault) = true by decide +kernel)
  exact ⟨noStop, text_batch_compiles_or_reports {} mixedBatch noStop⟩

example : (reportedFailures {} mixedBatch mixedBatch).map (fun f => f.1.plain) = ["a/b/c", "x/y/z"] := by
  decide +kernel

/-- A page object that stops the compiler stops a batch of its own. -/
theorem compileAll_single_stopped {settings : Settings} {identifier tree : Json} {e : CompileError}
    (failed : compile settings identifier tree = .error e) (stops : e.fault.isCompilationFault = false) :
    compileAll settings [(identifier, tree)] = .error (.stopped e) := by
  simp [compileAll, firstStop, failed, stops]

/-- A page object holding a number too long to read stops the whole batch:
the batch fails with that number, not with a list of failures. -/
theorem batch_stops_at_oversized_selector_number :
    ∃ e, compileAll {} [(.str "a/b/c",
        .obj [("root", .bool true), ("selector", .obj [("uiautomator", .str oversizedClassName)])])] =
      .error (.stopped e) ∧ e.fault = .oversizedNumber 4301 ∧ e.fault.isCompilationFault = false := by
  obtain ⟨_, named⟩ := exists_ok_of_toBool
    (by decide +kernel : (Naming.typeNameOfValue (.str "a/b/c")).toBool = true)
  have faulted : (CompileError.leaving (.str "a/b/c") ⟨.oversizedNumber 4301, some "element 'root'", none⟩).fault =
      .oversizedNumber 4301 := CompileError.leaving_fault _ _
  have stops : (Fault.oversizedNumber 4301).isCompilationFault = false := rfl
  refine ⟨_, compileAll_single_stopped (@compile_uiautomatorRoot_oversized {} "a/b/c" _ _ _ named
    isBlankText_oversizedClassName UiSelector.parse_oversizedClassName) (faulted ▸ stops), faulted, faulted ▸ stops⟩

end PageObjects
