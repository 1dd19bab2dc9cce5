import PageObjects.Settings.Printer

/-!
# Checking settings entries

`Settings.ofEntries` takes entries one at a time, in order. An entry passes
when its key names one of the three settings and its value is of exactly the
kind of that setting's default (`fits`): a flag is not a whole number, and a
decimal is not one either. The first entry that does not pass is reported,
naming its key (`offence`). Only when every entry passes is the depth looked
at, and then only the value of its last entry. When that is at least one, each
setting holds the value of the last entry of its key, or its default.

Settings are seen as entries through `Settings.field?`, the value each key
holds as `Settings.entries` states it, and the default of a setting is its
field in the default settings. The check is followed one entry at a time: an
entry that passes sets its key and leaves every other key as it was
(`applyEntry_of_fits`), so a run of such entries leaves each key with its last
value (`foldlM_applyEntry_of_fits`), while the first entry that fails stops the
run with its offence (`foldlM_applyEntry_of_offence`).
-/

namespace PageObjects.Settings

/-! ## Settings as entries -/

/-- The value a setting holds, by its key, as the entry stating it gives it. -/
def field? (settings : Settings) (key : String) : Option Json :=
  (settings.entries.lookup key).map valueJson

@[simp]
theorem field?_depth (settings : Settings) :
    settings.field? "max_predicate_depth" = some (.int settings.maxPredicateDepth) := rfl

@[simp]
theorem field?_namespace (settings : Settings) :
    settings.field? "namespace" = some (.str settings.identifierNamespace) := rfl

@[simp]
theorem field?_strictGrammar (settings : Settings) :
    settings.field? "strict_grammar" = some (.bool settings.strictGrammar) := rfl

theorem field?_of_unknown (settings : Settings) {key : String} (depth : key ≠ "max_predicate_depth")
    (space : key ≠ "namespace") (strict : key ≠ "strict_grammar") : settings.field? key = none := by
  simp [field?, Settings.entries, List.lookup_cons, beq_eq_false_iff_ne.mpr depth,
    beq_eq_false_iff_ne.mpr space, beq_eq_false_iff_ne.mpr strict]

/-- A key is one of the three that name a setting, or none of them. -/
theorem key_cases (key : String) :
    key = "max_predicate_depth" ∨ key = "namespace" ∨ key = "strict_grammar" ∨
      (key ≠ "max_predicate_depth" ∧ key ≠ "namespace" ∧ key ≠ "strict_grammar") := by
  by_cases depth : key = "max_predicate_depth"
  · exact .inl depth
  by_cases space : key = "namespace"
  · exact .inr (.inl space)
  by_cases strict : key = "strict_grammar"
  · exact .inr (.inr (.inl strict))
  exact .inr (.inr (.inr ⟨depth, space, strict⟩))

/-- Setting the depth changes the value of no other key. -/
theorem field?_set_depth (settings : Settings) (depth : Nat) {key : String}
    (other : key ≠ "max_predicate_depth") :
    { settings with maxPredicateDepth := depth }.field? key = settings.field? key := by
  rcases key_cases key with rfl | rfl | rfl | ⟨depthKey, space, strict⟩
  · contradiction
  · rfl
  · rfl
  · rw [field?_of_unknown _ depthKey space strict, field?_of_unknown _ depthKey space strict]

/-- Settings are equal when every key holds the same value in both. -/
theorem ext_field? {s t : Settings} (same : ∀ key, s.field? key = t.field? key) : s = t := by
  have depth := same "max_predicate_depth"
  have space := same "namespace"
  have strict := same "strict_grammar"
  simp only [field?_depth, field?_namespace, field?_strictGrammar, Option.some.injEq, Json.int.injEq,
    Json.str.injEq, Json.bool.injEq, Int.natCast_inj] at depth space strict
  cases s
  cases t
  simp only at depth space strict
  rw [depth, space, strict]

/-! ## The check of one entry -/

/-- Whether an entry passes the check: its key names a setting and its value is
of exactly the kind of that setting's default. -/
def fits (entry : String × Json) : Bool :=
  match ({} : Settings).field? entry.1 with
  | some default => entry.2.typeName == default.typeName
  | none => false

/-- What an entry that does not pass is reported as: a key that names no
setting, or a value of another kind than its setting's default. -/
def offence (entry : String × Json) : Invalid :=
  match ({} : Settings).field? entry.1 with
  | some default => .wrongKind entry.1 default.typeName entry.2.typeName
  | none => .unknownKey entry.1

/-- The value entries give a key: that of the last entry with the key. -/
def givenValue? (entries : List (String × Json)) (key : String) : Option Json :=
  entries.reverse.lookup key

/-- The value a key holds while entries are being checked: the depth is kept
apart, as given so far, and the other keys in the settings. -/
def heldValue? (state : Settings × Option Int) (key : String) : Option Json :=
  if key = "max_predicate_depth" then state.2.map .int else state.1.field? key

/-- An entry passes exactly when it is a depth given as a whole number, a
namespace given as a text or a grammar mode given as a flag. -/
theorem fits_iff {key : String} {value : Json} :
    fits (key, value) = true ↔
      (key = "max_predicate_depth" ∧ ∃ n, value = .int n) ∨ (key = "namespace" ∧ ∃ s, value = .str s) ∨
        (key = "strict_grammar" ∧ ∃ b, value = .bool b) := by
  rcases key_cases key with rfl | rfl | rfl | ⟨depth, space, strict⟩
  · cases value <;> simp [fits, Json.typeName]
  · cases value <;> simp [fits, Json.typeName]
  · cases value <;> simp [fits, Json.typeName]
  · simp [fits, field?_of_unknown _ depth space strict, depth, space, strict]

/-- An entry that passes sets its key and leaves every other key, and the
depth of the settings themselves, as they were. -/
theorem applyEntry_of_fits {entry : String × Json} (fit : fits entry = true) (state : Settings × Option Int) :
    ∃ next, applyEntry state entry = .ok next ∧ next.1.maxPredicateDepth = state.1.maxPredicateDepth ∧
      ∀ key, heldValue? next key = if key = entry.1 then some entry.2 else heldValue? state key := by
  obtain ⟨name, value⟩ := entry
  obtain ⟨settings, depth⟩ := state
  rcases fits_iff.mp fit with ⟨rfl, n, rfl⟩ | ⟨rfl, s, rfl⟩ | ⟨rfl, b, rfl⟩
  · refine ⟨(settings, some n), rfl, rfl, fun key => ?_⟩
    by_cases same : key = "max_predicate_depth" <;> simp [heldValue?, same]
  · refine ⟨({ settings with identifierNamespace := s }, depth), rfl, rfl, fun key => ?_⟩
    by_cases same : key = "namespace"
    · simp [heldValue?, same]
    · by_cases depthKey : key = "max_predicate_depth"
      · simp [heldValue?, depthKey]
      · by_cases strict : key = "strict_grammar"
        · simp [heldValue?, strict]
        · simp [heldValue?, same, depthKey, field?_of_unknown _ depthKey same strict]
  · refine ⟨({ settings with strictGrammar := b }, depth), rfl, rfl, fun key => ?_⟩
    by_cases same : key = "strict_grammar"
    · simp [heldValue?, same]
    · by_cases depthKey : key = "max_predicate_depth"
      · simp [heldValue?, depthKey]
      · by_cases space : key = "namespace"
        · simp [heldValue?, space]
        · simp [heldValue?, same, depthKey, field?_of_unknown _ depthKey space same]

/-- An entry that does not pass is reported as its offence. -/
theorem applyEntry_of_not_fits {entry : String × Json} (misfit : fits entry = false)
    (state : Settings × Option Int) : applyEntry state entry = .error (offence entry) := by
  obtain ⟨name, value⟩ := entry
  obtain ⟨settings, depth⟩ := state
  rcases key_cases name with rfl | rfl | rfl | ⟨depthKey, space, strict⟩
  · rw [applyEntry.eq_2 _ _ _ (fun n same => by simp [same, fits, Json.typeName] at misfit)]
    simp [offence, Json.typeName]
  · rw [applyEntry.eq_4 _ _ _ (fun s same => by simp [same, fits, Json.typeName] at misfit)]
    simp [offence, Json.typeName]
  · rw [applyEntry.eq_6 _ _ _ (fun b same => by simp [same, fits, Json.typeName] at misfit)]
    simp [offence, Json.typeName]
  · rw [applyEntry.eq_7 _ _ _ _ (fun _ same => absurd same depthKey) depthKey (fun _ same => absurd same space)
      space (fun _ same => absurd same strict) strict]
    simp [offence, field?_of_unknown _ depthKey space strict]

/-! ## A run of entries -/

/-- An entry put before others gives its key only when none of them does. -/
theorem givenValue?_cons (e : String × Json) (rest : List (String × Json)) (key : String) :
    givenValue? (e :: rest) key = (givenValue? rest key).or (if key = e.1 then some e.2 else none) := by
  obtain ⟨name, value⟩ := e
  by_cases same : key = name
  · simp [givenValue?, List.lookup_append, same]
  · simp [givenValue?, List.lookup_append, List.lookup_cons, same, beq_eq_false_iff_ne.mpr same]

/-- Entries that all pass are taken in full: the depth of the settings is left
as it was, and each key ends with the value of its last entry, if it has one. -/
theorem foldlM_applyEntry_of_fits {entries : List (String × Json)} (fit : ∀ e ∈ entries, fits e = true)
    (state : Settings × Option Int) :
    ∃ final, entries.foldlM applyEntry state = .ok final ∧
      final.1.maxPredicateDepth = state.1.maxPredicateDepth ∧
      ∀ key, heldValue? final key = (givenValue? entries key).or (heldValue? state key) := by
  induction entries generalizing state with
  | nil => exact ⟨state, rfl, rfl, fun key => rfl⟩
  | cons e rest ih =>
    obtain ⟨next, step, keepsDepth, sets⟩ := applyEntry_of_fits (fit e (by simp)) state
    obtain ⟨final, run, keepsDepth', held⟩ := ih (fun x mem => fit x (by simp [mem])) next
    refine ⟨final, by rw [List.foldlM_cons, step]; exact run, keepsDepth'.trans keepsDepth, fun key => ?_⟩
    -- a later entry of the same key overrides this one
    rw [held, sets, givenValue?_cons, Option.or_assoc]
    by_cases same : key = e.1 <;> simp [same]

/-- The first entry that does not pass stops the run with its offence. -/
theorem foldlM_applyEntry_of_offence {before after : List (String × Json)} {e : String × Json}
    (fit : ∀ x ∈ before, fits x = true) (misfit : fits e = false) (state : Settings × Option Int) :
    (before ++ e :: after).foldlM applyEntry state = .error (offence e) := by
  obtain ⟨final, run, -, -⟩ := foldlM_applyEntry_of_fits fit state
  rw [List.foldlM_append, run]
  show (e :: after).foldlM applyEntry final = _
  rw [List.foldlM_cons, applyEntry_of_not_fits misfit]
  rfl

/-! ## Settings from entries -/

/-- The depth entries give, if they give one, is at least one. -/
def DepthAtLeastOne (entries : List (String × Json)) : Prop :=
  ∀ n, givenValue? entries "max_predicate_depth" = some (.int n) → 1 ≤ n

theorem ofEntries_of_offence {before after : List (String × Json)} {e : String × Json}
    (fit : ∀ x ∈ before, fits x = true) (misfit : fits e = false) :
    ofEntries (before ++ e :: after) = .error (offence e) := by
  unfold ofEntries
  rw [foldlM_applyEntry_of_offence fit misfit]
  rfl

/-- Entries that all pass give settings exactly when the depth they give is at
least one; then each setting holds the value of its last entry, or its default. -/
theorem ofEntries_of_fits {entries : List (String × Json)} (fit : ∀ e ∈ entries, fits e = true) :
    (DepthAtLeastOne entries → ∃ settings, ofEntries entries = .ok settings ∧
        ∀ key, settings.field? key = (givenValue? entries key).or (({} : Settings).field? key)) ∧
      (¬DepthAtLeastOne entries → ofEntries entries = .error .depthBelowOne) := by
  obtain ⟨⟨settings, depth⟩, run, keepsDepth, held⟩ := foldlM_applyEntry_of_fits fit ({}, none)
  -- the depth is kept apart as given; every other key the settings hold as given
  have givenDepth : givenValue? entries "max_predicate_depth" = depth.map .int := by
    simpa [heldValue?] using (held "max_predicate_depth").symm
  have others (key : String) (other : key ≠ "max_predicate_depth") :
      settings.field? key = (givenValue? entries key).or (({} : Settings).field? key) := by
    simpa [heldValue?, other] using held key
  unfold ofEntries
  rw [run]
  cases depth with
  | none =>
    refine ⟨fun _ => ⟨settings, rfl, fun key => ?_⟩, fun shallow => absurd (fun n given => ?_) shallow⟩
    · by_cases depthKey : key = "max_predicate_depth"
      · have unset : settings.maxPredicateDepth = 8 := keepsDepth
        simp [depthKey, givenDepth, unset]
      · exact others key depthKey
    · simp [givenDepth] at given
  | some n =>
    by_cases low : n < 1
    · refine ⟨fun deep => absurd (deep n (by simp [givenDepth])) (by omega), fun _ => ?_⟩
      simp [bind, Except.bind, low]
    · refine ⟨fun _ => ⟨{ settings with maxPredicateDepth := n.toNat }, by simp [bind, Except.bind, low],
        fun key => ?_⟩, fun shallow => absurd (fun m given => ?_) shallow⟩
      · by_cases depthKey : key = "max_predicate_depth"
        · simp [depthKey, givenDepth]
          omega
        · rw [field?_set_depth _ _ depthKey]
          exact others key depthKey
      · simp [givenDepth] at given
        omega

/-- Settings from entries report the first offence: they are given exactly when
every entry names a setting with a value of its default's kind and the depth,
when given, is at least one, and then each setting holds the value of its last
entry or its default; otherwise the error is the offence of the first entry
that fails, or, only when every entry passes, the depth below one. -/
theorem settings_entries_first_offence (entries : List (String × Json)) :
    ((∃ settings, ofEntries entries = .ok settings) ↔
        (∀ e ∈ entries, fits e = true) ∧ DepthAtLeastOne entries) ∧
      (∀ settings, ofEntries entries = .ok settings →
        ∀ key, settings.field? key = (givenValue? entries key).or (({} : Settings).field? key)) ∧
      (∀ invalid, ofEntries entries = .error invalid →
        (∃ before e after, entries = before ++ e :: after ∧ (∀ x ∈ before, fits x = true) ∧
            fits e = false ∧ invalid = offence e) ∨
          ((∀ e ∈ entries, fits e = true) ∧ invalid = .depthBelowOne)) := by
  cases found : entries.find? (fun e => !fits e) with
  | some e =>
    -- the first entry that fails decides the outcome
    obtain ⟨misfit, before, after, rfl, passed⟩ := List.find?_eq_some_iff_append.mp found
    have misfit : fits e = false := by simpa using misfit
    have fit : ∀ x ∈ before, fits x = true := fun x mem => by simpa using passed x mem
    have fails : ofEntries (before ++ e :: after) = .error (offence e) := ofEntries_of_offence fit misfit
    rw [fails]
    refine ⟨⟨?_, ?_⟩, ?_, ?_⟩
    · rintro ⟨settings, ok⟩
      cases ok
    · rintro ⟨all, -⟩
      simp [all e (by simp)] at misfit
    · intro settings ok
      cases ok
    · intro invalid failed
      cases failed
      exact .inl ⟨before, e, after, rfl, fit, misfit, rfl⟩
  | none =>
    -- every entry passes, and the depth decides
    have fit : ∀ e ∈ entries, fits e = true := fun e mem => by simpa using List.find?_eq_none.mp found e mem
    obtain ⟨succeeds, refused⟩ := ofEntries_of_fits fit
    by_cases deep : DepthAtLeastOne entries
    · obtain ⟨settings, ok, fields⟩ := succeeds deep
      rw [ok]
      refine ⟨⟨fun _ => ⟨fit, deep⟩, fun _ => ⟨settings, rfl⟩⟩, ?_, ?_⟩
      · intro other same
        cases same
        exact fields
      · intro invalid failed
        cases failed
    · rw [refused deep]
      refine ⟨⟨?_, ?_⟩, ?_, ?_⟩
      · rintro ⟨settings, ok⟩
        cases ok
      · rintro ⟨-, given⟩
        exact absurd given deep
      · intro settings ok
        cases ok
      · intro invalid failed
        cases failed
        exact .inr ⟨fit, rfl⟩

/-- A flag given for the depth is refused though a valid namespace comes
before it, and the unknown key after it is never looked at. -/
example :
    ofEntries [("namespace", .str "app"), ("max_predicate_depth", .bool true), ("colour", .int 1)] =
      .error (.wrongKind "max_predicate_depth" "int" "bool") := rfl

end PageObjects.Settings
