import PageObjects.Proofs.GetterCalls

/-!
# Selectors resolved against their templates

A selector is resolved in three steps: its locator kind is read, its template
is put in the canonical form of that kind, and the placeholders the scan finds
in the canonical template give the types its arguments must have, a string for
each `%s` and a number for each `%d`. As a value of a type that accepts only
itself, each argument then gives exactly one parameter of its placeholder's
type; a predicate, which gives none, fits no placeholder. A selector given as a
literal must take literal arguments, and is written `kind("template")`, or
`kind("template", v₁, …, vₙ)` with the codes of its arguments.

`resolved_selectors_match_templates` states all of it, with the placeholders
read off any writing of the template in pieces that the scan reads back
(`Selector.placeholders_written`), and the refusal of a selector whose
arguments are not as many as its placeholders.
-/

namespace PageObjects

/-- A primitive type accepts exactly itself. -/
theorem accepts_primitive_iff {p : Primitive} {t : Ty} :
    accepts (.primitive p) t = true ↔ t = .primitive p := by
  -- a primitive is not the generic element, so only equality is left
  have notElement : Ty.primitive p ≠ Ty.element := fun same => Ty.noConfusion same
  simp only [accepts, Bool.or_eq_true, beq_iff_eq, Bool.and_eq_true, notElement, false_and,
    or_false]
  exact eq_comm

/-- A computation whose value a decision procedure found succeeds with it. -/
theorem eq_ok_of_toOption {ε α : Type} {computation : Except ε α} {value : α}
    (found : computation.toOption = some value) : computation = .ok value := by
  cases computation with
  | error => simp [Except.toOption] at found
  | ok found' => exact congrArg Except.ok (Option.some.inj found)

namespace Resolver

variable {r : Resolver}

/-- A literal is always written as code with a type. -/
theorem literalOf_literal {literal : LiteralSpec} {p : Parameter}
    (resolved : r.literalOf literal = .ok p) : ∃ code t, p = .literal code t := by
  unfold literalOf at resolved
  split at resolved
  · obtain ⟨_, -, built⟩ := bind_eq_ok.mp resolved
    exact ⟨_, _, (pure_eq_ok.mp built).symm⟩
  · obtain ⟨_, -, resolved⟩ := bind_eq_ok.mp resolved
    obtain ⟨⟨⟩, -, resolved⟩ := bind_eq_ok.mp resolved
    obtain ⟨⟨⟩, -, resolved⟩ := bind_eq_ok.mp resolved
    obtain ⟨_, -, resolved⟩ := bind_eq_ok.mp resolved
    obtain ⟨⟨⟩, -, built⟩ := bind_eq_ok.mp resolved
    exact ⟨_, _, (pure_eq_ok.mp built).symm⟩
  · split at resolved
    · exact ⟨_, _, ((Except.ok.injEq _ _).mp resolved).symm⟩
    · exact absurd resolved (by simp [refuse])

/-- A literal argument resolves to the code its literal is written as. -/
theorem resolveOne_value_code {literal : LiteralSpec} {declared : Option String} {p : Parameter}
    (resolved : r.resolveOne (.value literal declared) = .ok (some p)) :
    ∃ code t, r.literalOf literal = .ok (.literal code t) ∧ p = .literal code t := by
  rw [resolveOne.eq_3] at resolved
  obtain ⟨written, literalWritten, resolved⟩ := bind_eq_ok.mp resolved
  -- a declared type is checked against the literal, which is kept either way
  have kept : written = p := by
    cases declared with
    | none => exact Option.some.inj (pure_eq_ok.mp resolved)
    | some token =>
      obtain ⟨_, -, resolved⟩ := bind_eq_ok.mp resolved
      split at resolved
      · exact absurd resolved (by simp [refuse])
      · exact Option.some.inj (pure_eq_ok.mp resolved)
  subst kept
  obtain ⟨code, t, rfl⟩ := literalOf_literal literalWritten
  exact ⟨code, t, literalWritten, rfl⟩

/-- Arguments resolved against as many primitive types each give a parameter of
the type at their place. -/
theorem resolveEach_primitives : ∀ {args : List ArgumentSpec} {types : List Primitive}
    {done values : List Parameter}, args.length = types.length →
    r.resolveEach args (some (types.map Ty.primitive)) done = .ok values →
    ∃ resolved, values = done.reverse ++ resolved ∧
      List.Forall₂ (fun arg p => r.resolveOne arg = .ok (some p)) args resolved ∧
      resolved.map Parameter.type = types.map Ty.primitive
  | [], [], done, values, _, resolved => by
    rw [List.map_nil, resolveEach.eq_1, Except.ok.injEq] at resolved
    exact ⟨[], by simp [resolved], .nil, rfl⟩
  | [], _ :: _, _, _, counted, _ => absurd counted (by simp)
  | _ :: _, [], _, _, counted, _ => absurd counted (by simp)
  | arg :: rest, t :: ts, done, values, counted, resolved => by
    rw [List.map_cons] at resolved
    obtain ⟨parameter, resolvedOne, fits, resolved⟩ := resolveEach_cons_eq_ok resolved
    -- a predicate gives no parameter and stands as a function, which no primitive accepts
    obtain ⟨p, rfl, typed⟩ : ∃ p, parameter = some p ∧ p.type = .primitive t := by
      rw [accepts_primitive_iff] at fits
      cases parameter with
      | none => cases fits
      | some p => exact ⟨p, rfl, fits⟩
    obtain ⟨later, listed, laterResolved, laterTyped⟩ :=
      resolveEach_primitives (by simpa using counted) resolved
    refine ⟨p :: later, by simp [listed], .cons resolvedOne laterResolved, ?_⟩
    rw [List.map_cons, List.map_cons, typed, laterTyped]

/-- Literal arguments that each resolve to a parameter are written as the codes
of their literals. -/
theorem literalArguments_codes {args : List ArgumentSpec} {values : List Parameter}
    (allValues : args.all ArgumentSpec.isValue = true)
    (resolved : List.Forall₂ (fun arg p => r.resolveOne arg = .ok (some p)) args values) :
    ∃ codes types, List.Forall₂ (fun arg code => ∃ literal declared t, arg = .value literal declared ∧
        r.literalOf literal = .ok (.literal code t)) args codes ∧
      types.length = codes.length ∧ values = List.zipWith Parameter.literal codes types := by
  induction resolved with
  | nil => exact ⟨[], [], .nil, rfl, rfl⟩
  | @cons arg p rest ps resolvedOne _ restIH =>
    simp only [List.all_cons, Bool.and_eq_true] at allValues
    obtain ⟨isValue, restValues⟩ := allValues
    obtain ⟨literal, declared, rfl⟩ : ∃ literal declared, arg = .value literal declared := by
      cases arg with
      | value literal declared => exact ⟨literal, declared, rfl⟩
      | named => simp [ArgumentSpec.isValue] at isValue
      | predicate => simp [ArgumentSpec.isValue] at isValue
    obtain ⟨code, t, written, rfl⟩ := resolveOne_value_code resolvedOne
    obtain ⟨codes, types, codesOf, counted, rfl⟩ := restIH restValues
    exact ⟨code :: codes, t :: types, .cons ⟨literal, declared, t, rfl, written⟩ codesOf,
      by simp [counted], rfl⟩

end Resolver

/-- The placeholder types of a canonical template, as types. -/
theorem placeholderTys_eq (template : String) :
    Resolver.placeholderTys template = (Selector.placeholderTypes template).map Ty.primitive :=
  rfl

/-- Literals made of as many codes and types have those types. -/
theorem map_type_zipWith_literal : ∀ {codes : List String} {types : List Ty},
    codes.length = types.length → (List.zipWith Parameter.literal codes types).map Parameter.type = types
  | [], [], _ => rfl
  | _ :: codes, _ :: types, counted => by
    rw [List.zipWith_cons_cons, List.map_cons, map_type_zipWith_literal (by simpa using counted)]
    rfl

/-- Literals relabelled with the types of their places keep their codes and
take those types. -/
theorem map_zip_zipWith_literal {relabel : Parameter × Ty → Parameter}
    (relabels : ∀ code u t, relabel (.literal code u, t) = .literal code t) :
    ∀ {codes : List String} {literalTypes types : List Ty}, literalTypes.length = codes.length →
      codes.length = types.length →
      ((List.zipWith Parameter.literal codes literalTypes).zip types).map relabel =
        List.zipWith Parameter.literal codes types
  | [], [], [], _, _ => rfl
  | code :: codes, u :: literalTypes, t :: types, literalCounted, counted => by
    rw [List.zipWith_cons_cons, List.zip_cons_cons, List.map_cons, relabels,
      map_zip_zipWith_literal relabels (by simpa using literalCounted) (by simpa using counted),
      List.zipWith_cons_cons]

/-- The codes of literals made of as many codes and types, read by a function
that takes a literal's code. -/
theorem filterMap_zipWith_literal {f : Parameter → Option String}
    (takesCode : ∀ code t, f (.literal code t) = some code) :
    ∀ {codes : List String} {types : List Ty}, codes.length = types.length →
      (List.zipWith Parameter.literal codes types).filterMap f = codes
  | [], [], _ => rfl
  | code :: codes, _ :: types, counted => by
    rw [List.zipWith_cons_cons, List.filterMap_cons, takesCode,
      filterMap_zipWith_literal takesCode (by simpa using counted)]

/-- The code of a selector literal whose parameters are literals with the given
codes: `kind("template")` without parameters, the codes after the template
otherwise. -/
theorem Selector.literalCode_of_codes {s : Selector} {codes : List String} {types : List Ty}
    (counted : codes.length = types.length)
    (literals : s.parameters = List.zipWith Parameter.literal codes types) :
    s.literalCode =
      if s.parameters = [] then s.kind.token ++ "(" ++ Text.jsonQuote s.template ++ ")"
      else s.kind.token ++ "(" ++ Text.jsonQuote s.template ++ ", " ++ ", ".intercalate codes ++ ")" := by
  unfold literalCode
  rw [literals]
  cases codes with
  | nil => simp [render]
  | cons code rest =>
    cases types with
    | nil => cases counted
    | cons t ts =>
      have restCounted : rest.length = ts.length := by simpa using counted
      simp only [List.zipWith_cons_cons, reduceCtorEq, if_false, List.filterMap_cons]
      rw [filterMap_zipWith_literal ?takesCode restCounted]
      intro code t
      rfl

/-- What a resolved selector holds: the canonical template of its kind, its
arguments as many as its placeholders, each giving a parameter of its
placeholder's type, and, as a literal, the codes of its literal arguments. -/
theorem Resolver.selectorOf_eq_ok {r : Resolver} {spec : SelectorSpec} {literalOnly : Bool}
    {s : Selector} (resolved : r.selectorOf spec literalOnly = .ok s) :
    (∃ kind, LocatorKind.resolve r.owner spec.kind = .ok kind ∧ s.kind = kind ∧
      normalizeTemplate r.owner kind spec.template = .ok s.template) ∧
    spec.args.length = (Selector.placeholderTypes s.template).length ∧
    s.parameters.map Parameter.type = (Selector.placeholderTypes s.template).map Ty.primitive ∧
    (literalOnly = true → ∃ codes,
      List.Forall₂ (fun arg code => ∃ literal declared t, arg = .value literal declared ∧
        r.literalOf literal = .ok (.literal code t)) spec.args codes ∧
      s.parameters =
        List.zipWith Parameter.literal codes ((Selector.placeholderTypes s.template).map Ty.primitive)) := by
  obtain ⟨kindToken, template, args, returnsAll⟩ := spec
  rw [selectorOf.eq_1] at resolved
  obtain ⟨kind, kinded, resolved⟩ := bind_eq_ok.mp resolved
  obtain ⟨normal, normalized, resolved⟩ := bind_eq_ok.mp resolved
  -- both branches check the count, then resolve against the placeholders' types
  split at resolved
  · obtain ⟨⟨⟩, literals, resolved⟩ := bind_eq_ok.mp resolved
    obtain ⟨⟨⟩, counted, resolved⟩ := bind_eq_ok.mp resolved
    obtain ⟨values, each, resolved⟩ := bind_eq_ok.mp resolved
    obtain ⟨⟨⟩, -, built⟩ := bind_eq_ok.mp resolved
    have selector := (pure_eq_ok.mp built).symm
    have counted := (checkCount_eq_ok counted).symm
    rw [placeholderTys_eq, List.length_map] at counted
    obtain ⟨resolvedValues, listed, argsResolved, -⟩ :=
      resolveEach_primitives counted (by rwa [placeholderTys_eq] at each)
    rw [List.reverse_nil, List.nil_append] at listed
    subst values
    obtain ⟨codes, literalTypes, codesOf, literalCounted, rfl⟩ :=
      literalArguments_codes (requireLiterals_eq_ok literals) argsResolved
    have codeCount : codes.length = ((Selector.placeholderTypes normal).map Ty.primitive).length := by
      rw [← codesOf.length_eq, List.length_map, counted]
    have template : s.template = normal := by rw [selector]
    have parameters : s.parameters =
        List.zipWith Parameter.literal codes ((Selector.placeholderTypes normal).map Ty.primitive) := by
      rw [selector]
      exact map_zip_zipWith_literal (fun _ _ _ => rfl) literalCounted codeCount
    rw [template]
    refine ⟨⟨kind, kinded, by rw [selector], normalized⟩, counted, ?_,
      fun _ => ⟨codes, codesOf, parameters⟩⟩
    rw [parameters, map_type_zipWith_literal codeCount]
  · rename_i notLiteral
    obtain ⟨⟨⟩, counted, resolved⟩ := bind_eq_ok.mp resolved
    obtain ⟨parameters, each, resolved⟩ := bind_eq_ok.mp resolved
    obtain ⟨⟨⟩, -, built⟩ := bind_eq_ok.mp resolved
    obtain rfl := pure_eq_ok.mp built
    have counted := (checkCount_eq_ok counted).symm
    rw [placeholderTys_eq, List.length_map] at counted
    obtain ⟨resolvedValues, listed, -, typed⟩ :=
      resolveEach_primitives counted (by rwa [placeholderTys_eq] at each)
    rw [List.reverse_nil, List.nil_append] at listed
    subst parameters
    exact ⟨⟨kind, kinded, rfl, normalized⟩, counted, typed,
      fun literal => absurd literal notLiteral⟩

/--
Resolved selectors match their templates. A selector that resolves keeps the
canonical template of its kind, takes as many arguments as the template has
placeholders, and has one parameter per placeholder, in order, a string for
each `%s` and a number for each `%d`: the placeholders of the writing of the
template in pieces that the scan reads back, which every template has. As a
literal, it is written `kind("template")` without parameters and
`kind("template", v₁, …, vₙ)` with the codes of its literal arguments
otherwise. A selector whose arguments are not as many as the placeholders of
its canonical template is refused.
-/
theorem resolved_selectors_match_templates (r : Resolver) (spec : SelectorSpec) (literalOnly : Bool) :
    (∀ s, r.selectorOf spec literalOnly = .ok s →
      (∃ kind, LocatorKind.resolve r.owner spec.kind = .ok kind ∧ s.kind = kind ∧
        normalizeTemplate r.owner kind spec.template = .ok s.template) ∧
      spec.args.length = (Selector.placeholderTypes s.template).length ∧
      s.parameters.map Parameter.type = (Selector.placeholderTypes s.template).map Ty.primitive ∧
      (∃ pieces, Selector.Scanned pieces ∧ Selector.written pieces = s.template.toList) ∧
      (∀ pieces, Selector.Scanned pieces → Selector.written pieces = s.template.toList →
        s.parameters.map Parameter.type = (Selector.holes pieces).map Ty.primitive) ∧
      (literalOnly = true → ∃ codes,
        List.Forall₂ (fun arg code => ∃ literal declared t, arg = .value literal declared ∧
          r.literalOf literal = .ok (.literal code t)) spec.args codes ∧
        s.parameters =
          List.zipWith Parameter.literal codes ((Selector.placeholderTypes s.template).map Ty.primitive) ∧
        s.literalCode =
          if s.parameters = [] then s.kind.token ++ "(" ++ Text.jsonQuote s.template ++ ")"
          else s.kind.token ++ "(" ++ Text.jsonQuote s.template ++ ", " ++ ", ".intercalate codes ++ ")")) ∧
    (∀ kind normal, LocatorKind.resolve r.owner spec.kind = .ok kind →
      normalizeTemplate r.owner kind spec.template = .ok normal →
      spec.args.length ≠ (Selector.placeholderTypes normal).length →
      ∃ error, r.selectorOf spec literalOnly = .error error) := by
  refine ⟨fun s resolved => ?_, fun kind normal kinded normalized miscounted => ?_⟩
  · obtain ⟨located, counted, typed, literal⟩ := Resolver.selectorOf_eq_ok resolved
    refine ⟨located, counted, typed, Selector.exists_scanned_written _,
      fun pieces scanned written => ?_, fun literalOnly => ?_⟩
    · rw [typed, Selector.placeholderTypes, ← written, Selector.placeholders_written scanned]
    · obtain ⟨codes, codesOf, parameters⟩ := literal literalOnly
      have codeCount : codes.length = ((Selector.placeholderTypes s.template).map Ty.primitive).length := by
        rw [← codesOf.length_eq, List.length_map, counted]
      exact ⟨codes, codesOf, parameters, Selector.literalCode_of_codes codeCount parameters⟩
  · cases resolved : r.selectorOf spec literalOnly with
    | error error => exact ⟨error, rfl⟩
    | ok s =>
      -- an accepted selector has the canonical template, whose placeholders it counts
      obtain ⟨⟨kind', kinded', -, normalized'⟩, counted, -⟩ := Resolver.selectorOf_eq_ok resolved
      rw [kinded, Except.ok.injEq] at kinded'
      subst kinded'
      rw [normalized, Except.ok.injEq] at normalized'
      rw [← normalized'] at counted
      exact absurd counted miscounted

/-- A literal selector with a number and a string placeholder is written with
the codes of a number and a text in their places; one argument short, it is
refused. -/
theorem selector_literal_fills_placeholders :
    (∃ s, (⟨none, fun _ => none⟩ : Resolver).selectorOf
        ⟨"css", "li:nth-child(%d) > a[title='%s']",
          [.value (.integer 3) none, .value (.text "x") none], false⟩ true = .ok s ∧
      s.parameters.map Parameter.type = [Ty.number, Ty.string] ∧
      s.literalCode = "css(\"li:nth-child(%d) > a[title='%s']\", 3, \"x\")") ∧
    ∃ error, (⟨none, fun _ => none⟩ : Resolver).selectorOf
      ⟨"css", "li:nth-child(%d) > a[title='%s']", [.value (.integer 3) none], false⟩ false =
        .error error := by
  constructor
  · obtain ⟨s, resolved⟩ := exists_ok_of_toBool (show ((⟨none, fun _ => none⟩ : Resolver).selectorOf
        ⟨"css", "li:nth-child(%d) > a[title='%s']",
          [.value (.integer 3) none, .value (.text "x") none], false⟩ true).toBool = true by
      decide +kernel)
    obtain ⟨⟨kind, kinded, kindIs, normalized⟩, -, typed, -, -, literal⟩ :=
      (resolved_selectors_match_templates _ _ _).1 s resolved
    obtain ⟨codes, codesOf, -, written⟩ := literal rfl
    rw [show LocatorKind.resolve none "css" = .ok .css from rfl, Except.ok.injEq] at kinded
    subst kinded
    rw [show normalizeTemplate none .css "li:nth-child(%d) > a[title='%s']" =
      .ok "li:nth-child(%d) > a[title='%s']" from rfl, Except.ok.injEq] at normalized
    -- the codes are those of the two literal arguments
    cases codesOf with
    | cons firstOf restOf =>
      cases restOf with
      | cons secondOf restOf =>
        cases restOf
        obtain ⟨_, _, _, firstSame, firstCode⟩ := firstOf
        obtain ⟨_, _, _, secondSame, secondCode⟩ := secondOf
        cases firstSame
        cases secondSame
        rw [show (⟨none, fun _ => none⟩ : Resolver).literalOf (.integer 3) =
          .ok (.literal "3" Ty.number) from rfl, Except.ok.injEq, Parameter.literal.injEq] at firstCode
        rw [eq_ok_of_toOption (show ((⟨none, fun _ => none⟩ : Resolver).literalOf (.text "x")).toOption =
          some (.literal "\"x\"" Ty.string) by decide +kernel), Except.ok.injEq,
          Parameter.literal.injEq] at secondCode
        obtain ⟨rfl, -⟩ := firstCode
        obtain ⟨rfl, -⟩ := secondCode
        refine ⟨s, resolved, by rw [typed, ← normalized]; rfl, ?_⟩
        rw [written, kindIs, ← normalized, if_neg]
        · decide +kernel
        · intro none
          have typedNone := typed
          rw [none, ← normalized] at typedNone
          cases typedNone
  · exact (resolved_selectors_match_templates _ _ _).2 .css "li:nth-child(%d) > a[title='%s']" rfl rfl
      (by decide)

end PageObjects
