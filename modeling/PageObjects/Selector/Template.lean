import PageObjects.Types.Basic

/-!
# Selector templates

A selector template is text with placeholders: `%s` stands for a string and
`%d` for a number, `%%` is a percent sign, and any other `%` is text. The
placeholders are found by one scan from the left, so every text has a list of
them and none is an error.

A template can also be written from pieces: characters of text, escaped
percent signs and placeholders. Written so that no `%` of text stands where the
scan would read it as the start of a longer piece (`Scanned`), the pieces are
read back: the scan finds exactly their placeholders (`placeholders_written`),
and every text is written by such pieces (`exists_scanned_written`).
-/

namespace PageObjects.Selector

/-- The primitive types of a template's placeholders, in order. -/
def placeholders : List Char → List Primitive
  | '%' :: '%' :: rest => placeholders rest
  | '%' :: 's' :: rest => .string :: placeholders rest
  | '%' :: 'd' :: rest => .number :: placeholders rest
  | _ :: rest => placeholders rest
  | [] => []

/-- The primitive types of a template's placeholders, in order. -/
def placeholderTypes (template : String) : List Primitive :=
  placeholders template.toList

/-- A piece of a template as the scan reads it: a character of text, an escaped
percent sign `%%`, or a placeholder, `%s` for a string and `%d` for a number. -/
inductive Piece where
  | char (c : Char)
  | percent
  | string
  | number
  deriving DecidableEq, Repr

namespace Piece

/-- The text of a piece. -/
def write : Piece → List Char
  | char c => [c]
  | percent => ['%', '%']
  | string => ['%', 's']
  | number => ['%', 'd']

/-- The first character of a piece's text. -/
def first : Piece → Char
  | char c => c
  | _ => '%'

/-- The type of a placeholder piece. -/
def hole? : Piece → Option Primitive
  | string => some .string
  | number => some .number
  | _ => none

/-- Whether a piece, written after a `%`, would make that `%` the start of an
escape or a placeholder. -/
def continuesPercent (p : Piece) : Bool :=
  p.first == '%' || p.first == 's' || p.first == 'd'

theorem write_eq_cons (p : Piece) : ∃ tail, p.write = p.first :: tail := by
  cases p <;> exact ⟨_, rfl⟩

end Piece

/-- The text pieces write, in order. -/
def written (pieces : List Piece) : List Char :=
  pieces.flatMap Piece.write

/-- The placeholder types of pieces, in order. -/
def holes (pieces : List Piece) : List Primitive :=
  pieces.filterMap Piece.hole?

/-- Pieces as the scan reads them: a `%` of text is never followed by a piece
that would continue it. -/
def Scanned : List Piece → Prop
  | [] => True
  | [_] => True
  | p :: q :: rest => (p = .char '%' → q.continuesPercent = false) ∧ Scanned (q :: rest)

instance Scanned.decidable : (pieces : List Piece) → Decidable (Scanned pieces)
  | [] => isTrue trivial
  | [_] => isTrue trivial
  | p :: q :: rest =>
    have := Scanned.decidable (q :: rest)
    inferInstanceAs (Decidable ((p = .char '%' → q.continuesPercent = false) ∧ Scanned (q :: rest)))

theorem scanned_cons_iff {p : Piece} {rest : List Piece} :
    Scanned (p :: rest) ↔
      (p = .char '%' → ∀ q ∈ rest.head?, q.continuesPercent = false) ∧ Scanned rest := by
  cases rest with
  | nil => simp [Scanned]
  | cons q rest => simp [Scanned]

theorem Scanned.tail {p : Piece} {rest : List Piece} (scanned : Scanned (p :: rest)) :
    Scanned rest :=
  (scanned_cons_iff.mp scanned).2

@[simp]
theorem written_nil : written [] = [] := rfl

@[simp]
theorem written_cons (p : Piece) (rest : List Piece) :
    written (p :: rest) = p.write ++ written rest := rfl

@[simp]
theorem holes_cons (p : Piece) (rest : List Piece) :
    holes (p :: rest) = p.hole?.toList ++ holes rest := by
  cases p <;> rfl

/-- The scan reads back the placeholders of scanned pieces. -/
theorem placeholders_written : ∀ {pieces : List Piece}, Scanned pieces →
    placeholders (written pieces) = holes pieces
  | [], _ => rfl
  | .percent :: rest, scanned => by
    simp [Piece.write, Piece.hole?, placeholders, placeholders_written scanned.tail]
  | .string :: rest, scanned => by
    simp [Piece.write, Piece.hole?, placeholders, placeholders_written scanned.tail]
  | .number :: rest, scanned => by
    simp [Piece.write, Piece.hole?, placeholders, placeholders_written scanned.tail]
  | .char c :: rest, scanned => by
    rw [holes_cons, written_cons, ← placeholders_written scanned.tail]
    simp only [Piece.hole?, Option.toList_none, List.nil_append, Piece.write, List.singleton_append]
    -- a `%` of text is read as text only because the next piece does not continue it
    by_cases percent : c = '%'
    · subst percent
      cases rest with
      | nil => rfl
      | cons q later =>
        have apart := scanned.1 rfl
        simp only [Piece.continuesPercent, Bool.or_eq_false_iff, beq_eq_false_iff_ne] at apart
        obtain ⟨⟨notPercent, notS⟩, notD⟩ := apart
        obtain ⟨tail, written_q⟩ := q.write_eq_cons
        rw [written_cons, written_q, List.cons_append]
        exact placeholders.eq_4 _ _ (by simp [notPercent]) (by simp [notS]) (by simp [notD])
    · exact placeholders.eq_4 _ _ (by simp [percent]) (by simp [percent]) (by simp [percent])

example : placeholderTypes "100%% of %s, then %x%d" = [.string, .number] := by decide

/-- Every text is written by pieces as the scan reads them. -/
theorem exists_scanned_written (text : List Char) :
    ∃ pieces, Scanned pieces ∧ written pieces = text := by
  -- the pieces follow the scan's own cases
  fun_induction placeholders text with
  | case1 rest restIH =>
    obtain ⟨pieces, scanned, wrote⟩ := restIH
    exact ⟨.percent :: pieces, scanned_cons_iff.mpr ⟨nofun, scanned⟩, by simp [Piece.write, wrote]⟩
  | case2 rest restIH =>
    obtain ⟨pieces, scanned, wrote⟩ := restIH
    exact ⟨.string :: pieces, scanned_cons_iff.mpr ⟨nofun, scanned⟩, by simp [Piece.write, wrote]⟩
  | case3 rest restIH =>
    obtain ⟨pieces, scanned, wrote⟩ := restIH
    exact ⟨.number :: pieces, scanned_cons_iff.mpr ⟨nofun, scanned⟩, by simp [Piece.write, wrote]⟩
  | case4 head rest notEscape notString notNumber restIH =>
    obtain ⟨pieces, scanned, wrote⟩ := restIH
    refine ⟨.char head :: pieces, scanned_cons_iff.mpr ⟨fun percent q first => ?_, scanned⟩,
      by simp [Piece.write, wrote]⟩
    -- the text after a `%` of text starts with the first piece after it
    obtain ⟨later, rfl⟩ : ∃ later, pieces = q :: later := by
      cases pieces with
      | nil => cases first
      | cons p later => exact ⟨later, by simpa using first⟩
    obtain ⟨tail, written_q⟩ := q.write_eq_cons
    have head_percent : head = '%' := by simpa using percent
    rw [written_cons, written_q, List.cons_append] at wrote
    subst wrote
    simp only [Piece.continuesPercent, Bool.or_eq_false_iff, beq_eq_false_iff_ne]
    exact ⟨⟨fun same => notEscape _ head_percent (by rw [same]),
      fun same => notString _ head_percent (by rw [same])⟩,
      fun same => notNumber _ head_percent (by rw [same])⟩
  | case5 => exact ⟨[], trivial, rfl⟩

end PageObjects.Selector
