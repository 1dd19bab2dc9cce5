import PageObjects.Editor.Diagnostic
import PageObjects.Proofs.HeldTexts

/-!
# Offsets and positions read back

An offset into a text stands on a line, some code points into it: the line is
the number of line feeds before the offset, and the column the number of code
points since the last of them. `LinePlace` says what that means for the
text's lines: the line is one of them, the column is within it, and the lines
before it, each with its line feed, and then the column make up the offset.
It holds of the offset `0`, and one code point more in front of the text
moves it by one step (`LinePlace.cons_lineFeed`, `LinePlace.cons_first`,
`LinePlace.cons_later`), so every offset up to the text's end has its place
(`linePlace_take`), by induction on the text.

`positionOf` computes exactly that place (`positionOf_text`), and `offsetOf`
sums the lines back (`offsetOf_text`), so the two are inverse on every offset
of a text (`offset_position_round_trip`). A diagnostic of a JSON text stands at
an offset found in the text or at the start, so it stands in the document.

A position is only formed while both its coordinates fit `maxCoordinate`, so
an offset of a text of more code points than that may fail to be located;
where reading stops on a text that is not JSON is not bounded here.
-/

namespace PageObjects.Editor

open Text (CodeText)

theorem lineFeed_eq : lineFeed = 10 := rfl

/-! ## Lines and where they start -/

/-- Where a line of a text starts: the lengths of the lines before it, each
with its line feed. -/
def lineStart (lines : List (List Nat)) (k : Nat) : Nat :=
  (lines.take k).foldl (fun total line => total + line.length + 1) 0

theorem foldl_lineLengths (lines : List (List Nat)) (total : Nat) :
    lines.foldl (fun total line => total + line.length + 1) total =
      total + lines.foldl (fun total line => total + line.length + 1) 0 := by
  induction lines generalizing total with
  | nil => simp
  | cons line lines ih =>
    rw [List.foldl_cons, List.foldl_cons, ih, ih (0 + line.length + 1)]
    omega

@[simp]
theorem lineStart_zero (lines : List (List Nat)) : lineStart lines 0 = 0 := by
  simp [lineStart]

theorem lineStart_cons_succ (line : List Nat) (lines : List (List Nat)) (k : Nat) :
    lineStart (line :: lines) (k + 1) = line.length + 1 + lineStart lines k := by
  rw [lineStart, List.take_succ_cons, List.foldl_cons, foldl_lineLengths, lineStart]
  omega

/-- The column of an offset: the code points since the last line feed before
it, all of them when there is none. -/
def column (before : List Nat) : Nat :=
  match lastLineFeed? before with
  | some last => before.length - last - 1
  | none => before.length

@[simp]
theorem column_nil : column [] = 0 := rfl

/-- The last line feed lies within the code points. -/
theorem lastLineFeed?_lt {before : List Nat} {last : Nat} (found : lastLineFeed? before = some last) :
    last < before.length := by
  unfold lastLineFeed? at found
  obtain ⟨k, atK, rfl⟩ := Option.map_eq_some_iff.mp found
  have := (List.findIdx?_eq_some_iff_findIdx_eq.mp atK).1
  rw [List.length_reverse] at this
  omega

/-- One code point more in front: the column grows by one while no line feed
stands before the offset, and stays otherwise. -/
theorem column_cons (a : Nat) (before : List Nat) :
    column (a :: before) = if a ≠ lineFeed ∧ lineFeed ∉ before then column before + 1 else column before := by
  unfold column lastLineFeed?
  rw [List.reverse_cons, List.findIdx?_append, List.length_cons]
  cases found : before.reverse.findIdx? (· == lineFeed) with
  | some k =>
    -- a line feed in `before`: the same one is the last, one place further on
    have within := (List.findIdx?_eq_some_iff_findIdx_eq.mp found).1
    have feed : lineFeed ∈ before := by
      have some := @List.findIdx?_isSome _ before.reverse (· == lineFeed)
      rw [found, Option.isSome_some, eq_comm, List.any_eq_true] at some
      obtain ⟨x, mem, same⟩ := some
      rw [beq_iff_eq] at same
      exact List.mem_reverse.mp (same ▸ mem)
    rw [List.length_reverse] at within
    simp only [Option.some_or, Option.map_some, feed, not_true_eq_false, and_false, if_false]
    omega
  | none =>
    have noFeed : lineFeed ∉ before := by
      intro feed
      have := List.findIdx?_eq_none_iff.mp found lineFeed (List.mem_reverse.mpr feed)
      simp at this
    by_cases atFront : a = lineFeed
    · simp [atFront, noFeed]
    · simp [atFront, noFeed]

/-! ## The place of an offset -/

/-- The offset `p` of code points stands on line `line`, `column` code points
into it: the line is one of the text's lines, the column is within it, and the
lines before it with their line feeds, then the column, make up `p`. -/
structure LinePlace (ps : List Nat) (p line column : Nat) : Prop where
  line_lt : line < (ps.splitOn lineFeed).length
  column_le : column ≤ ((ps.splitOn lineFeed)[line]?.getD []).length
  offset : lineStart (ps.splitOn lineFeed) line + column = p

theorem LinePlace.zero (ps : List Nat) : LinePlace ps 0 0 0 where
  line_lt := List.length_pos_iff.mpr (List.splitOn_ne_nil _ _)
  column_le := Nat.zero_le _
  offset := by simp

/-- A line feed in front opens a line before all others. -/
theorem LinePlace.cons_lineFeed {ps : List Nat} {p line column : Nat} (place : LinePlace ps p line column) :
    LinePlace (lineFeed :: ps) (p + 1) (line + 1) column := by
  have split : (lineFeed :: ps).splitOn lineFeed = [] :: ps.splitOn lineFeed := by
    simp [List.splitOn_cons_eq_if_modifyHead]
  refine ⟨?_, ?_, ?_⟩
  · simpa [split] using place.line_lt
  · simpa [split] using place.column_le
  · rw [split, lineStart_cons_succ, ← place.offset]
    simp
    omega

section
variable {a : Nat} (plain : a ≠ lineFeed) {ps : List Nat} {p column : Nat}
include plain

/-- Another code point in front joins the first line. -/
theorem splitOn_cons_plain :
    ∃ first more, ps.splitOn lineFeed = first :: more ∧ (a :: ps).splitOn lineFeed = (a :: first) :: more := by
  obtain ⟨first, more, pieces⟩ := List.exists_cons_of_ne_nil (List.splitOn_ne_nil lineFeed ps)
  refine ⟨first, more, pieces, ?_⟩
  rw [List.splitOn_cons_eq_if_modifyHead, if_neg (by simpa using plain), pieces, List.modifyHead_cons]

/-- A code point in front, not a line feed, moves an offset on the first line
one column on. -/
theorem LinePlace.cons_first (place : LinePlace ps p 0 column) : LinePlace (a :: ps) (p + 1) 0 (column + 1) := by
  obtain ⟨first, more, pieces, split⟩ := splitOn_cons_plain plain
  have within := place.column_le
  have offset := place.offset
  rw [pieces] at within offset
  refine ⟨by simp [split], ?_, ?_⟩
  · simpa [split] using within
  · simp only [lineStart_zero] at offset ⊢
    omega

/-- A code point in front, not a line feed, leaves an offset on a later line
in its column. -/
theorem LinePlace.cons_later {k : Nat} (place : LinePlace ps p (k + 1) column) :
    LinePlace (a :: ps) (p + 1) (k + 1) column := by
  obtain ⟨first, more, pieces, split⟩ := splitOn_cons_plain plain
  have lineLt := place.line_lt
  have within := place.column_le
  have offset := place.offset
  rw [pieces] at lineLt within offset
  refine ⟨by simpa [split] using lineLt, by simpa [split] using within, ?_⟩
  rw [split, lineStart_cons_succ, ← offset, lineStart_cons_succ, List.length_cons]
  omega

end

/-- Every offset up to the end of a text stands on the line given by the line
feeds before it, at the column since the last of them; by induction on the
text, one code point in front at a time. -/
theorem linePlace_take (ps : List Nat) (p : Nat) (within : p ≤ ps.length) :
    LinePlace ps p ((ps.take p).count lineFeed) (column (ps.take p)) := by
  induction ps generalizing p with
  | nil =>
    obtain rfl : p = 0 := by simpa using within
    simpa using LinePlace.zero []
  | cons a ps ih =>
    cases p with
    | zero => simpa using LinePlace.zero (a :: ps)
    | succ p =>
      have place := ih p (by simpa using within)
      rw [List.take_succ_cons, List.count_cons, column_cons]
      by_cases feed : a = lineFeed
      · subst feed
        simpa using place.cons_lineFeed
      · by_cases earlier : lineFeed ∈ ps.take p
        · -- a line feed before the offset: it stands on a later line
          obtain ⟨k, count⟩ : ∃ k, (ps.take p).count lineFeed = k + 1 :=
            Nat.exists_eq_succ_of_ne_zero (by simpa [List.count_eq_zero] using earlier)
          rw [count] at place ⊢
          simpa [feed, earlier] using place.cons_later feed
        · have count : (ps.take p).count lineFeed = 0 := List.count_eq_zero.mpr earlier
          rw [count] at place ⊢
          simpa [feed, earlier] using place.cons_first feed

/-! ## Positions of a text -/

/-- A position lies in a text: its line is one of the text's lines, and its
character lies between the line's start and its end. -/
def Position.Within (t : CodeText) (pos : Position) : Prop :=
  ∃ line ∈ (t.points.splitOn lineFeed)[pos.line.toNat]?, 0 ≤ pos.line ∧ 0 ≤ pos.character ∧
    pos.character ≤ line.length

theorem LinePlace.within {t : CodeText} {p line column : Nat} (place : LinePlace t.points p line column) :
    Position.Within t ⟨line, column⟩ := by
  obtain ⟨piece, found⟩ : ∃ piece, (t.points.splitOn lineFeed)[line]? = some piece :=
    ⟨_, List.getElem?_eq_getElem place.line_lt⟩
  have within := place.column_le
  rw [found, Option.getD_some] at within
  exact ⟨piece, by simpa using found, Int.natCast_nonneg _, Int.natCast_nonneg _, by simpa using within⟩

/-- The start of a text is in it. -/
theorem Position.within_start (t : CodeText) : Position.Within t ⟨0, 0⟩ := by
  simpa using (LinePlace.zero t.points).within

/-- The position of an offset up to the end of a text is its line and its
column. -/
theorem positionOf_text (t : CodeText) {p : Nat} (within : p ≤ t.points.length) :
    positionOf t.text p = ⟨(t.points.take p).count lineFeed, column (t.points.take p)⟩ := by
  have length : (t.points.take p).length = p := List.length_take_of_le within
  have prefixed : prefixLength t.points.length p = p := by
    simp only [prefixLength]
    omega
  unfold positionOf column
  simp only [CodeText.toList_text, CodeText.points_chars, prefixed]
  cases found : lastLineFeed? (t.points.take p) with
  | none => simp [length]
  | some last =>
    have before := lastLineFeed?_lt found
    simp only [Position.mk.injEq, true_and, length]
    omega

/-- The offset of a position of a text: where its line starts, then its
character. -/
theorem offsetOf_text (t : CodeText) (pos : Position) :
    offsetOf t.text pos = lineStart (t.points.splitOn lineFeed) pos.line.toNat + pos.character := by
  unfold offsetOf lineStart
  dsimp only
  rw [CodeText.toList_text, CodeText.splitOn_chars, ← List.map_take, List.foldl_map, lineFeed_eq]
  congr 2
  refine List.foldl_ext _ _ 0 (fun total line mem => ?_)
  rw [t.pointCount_line (List.mem_of_mem_take mem)]

/-! ## Where a diagnostic stands -/

/-- The search for an entry stops within the text it searches. -/
theorem firstOffset_le {test : List Char → Bool} {cs : List Char} {pos o : Nat}
    (found : firstOffset test cs pos = some o) : o ≤ pos + Text.pointCount cs := by
  fun_induction firstOffset test cs pos with
  | case1 pos => simp_all
  | case2 pos => simp at found
  | case3 c rest pos => simp_all
  | case4 c pos d more isMark _ ih =>
    have bound := ih found
    rw [Text.pointCount_cons_cons, if_pos (by simpa using isMark)]
    omega
  | case5 c pos d more notMark _ ih =>
    have bound := ih found
    rw [Text.pointCount_cons_cons, if_neg (by simpa using notMark)]
    omega
  | case6 c pos _ ih =>
    have bound := ih found
    rw [Text.pointCount_singleton]
    simp only [Text.pointCount_nil] at bound
    omega

/-- The entry an owner names is searched for within the text. -/
theorem ownerOffset_le {source : String} {owner : Option String} {o : Nat}
    (found : ownerOffset source owner = some o) : o ≤ Text.pointCount source.toList := by
  unfold ownerOffset at found
  split at found
  · simp at found
  · split at found
    · simp at found
    · split at found
      · simpa using firstOffset_le found
      · simp at found

/-- A position that passes its check is the position checked. -/
theorem Position.eq_of_validate {p q : Position} (valid : p.validate = .ok q) : q = p := by
  unfold Position.validate at valid
  split at valid
  · simp at valid
  · split at valid
    · simp at valid
    · exact (Except.ok.inj valid).symm

/-- A diagnostic that can be placed stands where its offset is located, or at
the start without one. -/
theorem Diagnostic.start_of_at? {source : String} {offset : Option Nat} {message : String} {d : Diagnostic}
    (placed : Diagnostic.at? source offset message = .ok d) :
    (∃ o, offset = some o ∧ locate source o = .ok d.start) ∨ (offset = none ∧ d.start = ⟨0, 0⟩) := by
  unfold Diagnostic.at? at placed
  simp only [bind, Except.bind, pure, Except.pure] at placed
  cases offset with
  | none =>
    refine .inr ⟨rfl, ?_⟩
    dsimp only at placed
    split at placed
    · simp at placed
    · rw [← Except.ok.inj placed]
  | some o =>
    refine .inl ⟨o, rfl, ?_⟩
    dsimp only at placed
    cases located : locate source o with
    | error e => simp [located] at placed
    | ok start =>
      simp only [located] at placed
      split at placed
      · simp at placed
      · rw [← Except.ok.inj placed]

/-- A diagnosis that gives diagnostics gives the one that was placed. -/
theorem DiagnosisStop.eq_of_single {r : Except PositionError Diagnostic} {ds : List Diagnostic}
    (given : DiagnosisStop.single r = .ok ds) : ∃ d, r = .ok d ∧ ds = [d] := by
  cases r with
  | error e => simp [DiagnosisStop.single] at given
  | ok d => exact ⟨d, rfl, (Except.ok.inj given).symm⟩

/-- A position with both coordinates in range passes its check. -/
theorem Position.validate_of_le {p : Position} (line : 0 ≤ p.line ∧ p.line ≤ maxCoordinate)
    (character : 0 ≤ p.character ∧ p.character ≤ maxCoordinate) : p.validate = .ok p := by
  unfold Position.validate
  rw [if_neg (by omega), if_neg (by omega)]

/-! ## The round trip -/

/-- An offset of a text, up to its end and to the largest coordinate, is
located at its position. -/
theorem locate_text (t : CodeText) {p : Nat} (within : p ≤ t.points.length) (small : (p : Int) ≤ maxCoordinate) :
    locate t.text p = .ok (positionOf t.text p) := by
  have place := linePlace_take t.points p within
  -- the line counts line feeds before the offset, the column code points
  have lineLe : (t.points.take p).count lineFeed ≤ p :=
    Nat.le_trans List.count_le_length (List.length_take_le p t.points)
  have columnLe : column (t.points.take p) ≤ p := by
    have := place.offset
    omega
  rw [locate, positionOf_text t within]
  exact Position.validate_of_le (by simp only; omega) (by simp only; omega)

/-- A located offset up to the end of a text stands in the text. -/
theorem Position.within_of_locate (t : CodeText) {o : Nat} (within : o ≤ t.points.length) {pos : Position}
    (located : locate t.text o = .ok pos) : pos.Within t := by
  rw [locate, positionOf_text t within] at located
  rw [Position.eq_of_validate located]
  exact (linePlace_take t.points o within).within

/-- Every diagnostic of a JSON text stands in the text: at its start, or at an
entry found in it. -/
theorem diagnose_within (t : CodeText) (settings : Settings) (identifier : Json) {tree : Json}
    {ds : List Diagnostic} (parsed : Json.parse t.text = .ok tree)
    (diagnosed : diagnose settings t.text identifier = .ok ds) : ∀ d ∈ ds, d.start.Within t := by
  unfold diagnose at diagnosed
  rw [parsed] at diagnosed
  dsimp only at diagnosed
  split at diagnosed
  · -- the text compiles: no diagnostic
    simp [← Except.ok.inj diagnosed]
  · split at diagnosed
    · obtain ⟨d, placed, rfl⟩ := DiagnosisStop.eq_of_single diagnosed
      intro given mem
      rw [List.mem_singleton] at mem
      subst mem
      rcases Diagnostic.start_of_at? placed with ⟨o, owned, located⟩ | ⟨-, start⟩
      · have bound := ownerOffset_le owned
        rw [CodeText.toList_text, Text.CodeText.pointCount_chars] at bound
        exact Position.within_of_locate t bound located
      · rw [start]
        exact Position.within_start t
    · simp at diagnosed

/-- Offsets and positions of a text are inverse: the position of an offset up
to the end of the text has as its line the number of line feeds before the
offset, stands within that line, and sums back to the offset; it is located
there while it fits an editor position. Every diagnostic of a JSON text
stands in the text. -/
theorem offset_position_round_trip (t : CodeText) :
    (∀ p ≤ t.points.length,
      (positionOf t.text p).line = ((t.points.take p).count lineFeed : Nat) ∧
        (positionOf t.text p).Within t ∧
        offsetOf t.text (positionOf t.text p) = p ∧
        ((p : Int) ≤ maxCoordinate → locate t.text p = .ok (positionOf t.text p))) ∧
      ∀ settings identifier tree ds, Json.parse t.text = .ok tree →
        diagnose settings t.text identifier = .ok ds → ∀ d ∈ ds, d.start.Within t := by
  refine ⟨fun p within => ?_, fun settings identifier _ _ parsed => diagnose_within t settings identifier parsed⟩
  have place := linePlace_take t.points p within
  have position := positionOf_text t within
  refine ⟨by rw [position], position ▸ place.within, ?_, locate_text t within⟩
  rw [offsetOf_text, position]
  simp only [Int.toNat_natCast]
  exact_mod_cast place.offset

end PageObjects.Editor
