import Mathlib.Data.List.TakeWhile
import PageObjects.Editor.Hover

/-!
# The word under the cursor

`Editor.wordAt` scans a line from a character outwards, left and right, over
characters of a word (alphanumeric or `_`). It gives the whole run of word
characters around the cursor: the span `[l, r)` of the line's code points that
holds word characters only and is bounded, on each side, by the line's end or
by a character of no word (`WordSpan`). A cursor outside the line, or on a
character of no word, gives the empty word.

Each scan is a `takeWhile`, and `takeWhile_run` says in indices what a run
taken while a test holds is: the test holds up to its end and fails at it.
The span around a character is unique (`WordSpan.unique`), so the word is the
one maximal run that holds the cursor.
-/

namespace PageObjects.Editor

/-- Whether the code point at an index of a line's glyphs is a character of a
word; past the end of the line there is none. -/
def wordGlyphAt (gs : List (List Char)) (i : Nat) : Bool :=
  gs[i]?.any isHoverGlyph

/-- The span `[l, r)` of a line's glyphs holds the glyph `k` and word
characters only, and reaches on each side the end of the line or a glyph of
no word. -/
structure WordSpan (gs : List (List Char)) (k l r : Nat) : Prop where
  start_le : l ≤ k
  lt_stop : k < r
  inside : ∀ i, l ≤ i → i < r → wordGlyphAt gs i = true
  leftEnd : l = 0 ∨ wordGlyphAt gs (l - 1) = false
  rightEnd : wordGlyphAt gs r = false

/-- Two spans around one glyph are the same: each reaches the other's ends. -/
theorem WordSpan.unique {gs : List (List Char)} {k l r l' r' : Nat} (span : WordSpan gs k l r)
    (span' : WordSpan gs k l' r') : l' = l ∧ r' = r := by
  -- a span that started or stopped inside the other would end at a word glyph
  have starts {a b c d : Nat} (first : WordSpan gs k a c) (second : WordSpan gs k b d) : ¬a < b := by
    intro earlier
    have word := first.inside (b - 1) (by omega) (by have := second.start_le; have := first.lt_stop; omega)
    rcases second.leftEnd with atStart | notWord
    · omega
    · rw [notWord] at word
      contradiction
  have stops {a b c d : Nat} (first : WordSpan gs k a c) (second : WordSpan gs k b d) : ¬d < c := by
    intro earlier
    have word := first.inside d (by have := first.start_le; have := second.lt_stop; omega) earlier
    rw [second.rightEnd] at word
    contradiction
  have start₁ := starts span span'
  have start₂ := starts span' span
  have stop₁ := stops span span'
  have stop₂ := stops span' span
  omega

/-! ## The two scans -/

/-- A run taken while a test holds: the test holds at every index before the
run's end, and fails at its end, or the list ends there. -/
theorem takeWhile_run {α : Type} (p : α → Bool) (xs : List α) :
    (∀ i < (xs.takeWhile p).length, xs[i]?.any p = true) ∧ xs[(xs.takeWhile p).length]?.any p = false := by
  induction xs with
  | nil => simp
  | cons x rest ih =>
    cases holds : p x with
    | false => simp [List.takeWhile_cons_of_neg, holds]
    | true =>
      rw [List.takeWhile_cons_of_pos holds, List.length_cons]
      refine ⟨fun i below => ?_, by simpa using ih.2⟩
      cases i with
      | zero => simpa using holds
      | succ i => simpa using ih.1 i (by omega)

/-- A run is the front of the list as long as itself. -/
theorem takeWhile_eq_take {α : Type} (p : α → Bool) (xs : List α) :
    xs.takeWhile p = xs.take (xs.takeWhile p).length :=
  List.prefix_iff_eq_take.mp (List.takeWhile_prefix p)

variable {gs : List (List Char)} {k : Nat}

/-- The scan to the right from `k` takes word glyphs up to the first glyph of
no word. -/
theorem rightScan_run :
    (∀ j < ((gs.drop k).takeWhile isHoverGlyph).length, wordGlyphAt gs (k + j) = true) ∧
      wordGlyphAt gs (k + ((gs.drop k).takeWhile isHoverGlyph).length) = false := by
  obtain ⟨inside, stop⟩ := takeWhile_run isHoverGlyph (gs.drop k)
  rw [List.getElem?_drop] at stop
  exact ⟨fun j below => by simpa [wordGlyphAt, List.getElem?_drop] using inside j below, stop⟩

/-- The scan to the left from `k` takes word glyphs, nearest first, up to the
first glyph of no word or the start of the line. -/
theorem leftScan_run (within : k < gs.length) :
    let n := ((gs.take k).reverse.takeWhile isHoverGlyph).length
    n ≤ k ∧ (∀ j < n, wordGlyphAt gs (k - 1 - j) = true) ∧ (n = k ∨ wordGlyphAt gs (k - 1 - n) = false) := by
  intro n
  obtain ⟨inside, stop⟩ := takeWhile_run isHoverGlyph (gs.take k).reverse
  have length : (gs.take k).reverse.length = k := by simp; omega
  -- the `j`-th glyph to the left of `k`
  have back (j : Nat) (below : j < k) : (gs.take k).reverse[j]? = gs[k - 1 - j]? := by
    rw [List.getElem?_reverse (by simpa using by omega), List.getElem?_take]
    simp [show k - 1 - j < k by omega, show min k gs.length = k by omega]
  have bounded : n ≤ k := by
    have taken : (gs.take k).reverse.takeWhile isHoverGlyph <+: (gs.take k).reverse :=
      List.takeWhile_prefix isHoverGlyph
    have := taken.length_le
    omega
  refine ⟨bounded, fun j below => ?_, ?_⟩
  · rw [wordGlyphAt, ← back j (by omega)]
    exact inside j below
  · by_cases whole : n = k
    · exact .inl whole
    · rw [wordGlyphAt, ← back n (by omega)]
      exact .inr stop

/-- The two scans from a word glyph meet in the span around it, and what they
take is the glyphs of that span. -/
theorem scans_span (word : wordGlyphAt gs k = true) :
    let left := ((gs.take k).reverse.takeWhile isHoverGlyph).reverse
    let right := (gs.drop k).takeWhile isHoverGlyph
    WordSpan gs k (k - left.length) (k + right.length) ∧
      left ++ right = (gs.drop (k - left.length)).take (k + right.length - (k - left.length)) := by
  intro left right
  have within : k < gs.length := by
    by_contra outside
    simp [wordGlyphAt, List.getElem?_eq_none (Nat.le_of_not_lt outside)] at word
  obtain ⟨bounded, leftWords, leftEnd⟩ := leftScan_run within
  obtain ⟨rightWords, rightEnd⟩ := @rightScan_run gs k
  have leftLength : left.length = ((gs.take k).reverse.takeWhile isHoverGlyph).length := List.length_reverse
  rw [leftLength]
  generalize leftCount : ((gs.take k).reverse.takeWhile isHoverGlyph).length = nL at *
  generalize rightCount : right.length = nR at *
  -- the glyph under the cursor is a word glyph, so the right scan takes it
  have taken : 0 < nR := by
    by_contra none
    rw [show nR = 0 by omega, Nat.add_zero, word] at rightEnd
    contradiction
  refine ⟨⟨by omega, by omega, fun i low high => ?_, ?_, rightEnd⟩, ?_⟩
  · by_cases before : i < k
    · simpa [show k - 1 - (k - 1 - i) = i by omega] using leftWords (k - 1 - i) (by omega)
    · simpa [show k + (i - k) = i by omega] using rightWords (i - k) (by omega)
  · rcases leftEnd with whole | stop
    · exact .inl (by omega)
    · exact .inr (by rwa [show k - nL - 1 = k - 1 - nL by omega])
  · -- both scans are fronts of their lists, and they join at the cursor
    have leftFront : left = (gs.drop (k - nL)).take nL := by
      have length : (gs.take k).length = k := by simp; omega
      rw [show left = ((gs.take k).reverse.takeWhile isHoverGlyph).reverse from rfl, takeWhile_eq_take,
        leftCount, List.take_reverse, List.reverse_reverse, length, List.drop_take,
        show k - (k - nL) = nL by omega]
    have rightFront : right = (gs.drop k).take nR := by
      rw [← rightCount]
      exact takeWhile_eq_take isHoverGlyph (gs.drop k)
    rw [leftFront, rightFront, show k + nR - (k - nL) = nL + nR by omega, List.take_add, List.drop_drop,
      show k - nL + nL = k by omega]

/-! ## The word under a character -/

/-- A character before the line, past its end or of no word has no word. -/
theorem wordAt_of_not_word {line : String} {character : Int}
    (none : character < 0 ∨ (Text.glyphs line.toList).length ≤ character.toNat ∨
      wordGlyphAt (Text.glyphs line.toList) character.toNat = false) :
    wordAt line character = "" := by
  unfold wordAt
  dsimp only
  split
  · rfl
  · rename_i inRange
    simp only [Bool.or_eq_true, decide_eq_true_eq, not_or, Nat.not_le] at inRange
    have notWord : wordGlyphAt (Text.glyphs line.toList) character.toNat = false := by
      rcases none with negative | past | notWord
      · exact absurd negative (by omega)
      · exact absurd past (by omega)
      · exact notWord
    unfold wordGlyphAt at notWord
    split
    · rename_i g found
      simp [found] at notWord
      simp [notWord]
    · rfl

/-- Under a word glyph, the word is what the two scans take. -/
theorem wordAt_of_word {line : String} {character : Int} (nonneg : 0 ≤ character)
    (word : wordGlyphAt (Text.glyphs line.toList) character.toNat = true) :
    wordAt line character =
      String.ofList ((((Text.glyphs line.toList).take character.toNat).reverse.takeWhile isHoverGlyph).reverse ++
        ((Text.glyphs line.toList).drop character.toNat).takeWhile isHoverGlyph).flatten := by
  unfold wordGlyphAt at word
  have inRange : character.toNat < (Text.glyphs line.toList).length := by
    by_contra outside
    simp [List.getElem?_eq_none (Nat.le_of_not_lt outside)] at word
  cases found : (Text.glyphs line.toList)[character.toNat]? with
  | none => simp [found] at word
  | some g =>
    simp only [found, Option.any_some] at word
    unfold wordAt
    simp [found, word, show ¬character < 0 by omega, Nat.not_le.mpr inRange]

/-- The word under a character is the whole run of word characters around it:
empty before the line, past its end or on a character of no word; otherwise
there is exactly one span of word characters around the character that
reaches a character of no word, or the line's end, on each side, and the word
is that span of the line. -/
theorem hover_word_is_maximal_run (line : String) (character : Int) :
    (character < 0 ∨ (Text.glyphs line.toList).length ≤ character.toNat ∨
        wordGlyphAt (Text.glyphs line.toList) character.toNat = false → wordAt line character = "") ∧
      (0 ≤ character → wordGlyphAt (Text.glyphs line.toList) character.toNat = true →
        ∃ l r, WordSpan (Text.glyphs line.toList) character.toNat l r ∧
          wordAt line character = String.ofList (((Text.glyphs line.toList).drop l).take (r - l)).flatten ∧
          ∀ l' r', WordSpan (Text.glyphs line.toList) character.toNat l' r' → l' = l ∧ r' = r) := by
  refine ⟨wordAt_of_not_word, fun nonneg word => ?_⟩
  obtain ⟨span, joined⟩ := scans_span word
  refine ⟨_, _, span, ?_, fun l' r' other => span.unique other⟩
  rw [wordAt_of_word nonneg word, joined]

end PageObjects.Editor
