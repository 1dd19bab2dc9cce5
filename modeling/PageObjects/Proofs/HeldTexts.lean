import Mathlib
import PageObjects.Text.CodePoint

/-!
# Texts held code point by code point

A text of the source language is a sequence of code points, each below
U+110000, lone surrogates included (`CodeText`). Its Lean form holds each code
point as `Text.held` does. The code reads back exactly: the glyphs of a held
text are the held forms of its code points, one each (`glyphs_flatMap_held`),
so its code points are the ones it holds (`CodeText.points_chars`). A line
feed is held as itself and in no other code point's form
(`lineFeed_mem_held`), so splitting the held text at line feeds splits its
code points at line feeds (`CodeText.splitOn_chars`).

Every character below the surrogates is held as itself (`held_toNat_of_lt`),
and held forms are a prefix code (`held_append_inj`): held code points start
with the held form of others exactly when they start with those code points
(`flatMap_held_eq_append_iff`), and split where such a character stands
(`flatMap_held_eq_split`). Looking for ASCII text in a held text therefore
looks for it among the code points.
-/

namespace PageObjects.Text

/-- A text as its code points, each a valid one. -/
structure CodeText where
  points : List Nat
  valid : ∀ n ∈ points, n < 0x110000

/-- The characters that hold a text, code point by code point. -/
def CodeText.chars (t : CodeText) : List Char :=
  t.points.flatMap held

/-- The Lean string that holds a text. -/
def CodeText.text (t : CodeText) : String :=
  String.ofList t.chars

@[simp]
theorem CodeText.toList_text (t : CodeText) : t.text.toList = t.chars :=
  String.toList_ofList

/-! ## One code point -/

theorem mark_toNat : mark.toNat = 0xD0000 := rfl

theorem toNat_ofNat_of_plain {n : Nat} (valid : n < 0x110000) (plain : isSurrogate n = false) :
    (Char.ofNat n).toNat = n := by
  simp only [isSurrogate, Bool.and_eq_false_iff, decide_eq_false_iff_not, Nat.not_le, Nat.not_lt] at plain
  rw [Char.toNat_ofNat, if_pos (by simp only [Nat.isValidChar]; omega)]

/-- The character that follows the mark for a surrogate is the one past
`surrogateBase` by the surrogate's place. -/
theorem toNat_surrogateChar {n : Nat} (surrogate : isSurrogate n = true) :
    (Char.ofNat (surrogateBase + (n - 0xD800))).toNat = surrogateBase + (n - 0xD800) := by
  simp only [isSurrogate, Bool.and_eq_true, decide_eq_true_eq] at surrogate
  rw [Char.toNat_ofNat, if_pos (by simp only [Nat.isValidChar, surrogateBase]; omega)]

/-- A code point is held as one character other than the mark, which is the
code point itself, or as the mark and one more character. -/
theorem held_cases {n : Nat} (valid : n < 0x110000) :
    (held n = [Char.ofNat n] ∧ Char.ofNat n ≠ mark ∧ (Char.ofNat n).toNat = n) ∨ ∃ d, held n = [mark, d] := by
  unfold held
  split
  · exact .inr ⟨_, rfl⟩
  · rename_i plain
    split
    · exact .inr ⟨_, rfl⟩
    · rename_i notMark
      have point := toNat_ofNat_of_plain valid (by simpa using plain)
      refine .inl ⟨rfl, fun same => notMark ?_, point⟩
      rw [← point, same]
      rfl

/-- Each character that holds a code point is the code point itself, or lies
at the mark or above it. -/
theorem toNat_of_mem_held {n : Nat} (valid : n < 0x110000) :
    ∀ c ∈ held n, c.toNat = n ∨ mark.toNat ≤ c.toNat := by
  unfold held
  split
  · rename_i surrogate
    intro c mem
    simp only [List.mem_cons, List.not_mem_nil, or_false] at mem
    rcases mem with same | same
    · exact .inr (Nat.le_of_eq (congrArg Char.toNat same.symm))
    · rw [same, toNat_surrogateChar surrogate, mark_toNat, surrogateBase]
      omega
  · split
    · simp
    · rename_i plain _
      simp [toNat_ofNat_of_plain valid (by simpa using plain)]

/-- The glyph of a held code point is its held form. -/
theorem glyphs_held_append {n : Nat} (valid : n < 0x110000) (rest : List Char) :
    glyphs (held n ++ rest) = held n :: glyphs rest := by
  rcases held_cases valid with ⟨form, notMark, -⟩ | ⟨d, form⟩
  · rw [form]
    cases rest with
    | nil => simp [glyphs.eq_2, glyphs.eq_1]
    | cons d more => simp [glyphs.eq_3, notMark]
  · simp [form, glyphs.eq_3]

/-- A held code point reads back as itself. -/
theorem glyphPoint_held {n : Nat} (valid : n < 0x110000) : glyphPoint (held n) = n := by
  unfold held
  split
  · -- a surrogate: the mark, then the character past `surrogateBase` by its place
    rename_i surrogate
    have point := toNat_surrogateChar surrogate
    have notMark : Char.ofNat (surrogateBase + (n - 0xD800)) ≠ mark := by
      intro same
      have := congrArg Char.toNat same
      rw [point, mark_toNat, surrogateBase] at this
      omega
    simp only [isSurrogate, Bool.and_eq_true, decide_eq_true_eq] at surrogate
    rw [glyphPoint.eq_1, if_neg (by simp), if_neg (by simpa using notMark), point, surrogateBase]
    omega
  · split
    · rename_i isMark
      simp only [beq_iff_eq] at isMark
      rw [glyphPoint.eq_1, if_neg (by simp), if_pos (by simp), isMark]
    · rename_i plain _
      rw [glyphPoint.eq_2 _ _ (by simp)]
      exact toNat_ofNat_of_plain valid (by simpa using plain)

/-! ## Characters that stand for themselves -/

theorem toNat_lt_of_char (c : Char) : c.toNat < 0x110000 := by
  have valid := c.valid
  simp only [UInt32.isValidChar, Nat.isValidChar] at valid
  simp only [Char.toNat]
  omega

theorem valid_map_toNat (cs : List Char) : ∀ n ∈ cs.map Char.toNat, n < 0x110000 := fun n mem => by
  obtain ⟨c, -, rfl⟩ := List.mem_map.mp mem
  exact toNat_lt_of_char c

/-- A Lean string as the text of its characters' code points. -/
def CodeText.ofString (s : String) : CodeText :=
  ⟨s.toList.map Char.toNat, valid_map_toNat s.toList⟩

/-- A character below the surrogates is held as itself. -/
theorem held_toNat_of_lt {c : Char} (low : c.toNat < 0xD800) : held c.toNat = [c] := by
  unfold held
  rw [if_neg (by simp [isSurrogate]; omega), if_neg (by simp [mark_toNat]; omega), Char.ofNat_toNat]

theorem flatMap_held_map_toNat {cs : List Char} (low : ∀ c ∈ cs, c.toNat < 0xD800) :
    (cs.map Char.toNat).flatMap held = cs := by
  induction cs with
  | nil => rfl
  | cons c cs ih =>
    simp only [List.mem_cons, forall_eq_or_imp] at low
    rw [List.map_cons, List.flatMap_cons, held_toNat_of_lt low.1, ih low.2, List.singleton_append]

/-- A string of characters below the surrogates is its own held form. -/
theorem CodeText.text_ofString {s : String} (low : s.toList.all (·.toNat < 0xD800) = true) :
    (CodeText.ofString s).text = s := by
  rw [← String.toList_inj, CodeText.toList_text, CodeText.chars]
  exact flatMap_held_map_toNat (by simpa using low)

/-- A character below the surrogates is in the held form of its own code
point and of no other. -/
theorem mem_held_iff {c : Char} (low : c.toNat < 0xD800) {n : Nat} (valid : n < 0x110000) :
    c ∈ held n ↔ n = c.toNat := by
  constructor
  · intro mem
    rcases toNat_of_mem_held valid c mem with same | above
    · exact same.symm
    · rw [mark_toNat] at above
      omega
  · rintro rfl
    rw [held_toNat_of_lt low]
    exact List.mem_singleton_self c

/-- A line feed is held as itself, and is in no other code point's form. -/
theorem lineFeed_mem_held {n : Nat} (valid : n < 0x110000) : '\n' ∈ held n ↔ n = 10 :=
  mem_held_iff (by decide) valid

theorem held_lineFeed : held 10 = ['\n'] := rfl

/-! ## Counting code points -/

@[simp]
theorem pointCount_nil : pointCount [] = 0 := by
  simp [pointCount, glyphs.eq_1]

@[simp]
theorem pointCount_singleton (c : Char) : pointCount [c] = 1 := by
  simp [pointCount, glyphs.eq_2]

/-- A mark and the character after it count once; any other character
counts by itself. -/
theorem pointCount_cons_cons (c d : Char) (more : List Char) :
    pointCount (c :: d :: more) = if c = mark then pointCount more + 1 else pointCount (d :: more) + 1 := by
  unfold pointCount
  rw [glyphs.eq_3]
  by_cases isMark : c = mark <;> simp [isMark]

/-! ## A held text -/

/-- The glyphs of held code points are their held forms. -/
theorem glyphs_flatMap_held {ps : List Nat} (valid : ∀ n ∈ ps, n < 0x110000) :
    glyphs (ps.flatMap held) = ps.map held := by
  induction ps with
  | nil => simp [glyphs.eq_1]
  | cons n ps ih =>
    simp only [List.mem_cons, forall_eq_or_imp] at valid
    rw [List.flatMap_cons, glyphs_held_append valid.1, ih valid.2, List.map_cons]

theorem points_flatMap_held {ps : List Nat} (valid : ∀ n ∈ ps, n < 0x110000) :
    points (ps.flatMap held) = ps := by
  have readBack : ∀ n ∈ ps, (glyphPoint ∘ held) n = id n := fun n mem => glyphPoint_held (valid n mem)
  rw [points, glyphs_flatMap_held valid, List.map_map, List.map_congr_left readBack, List.map_id]

theorem pointCount_flatMap_held {ps : List Nat} (valid : ∀ n ∈ ps, n < 0x110000) :
    pointCount (ps.flatMap held) = ps.length := by
  rw [pointCount, glyphs_flatMap_held valid, List.length_map]

@[simp]
theorem CodeText.points_chars (t : CodeText) : Text.points t.chars = t.points :=
  points_flatMap_held t.valid

@[simp]
theorem CodeText.pointCount_chars (t : CodeText) : pointCount t.chars = t.points.length :=
  pointCount_flatMap_held t.valid

/-! ## Lines -/

/-- Every member of a piece of a split list is a member of the list. -/
theorem mem_of_mem_splitOn {α : Type} [BEq α] {sep : α} :
    ∀ {xs piece : List α}, piece ∈ xs.splitOn sep → ∀ x ∈ piece, x ∈ xs
  | [], piece, split => by simp [List.splitOn_nil] at split; simp [split]
  | y :: ys, piece, split => by
    rw [List.splitOn_cons_eq_if_modifyHead] at split
    split at split
    · rcases List.mem_cons.1 split with rfl | split
      · simp
      · exact fun x mem => List.mem_cons_of_mem y (mem_of_mem_splitOn split x mem)
    · obtain ⟨first, more, pieces⟩ := List.exists_cons_of_ne_nil (List.splitOn_ne_nil sep ys)
      rw [pieces, List.modifyHead_cons] at split
      rcases List.mem_cons.1 split with rfl | split
      · intro x mem
        rcases List.mem_cons.1 mem with rfl | mem
        · exact List.mem_cons_self
        · exact List.mem_cons_of_mem y (mem_of_mem_splitOn (pieces ▸ List.mem_cons_self) x mem)
      · exact fun x mem => List.mem_cons_of_mem y (mem_of_mem_splitOn (pieces ▸ List.mem_cons_of_mem _ split) x mem)

/-- Characters with no separator among them join the first piece of what
follows. -/
theorem splitOn_append_of_not_mem {sep : Char} {xs : List Char} (rest : List Char) (none : sep ∉ xs) :
    (xs ++ rest).splitOn sep = (rest.splitOn sep).modifyHead (xs ++ ·) := by
  induction xs with
  | nil => exact (congrFun List.modifyHead_id _).symm
  | cons x xs ih =>
    simp only [List.mem_cons, not_or] at none
    rw [List.cons_append, List.splitOn_cons_eq_if_modifyHead,
      if_neg (by rw [beq_iff_eq]; exact fun same => none.1 same.symm), ih none.2]
    obtain ⟨first, more, pieces⟩ := List.exists_cons_of_ne_nil (List.splitOn_ne_nil sep rest)
    simp [pieces]

/-- Splitting held code points at line feeds splits the code points at line
feeds, piece by piece. -/
theorem splitOn_flatMap_held {ps : List Nat} (valid : ∀ n ∈ ps, n < 0x110000) :
    (ps.flatMap held).splitOn '\n' = (ps.splitOn 10).map (·.flatMap held) := by
  induction ps with
  | nil => simp
  | cons n ps ih =>
    simp only [List.mem_cons, forall_eq_or_imp] at valid
    rw [List.flatMap_cons, List.splitOn_cons_eq_if_modifyHead]
    by_cases feed : n = 10
    · subst feed
      simp [held_lineFeed, List.splitOn_cons_eq_if_modifyHead, ih valid.2]
    · rw [splitOn_append_of_not_mem _ (by rwa [lineFeed_mem_held valid.1]), ih valid.2,
        if_neg (by simpa using feed)]
      obtain ⟨first, more, pieces⟩ := List.exists_cons_of_ne_nil (List.splitOn_ne_nil 10 ps)
      simp [pieces]

theorem CodeText.splitOn_chars (t : CodeText) :
    t.chars.splitOn '\n' = (t.points.splitOn 10).map (·.flatMap held) :=
  splitOn_flatMap_held t.valid

/-- A line of a text, held, has as many code points as the line. -/
theorem CodeText.pointCount_line (t : CodeText) {line : List Nat} (mem : line ∈ t.points.splitOn 10) :
    pointCount (line.flatMap held) = line.length :=
  pointCount_flatMap_held (fun n within => t.valid n (mem_of_mem_splitOn mem n within))

/-! ## Held forms are a prefix code -/

theorem held_ne_nil (n : Nat) : held n ≠ [] := by
  unfold held
  split
  · simp
  · split <;> simp

/-- Held code points followed by more characters agree only when the code
points do: a one-character form never starts with the mark, and a
two-character form always does. -/
theorem held_append_inj {p q : Nat} (validP : p < 0x110000) (validQ : q < 0x110000) {xs ys : List Char}
    (same : held p ++ xs = held q ++ ys) : p = q ∧ xs = ys := by
  have forms : held p = held q ∧ xs = ys := by
    rcases held_cases validP with ⟨formP, notMarkP, -⟩ | ⟨d, formP⟩ <;>
      rcases held_cases validQ with ⟨formQ, notMarkQ, -⟩ | ⟨e, formQ⟩ <;>
      rw [formP, formQ] at same ⊢ <;> simp_all
  refine ⟨?_, forms.2⟩
  rw [← glyphPoint_held validP, ← glyphPoint_held validQ, forms.1]

/-- Held code points start with the held form of others exactly when those
are their first code points. -/
theorem flatMap_held_eq_append_iff {ps qs : List Nat} (validPs : ∀ n ∈ ps, n < 0x110000)
    (validQs : ∀ n ∈ qs, n < 0x110000) {r : List Char} :
    ps.flatMap held = qs.flatMap held ++ r ↔ ∃ rest, ps = qs ++ rest ∧ rest.flatMap held = r := by
  induction qs generalizing ps with
  | nil => simp
  | cons q qs ih =>
    simp only [List.mem_cons, forall_eq_or_imp] at validQs
    constructor
    · intro same
      cases ps with
      | nil =>
        rw [List.flatMap_nil, List.flatMap_cons, List.append_assoc, eq_comm, List.append_eq_nil_iff] at same
        exact absurd same.1 (held_ne_nil q)
      | cons p ps =>
        simp only [List.mem_cons, forall_eq_or_imp] at validPs
        rw [List.flatMap_cons, List.flatMap_cons, List.append_assoc] at same
        obtain ⟨rfl, tail⟩ := held_append_inj validPs.1 validQs.1 same
        obtain ⟨rest, rfl, restForm⟩ := (ih validPs.2 validQs.2).mp tail
        exact ⟨rest, rfl, restForm⟩
    · rintro ⟨rest, rfl, rfl⟩
      simp

/-- Held code points that hold a character below the surrogates, after
characters that do not include it, split at that character's code point. -/
theorem flatMap_held_eq_split {c : Char} (low : c.toNat < 0xD800) {ps : List Nat}
    (valid : ∀ n ∈ ps, n < 0x110000) {front back : List Char} (absent : c ∉ front)
    (same : ps.flatMap held = front ++ c :: back) :
    ∃ before after, ps = before ++ c.toNat :: after ∧ before.flatMap held = front ∧
      after.flatMap held = back := by
  induction ps generalizing front with
  | nil => simp at same
  | cons p ps ih =>
    simp only [List.mem_cons, forall_eq_or_imp] at valid
    rw [List.flatMap_cons] at same
    by_cases atC : p = c.toNat
    · subst atC
      rw [held_toNat_of_lt low] at same
      -- nothing stands before the character, as it is not among the front
      cases front with
      | nil => exact ⟨[], ps, rfl, rfl, (List.cons.inj same).2⟩
      | cons f front =>
        rw [List.singleton_append, List.cons_append, List.cons.injEq] at same
        exact absurd (same.1 ▸ List.mem_cons_self) absent
    · have notIn : c ∉ held p := fun mem => atC ((mem_held_iff low valid.1).mp mem)
      rcases List.append_eq_append_iff.mp same with ⟨mid, frontIs, tail⟩ | ⟨extra, formIs, backIs⟩
      · obtain ⟨before, after, rfl, beforeForm, afterForm⟩ :=
          ih valid.2 (fun mem => absent (frontIs ▸ List.mem_append_right _ mem)) tail
        exact ⟨p :: before, after, rfl, by rw [List.flatMap_cons, beforeForm, frontIs], afterForm⟩
      · cases extra with
        | nil =>
          rw [List.append_nil] at formIs
          obtain ⟨before, after, rfl, beforeForm, afterForm⟩ :=
            ih valid.2 (List.not_mem_nil) (by simpa using backIs.symm)
          exact ⟨p :: before, after, rfl, by rw [List.flatMap_cons, beforeForm, formIs, List.append_nil],
            afterForm⟩
        | cons e extra =>
          -- the held form of `p` would hold the character itself
          rw [List.cons_append, List.cons.injEq] at backIs
          exact absurd (formIs ▸ backIs.1 ▸ List.mem_append_right front List.mem_cons_self) notIn

end PageObjects.Text
