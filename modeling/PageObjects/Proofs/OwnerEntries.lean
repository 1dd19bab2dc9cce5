import PageObjects.Editor.Diagnostic
import PageObjects.Proofs.HeldTexts

/-!
# The entry an owner names

A diagnostic stands at the entry of the element or method that owns its
error. The owner's text says which: it starts with `element '` or `method '`,
and the name runs from that apostrophe to the next one, so it is never empty
and holds no apostrophe (`OwnerNames`). The entry is the first place in the
document where `"name"`, blanks, a colon, blanks and the quoted name stand in
a row (`EntryAt`, `FirstEntryAt`), the blanks being the characters
`Text.isBlank` accepts.

`ownerOffset` finds exactly that entry, counted in code points, and nothing
for an owner that names no element or method (`ownerOffset_eq_some_iff`,
`ownerOffset_eq_none_iff`). The search runs on the held text, but every
character it looks for stands for itself there, held forms are a prefix code
(`Text.flatMap_held_eq_append_iff`), and the search steps over a held code
point whole (`firstOffset_held_append`): comparing held characters at the start
of each glyph compares code points (`startsWithNameEntry_held`,
`firstOffset_nameEntry`).

The owner of an element or method whose name holds an apostrophe names only
the part before the first one (`ownerNames_quoted_iff`): `element 'a'b'`
names `a`, and the entry `"name": "a'b"` is not found
(`apostrophe_name_entry_missed`).
-/

namespace PageObjects.Editor

open Text (CodeText held)

/-! ## Entries and owners -/

/-- The code points of the entry `"name": "<name>"`, with the blanks that
stand before and after its colon. -/
def nameEntry (name : List Nat) (before after : List Char) : List Nat :=
  ("\"name\"".toList ++ before ++ ':' :: after ++ ['"']).map Char.toNat ++ name ++ ['"'.toNat]

/-- An entry for `name` starts `k` code points into a text. -/
def EntryAt (source name : List Nat) (k : Nat) : Prop :=
  ∃ before after rest, (∀ c ∈ before ++ after, Text.isBlank c = true) ∧
    source.drop k = nameEntry name before after ++ rest

/-- The first entry for `name` in a text starts `k` code points into it. -/
def FirstEntryAt (source name : List Nat) (k : Nat) : Prop :=
  EntryAt source name k ∧ ∀ j < k, ¬ EntryAt source name j

/-- An owner names an element or a method called `name`: it starts with
`element '` or `method '`, then the name, not empty and with no apostrophe,
then an apostrophe. -/
def OwnerNames (owner name : List Nat) : Prop :=
  name ≠ [] ∧ '\''.toNat ∉ name ∧
    ∃ word ∈ ["element '", "method '"], ∃ rest, owner = word.toList.map Char.toNat ++ name ++ '\''.toNat :: rest

theorem nameEntry_ne_nil (name : List Nat) (before after : List Char) : nameEntry name before after ≠ [] := by
  unfold nameEntry
  exact List.append_ne_nil_of_right_ne_nil _ (List.cons_ne_nil _ _)

theorem EntryAt.lt_length {source name : List Nat} {k : Nat} (entry : EntryAt source name k) :
    k < source.length := by
  obtain ⟨before, after, rest, -, found⟩ := entry
  have : source.drop k ≠ [] := by
    rw [found]
    exact List.append_ne_nil_of_left_ne_nil (nameEntry_ne_nil name before after) rest
  rw [Ne, List.drop_eq_nil_iff] at this
  omega

/-- A text with an entry for a name has a first one. -/
theorem exists_firstEntryAt {source name : List Nat} (entry : ∃ k, EntryAt source name k) :
    ∃ k, FirstEntryAt source name k := by
  classical
  exact ⟨Nat.find entry, Nat.find_spec entry, fun j below => Nat.find_min entry below⟩

/-- Characters around valid code points hold valid code points. -/
theorem valid_between {cs : List Char} {name : List Nat} (validName : ∀ n ∈ name, n < 0x110000) (c : Char) :
    ∀ n ∈ cs.map Char.toNat ++ name ++ [c.toNat], n < 0x110000 := by
  intro n mem
  simp only [List.mem_append, List.mem_singleton] at mem
  rcases mem with (inChars | inName) | rfl
  · exact Text.valid_map_toNat cs n inChars
  · exact validName n inName
  · exact Text.toNat_lt_of_char c

/-- Every blank lies below the surrogates. -/
theorem toNat_lt_of_isBlank {c : Char} (blank : Text.isBlank c = true) : c.toNat < 0xD800 := by
  simp only [Text.isBlank, Bool.or_eq_true, decide_eq_true_eq, beq_iff_eq] at blank
  omega

/-! ## The entry test -/

/-- Dropping a run that passes a test leaves a character that fails it
exactly when that character ends the run. -/
theorem dropWhile_eq_cons_iff {α : Type} {p : α → Bool} {c : α} (stops : p c = false) {cs more : List α} :
    cs.dropWhile p = c :: more ↔ ∃ run, (∀ x ∈ run, p x = true) ∧ cs = run ++ c :: more := by
  constructor
  · intro dropped
    refine ⟨cs.takeWhile p, fun x mem => List.mem_takeWhile_imp mem, ?_⟩
    rw [← dropped, List.takeWhile_append_dropWhile]
  · rintro ⟨run, passes, rfl⟩
    rw [List.dropWhile_append_of_pos passes, List.dropWhile_cons_of_neg (by simp [stops])]

/-- Characters start with an entry for a name: the quoted key, blanks, a
colon, blanks and the quoted name. -/
theorem startsWithNameEntry_iff {name cs : List Char} :
    startsWithNameEntry name cs = true ↔ ∃ before after rest, (∀ c ∈ before ++ after, Text.isBlank c = true) ∧
      cs = "\"name\"".toList ++ before ++ ':' :: after ++ '"' :: name ++ '"' :: rest := by
  unfold startsWithNameEntry startsWithNameEntry.afterLiteral
  constructor
  · intro starts
    split at starts
    · rename_i rest afterKey
      split at afterKey
      · rename_i keyFirst
        cases afterKey
        split at starts
        · -- the key, a blank run up to the colon, and a blank run up to the quoted name
          rename_i more dropped
          obtain ⟨before, blankBefore, beforeColon⟩ := (dropWhile_eq_cons_iff (by decide)).mp dropped
          obtain ⟨tail, quoted⟩ := List.isPrefixOf_iff_prefix.mp starts
          simp only [List.cons_append, List.append_assoc] at quoted
          obtain ⟨after, blankAfter, afterColon⟩ := (dropWhile_eq_cons_iff (by decide)).mp quoted.symm
          refine ⟨before, after, tail, fun c mem => ?_, ?_⟩
          · rcases List.mem_append.mp mem with mem | mem
            · exact blankBefore c mem
            · exact blankAfter c mem
          · rw [← List.prefix_iff_eq_append.mp (List.isPrefixOf_iff_prefix.mp keyFirst), beforeColon, afterColon]
            simp only [List.cons_append, List.append_assoc, List.nil_append]
        · simp at starts
      · simp at afterKey
    · simp at starts
  · rintro ⟨before, after, rest, blank, rfl⟩
    simp only [List.mem_append] at blank
    simp only [List.cons_append, List.append_assoc]
    rw [if_pos (List.isPrefixOf_iff_prefix.mpr (List.prefix_append _ _)), List.drop_left]
    dsimp only
    -- each blank run is dropped up to the colon, then up to the opening quote
    rw [(dropWhile_eq_cons_iff (by decide)).mpr ⟨before, fun c mem => blank c (.inl mem), rfl⟩]
    simp only []
    rw [(dropWhile_eq_cons_iff (by decide)).mpr ⟨after, fun c mem => blank c (.inr mem), rfl⟩]
    exact List.isPrefixOf_iff_prefix.mpr ⟨rest, by simp⟩

/-- The characters of an entry: its key, blanks, colon and quotes stand for
themselves. -/
theorem flatMap_held_nameEntry (name : List Nat) {before after : List Char}
    (blank : ∀ c ∈ before ++ after, Text.isBlank c = true) :
    (nameEntry name before after).flatMap held =
      "\"name\"".toList ++ before ++ ':' :: after ++ '"' :: name.flatMap held ++ ['"'] := by
  have low : ∀ c ∈ "\"name\"".toList ++ before ++ ':' :: after ++ ['"'], c.toNat < 0xD800 := by
    intro c mem
    simp only [List.mem_append, List.mem_cons, List.not_mem_nil, or_false] at mem
    rcases mem with ((key | inBefore) | colon | inAfter) | quote
    · rw [show "\"name\"".toList = ['"', 'n', 'a', 'm', 'e', '"'] from rfl] at key
      simp only [List.mem_cons, List.not_mem_nil, or_false] at key
      rcases key with rfl | rfl | rfl | rfl | rfl | rfl <;> decide
    · exact toNat_lt_of_isBlank (blank c (List.mem_append_left _ inBefore))
    · subst colon
      decide
    · exact toNat_lt_of_isBlank (blank c (List.mem_append_right _ inAfter))
    · subst quote
      decide
  unfold nameEntry
  rw [List.flatMap_append, List.flatMap_append, Text.flatMap_held_map_toNat low, List.flatMap_singleton,
    @Text.held_toNat_of_lt '"' (by decide)]
  simp only [List.append_assoc, List.cons_append, List.nil_append]

/-- Held code points start with the held form of an entry exactly when the
code points start with the entry. -/
theorem startsWithNameEntry_held {name qs : List Nat} (validName : ∀ n ∈ name, n < 0x110000)
    (validQs : ∀ n ∈ qs, n < 0x110000) :
    startsWithNameEntry (name.flatMap held) (qs.flatMap held) = true ↔
      ∃ before after rest, (∀ c ∈ before ++ after, Text.isBlank c = true) ∧
        qs = nameEntry name before after ++ rest := by
  rw [startsWithNameEntry_iff]
  refine exists_congr fun before => exists_congr fun after => ⟨?_, ?_⟩
  · rintro ⟨rest, blank, same⟩
    have validEntry : ∀ n ∈ nameEntry name before after, n < 0x110000 := valid_between validName '"'
    rw [show "\"name\"".toList ++ before ++ ':' :: after ++ '"' :: name.flatMap held ++ '"' :: rest =
        (nameEntry name before after).flatMap held ++ rest by
      rw [flatMap_held_nameEntry name blank]
      simp only [List.append_assoc, List.cons_append, List.nil_append]] at same
    obtain ⟨rest', rfl, -⟩ := (Text.flatMap_held_eq_append_iff validQs validEntry).mp same
    exact ⟨rest', blank, rfl⟩
  · rintro ⟨rest, blank, rfl⟩
    refine ⟨rest.flatMap held, blank, ?_⟩
    rw [List.flatMap_append, flatMap_held_nameEntry name blank]
    simp only [List.append_assoc, List.cons_append, List.nil_append]

/-! ## The search, glyph by glyph -/

/-- The search tests the text from a held code point on, and if the test
fails steps over the code point whole. -/
theorem firstOffset_held_append (test : List Char → Bool) {n : Nat} (valid : n < 0x110000)
    (rest : List Char) (pos : Nat) :
    firstOffset test (held n ++ rest) pos =
      if test (held n ++ rest) then some pos else firstOffset test rest (pos + 1) := by
  rcases Text.held_cases valid with ⟨form, notMark, -⟩ | ⟨d, form⟩ <;>
    simp only [form, List.cons_append, List.nil_append]
  · cases rest with
    | nil => conv_lhs => unfold firstOffset
    | cons d more =>
      conv_lhs => unfold firstOffset
      simp only [beq_iff_eq, notMark, if_false]
  · conv_lhs => unfold firstOffset
    simp only [beq_self_eq_true, if_true]

/-- The search over a held text finds the first code point from which the
test holds of the rest, if there is one, counting code points from `pos`. -/
theorem firstOffset_flatMap_held (test : List Char → Bool) {ps : List Nat}
    (valid : ∀ n ∈ ps, n < 0x110000) (pos k : Nat) :
    firstOffset test (ps.flatMap held) pos = some k ↔
      ∃ j ≤ ps.length, k = pos + j ∧ test ((ps.drop j).flatMap held) = true ∧
        ∀ i < j, test ((ps.drop i).flatMap held) = false := by
  induction ps generalizing pos with
  | nil =>
    -- only the empty rest is tested
    rw [List.flatMap_nil, firstOffset]
    constructor
    · intro found
      split at found
      · rename_i holds
        exact ⟨0, le_refl 0, (Option.some.inj found).symm, by simpa using holds,
          fun i below => absurd below (by omega)⟩
      · simp at found
    · rintro ⟨j, within, rfl, holds, -⟩
      obtain rfl : j = 0 := by simpa using within
      simp_all
  | cons n ps ih =>
    simp only [List.mem_cons, forall_eq_or_imp] at valid
    rw [List.flatMap_cons, firstOffset_held_append test valid.1]
    split
    · -- the test holds at once
      rename_i holds
      constructor
      · rintro ⟨⟩
        exact ⟨0, by simp, rfl, by simpa using holds, fun i below => absurd below (by omega)⟩
      · rintro ⟨j, -, rfl, -, before⟩
        cases j with
        | zero => rfl
        | succ j =>
          have atFront := before 0 (by omega)
          rw [List.drop_zero, List.flatMap_cons, holds] at atFront
          exact absurd atFront (by decide)
    · rename_i fails
      rw [ih valid.2 (pos + 1)]
      constructor
      · rintro ⟨j, within, rfl, holds, before⟩
        refine ⟨j + 1, by simpa using within, by omega, by simpa using holds, fun i below => ?_⟩
        cases i with
        | zero => simpa using fails
        | succ i => simpa using before i (by omega)
      · rintro ⟨j, within, rfl, holds, before⟩
        cases j with
        | zero => exact absurd (by simpa using holds) fails
        | succ j =>
          exact ⟨j, by simpa using within, by omega, by simpa using holds,
            fun i below => by simpa using before (i + 1) (by omega)⟩

/-- Searching a held text for the held entry of a name finds the text's first
entry for the name. -/
theorem firstOffset_nameEntry (source : CodeText) {name : List Nat} (validName : ∀ n ∈ name, n < 0x110000)
    (k : Nat) :
    firstOffset (startsWithNameEntry (name.flatMap held)) source.chars 0 = some k ↔
      FirstEntryAt source.points name k := by
  have entryAt : ∀ j, startsWithNameEntry (name.flatMap held) ((source.points.drop j).flatMap held) = true ↔
      EntryAt source.points name j :=
    fun j => startsWithNameEntry_held validName fun n mem => source.valid n (List.mem_of_mem_drop mem)
  rw [CodeText.chars, firstOffset_flatMap_held _ source.valid]
  constructor
  · rintro ⟨j, -, rfl, holds, before⟩
    rw [Nat.zero_add]
    refine ⟨(entryAt j).mp holds, fun i below entry => ?_⟩
    have missed := before i below
    rw [(entryAt i).mpr entry] at missed
    exact absurd missed (by decide)
  · rintro ⟨entry, before⟩
    refine ⟨k, entry.lt_length.le, (Nat.zero_add k).symm, (entryAt k).mpr entry, fun i below => ?_⟩
    cases found : startsWithNameEntry (name.flatMap held) ((source.points.drop i).flatMap held) with
    | false => rfl
    | true => exact absurd ((entryAt i).mp found) (before i below)

/-! ## The name an owner quotes -/

/-- Both words that open an owner stand for themselves. -/
theorem toNat_lt_of_mem_ownerWord {word : String} (mem : word ∈ ["element '", "method '"]) :
    ∀ c ∈ word.toList, c.toNat < 0xD800 := by
  have low : (["element '", "method '"].all fun w => w.toList.all (·.toNat < 0xD800)) = true := by decide
  simp only [List.all_eq_true, decide_eq_true_eq] at low
  exact low word mem

/-- After its opening apostrophe, an owner's name runs to the next apostrophe,
which must follow at least one character. -/
theorem quotedName_eq_some_iff {rest : List Char} {m : String} :
    (if (!(rest.takeWhile (· != '\'')).isEmpty &&
          (rest.drop (rest.takeWhile (· != '\'')).length).head? == some '\'') = true then
        some (String.ofList (rest.takeWhile (· != '\'')))
      else none) = some m ↔
      ∃ name tail, name ≠ [] ∧ '\'' ∉ name ∧ rest = name ++ '\'' :: tail ∧ m = String.ofList name := by
  constructor
  · intro quoted
    split at quoted
    · rename_i closed
      simp only [Bool.and_eq_true, Bool.not_eq_true', List.isEmpty_eq_false_iff, beq_iff_eq,
        List.head?_eq_some_iff] at closed
      obtain ⟨nonempty, tail, after⟩ := closed
      refine ⟨_, tail, nonempty, fun mem => by simpa using List.mem_takeWhile_imp mem, ?_,
        (Option.some.inj quoted).symm⟩
      -- the name is the front of the text as long as itself
      have front : rest.take (rest.takeWhile (· != '\'')).length = rest.takeWhile (· != '\'') :=
        (List.prefix_iff_eq_take.mp (List.takeWhile_prefix _)).symm
      calc rest = rest.take (rest.takeWhile (· != '\'')).length ++ rest.drop (rest.takeWhile (· != '\'')).length :=
            (List.take_append_drop _ rest).symm
        _ = _ := by rw [front, after]
    · cases quoted
  · rintro ⟨name, tail, nonempty, absent, rfl, rfl⟩
    have passes : ∀ c ∈ name, (c != '\'') = true := fun c mem => by
      simpa using fun same : c = '\'' => absent (same ▸ mem)
    have taken : (name ++ '\'' :: tail).takeWhile (· != '\'') = name := by
      rw [List.takeWhile_append_of_pos passes, List.takeWhile_cons_of_neg (by simp), List.append_nil]
    rw [taken, List.drop_left, if_pos (by simpa using nonempty)]

/-- An owner's text names an element or a method: `element '` or `method '`,
a name that is not empty and has no apostrophe, then an apostrophe. -/
theorem ownerName?_eq_some_iff {owner : String} {m : String} :
    ownerName? owner = some m ↔ ∃ word ∈ ["element '", "method '"], ∃ name rest, name ≠ [] ∧
      '\'' ∉ name ∧ owner.toList = word.toList ++ name ++ '\'' :: rest ∧ m = String.ofList name := by
  unfold ownerName?
  dsimp only
  constructor
  · intro named
    split at named
    · rename_i rest opened
      obtain ⟨name, tail, nonempty, absent, restIs, rfl⟩ := quotedName_eq_some_iff.mp named
      split at opened
      · rename_i opens
        refine ⟨"element '", by simp, name, tail, nonempty, absent, ?_, rfl⟩
        have length : "element '".toList.length = 9 := rfl
        rw [← List.prefix_iff_eq_append.mp (List.isPrefixOf_iff_prefix.mp opens), length,
          Option.some.inj opened, restIs, List.append_assoc]
      · split at opened
        · rename_i _ opens
          refine ⟨"method '", by simp, name, tail, nonempty, absent, ?_, rfl⟩
          have length : "method '".toList.length = 8 := rfl
          rw [← List.prefix_iff_eq_append.mp (List.isPrefixOf_iff_prefix.mp opens), length,
            Option.some.inj opened, restIs, List.append_assoc]
        · cases opened
    · cases named
  · rintro ⟨word, mem, name, rest, nonempty, absent, ownerIs, rfl⟩
    simp only [List.mem_cons, List.not_mem_nil, or_false] at mem
    rcases mem with rfl | rfl
    · rw [ownerIs, if_pos (List.isPrefixOf_iff_prefix.mpr (by simp)), List.append_assoc]
      dsimp only
      rw [show ("element '".toList ++ (name ++ '\'' :: rest)).drop 9 = name ++ '\'' :: rest from
        List.drop_left' rfl]
      exact quotedName_eq_some_iff.mpr ⟨name, rest, nonempty, absent, rfl, rfl⟩
    · rw [ownerIs, if_neg (by simp [List.isPrefixOf]), if_pos (List.isPrefixOf_iff_prefix.mpr (by simp)),
        List.append_assoc]
      dsimp only
      rw [show ("method '".toList ++ (name ++ '\'' :: rest)).drop 8 = name ++ '\'' :: rest from
        List.drop_left' rfl]
      exact quotedName_eq_some_iff.mpr ⟨name, rest, nonempty, absent, rfl, rfl⟩

theorem OwnerNames.valid {owner name : List Nat} (owns : OwnerNames owner name)
    (valid : ∀ n ∈ owner, n < 0x110000) : ∀ n ∈ name, n < 0x110000 := by
  obtain ⟨-, -, word, -, rest, rfl⟩ := owns
  exact fun n mem => valid n (by simp [mem])

/-- The name a held owner quotes is held from the code points it quotes. -/
theorem ownerName?_held {ps : List Nat} (valid : ∀ n ∈ ps, n < 0x110000) {m : String} :
    ownerName? (String.ofList (ps.flatMap held)) = some m ↔
      ∃ name, OwnerNames ps name ∧ m = String.ofList (name.flatMap held) := by
  have apostrophe : held '\''.toNat = ['\''] := Text.held_toNat_of_lt (by decide)
  rw [ownerName?_eq_some_iff, String.toList_ofList]
  constructor
  · rintro ⟨word, mem, quoted, tail, nonempty, absent, same, rfl⟩
    have low := toNat_lt_of_mem_ownerWord mem
    -- the word stands for itself, so it opens the code points too
    rw [← Text.flatMap_held_map_toNat low, List.append_assoc] at same
    obtain ⟨after, rfl, afterForm⟩ :=
      (Text.flatMap_held_eq_append_iff valid (Text.valid_map_toNat word.toList)).mp same
    -- the name runs to the first apostrophe, held as itself
    obtain ⟨name, rest, rfl, nameForm, -⟩ :=
      Text.flatMap_held_eq_split (by decide) (fun n inAfter => valid n (by simp [inAfter])) absent afterForm
    refine ⟨name, ⟨?_, fun inName => absent ?_, word, mem, rest, by simp⟩, by rw [nameForm]⟩
    · rintro rfl
      exact nonempty (by simpa using nameForm.symm)
    · rw [← nameForm]
      exact List.mem_flatMap.mpr ⟨_, inName, by rw [apostrophe]; exact List.mem_singleton_self _⟩
  · rintro ⟨name, ⟨nonempty, absent, word, mem, rest, rfl⟩, rfl⟩
    have validName := fun n inName => valid n (List.mem_append_left _ (List.mem_append_right _ inName))
    refine ⟨word, mem, name.flatMap held, rest.flatMap held, ?_, fun inName => ?_, ?_, rfl⟩
    · obtain ⟨n, more, rfl⟩ := List.exists_cons_of_ne_nil nonempty
      simp [Text.held_ne_nil]
    · obtain ⟨n, inName, inHeld⟩ := List.mem_flatMap.mp inName
      exact absent ((Text.mem_held_iff (by decide) (validName n inName)).mp inHeld ▸ inName)
    · rw [List.flatMap_append, List.flatMap_append, Text.flatMap_held_map_toNat (toNat_lt_of_mem_ownerWord mem),
        List.flatMap_cons, apostrophe, List.singleton_append]

/-! ## Where a diagnostic's owner points -/

/-- An owner is looked up by the name it quotes; an empty owner quotes none. -/
theorem ownerOffset_some (source owner : String) :
    ownerOffset source (some owner) =
      (ownerName? owner).bind fun name => firstOffset (startsWithNameEntry name.toList) source.toList 0 := by
  unfold ownerOffset
  dsimp only
  split
  · rename_i empty
    rw [String.isEmpty_iff.mp empty]
    rfl
  · cases ownerName? owner <;> rfl

/-- The offset an owner points at is that of the first entry for the name it
quotes. -/
theorem ownerOffset_eq_some_iff (source owner : CodeText) (k : Nat) :
    ownerOffset source.text (some owner.text) = some k ↔
      ∃ name, OwnerNames owner.points name ∧ FirstEntryAt source.points name k := by
  rw [ownerOffset_some, Option.bind_eq_some_iff, CodeText.toList_text]
  constructor
  · rintro ⟨m, named, found⟩
    obtain ⟨name, owns, rfl⟩ := (ownerName?_held owner.valid).mp named
    rw [String.toList_ofList] at found
    exact ⟨name, owns, (firstOffset_nameEntry source (owns.valid owner.valid) k).mp found⟩
  · rintro ⟨name, owns, first⟩
    refine ⟨_, (ownerName?_held owner.valid).mpr ⟨name, owns, rfl⟩, ?_⟩
    rw [String.toList_ofList]
    exact (firstOffset_nameEntry source (owns.valid owner.valid) k).mpr first

/-- An owner points nowhere exactly when it quotes no name with an entry. -/
theorem ownerOffset_eq_none_iff (source owner : CodeText) :
    ownerOffset source.text (some owner.text) = none ↔
      ∀ name, OwnerNames owner.points name → ∀ k, ¬ EntryAt source.points name k := by
  rw [Option.eq_none_iff_forall_ne_some]
  simp only [ne_eq, ownerOffset_eq_some_iff, not_exists, not_and]
  constructor
  · intro nowhere name owns k entry
    obtain ⟨j, first⟩ := exists_firstEntryAt ⟨k, entry⟩
    exact nowhere j name owns first
  · intro none k name owns first
    exact none name owns k first.1

/-! ## The owner of an element or a method -/

/-- Taking a run up to a character that stops it ignores what follows. -/
theorem takeWhile_append_cons_of_stops {α : Type} {p : α → Bool} {a : α} (stops : p a = false)
    (xs ys : List α) : (xs ++ a :: ys).takeWhile p = xs.takeWhile p := by
  induction xs with
  | nil => simp [List.takeWhile_cons_of_neg, stops]
  | cons x xs ih =>
    cases passes : p x with
    | false => simp [List.takeWhile_cons_of_neg, passes]
    | true => rw [List.cons_append, List.takeWhile_cons_of_pos passes, List.takeWhile_cons_of_pos passes, ih]

/-- The owner of an element or a method quotes its name up to the first
apostrophe in it, and quotes nothing when the name is empty or starts with
one. -/
theorem ownerNames_quoted_iff {word : String} (kind : word = "element" ∨ word = "method")
    (name m : List Nat) :
    OwnerNames ((word ++ " '").toList.map Char.toNat ++ name ++ ['\''.toNat]) m ↔
      m ≠ [] ∧ m = name.takeWhile (· ≠ '\''.toNat) := by
  have opens : word ++ " '" ∈ ["element '", "method '"] := by
    rcases kind with rfl | rfl <;> simp
  constructor
  · rintro ⟨nonempty, absent, other, mem, rest, same⟩
    -- the two words differ in their first letter, so the owner opens with one of them only
    have sameWord : (word ++ " '").toList.map Char.toNat = other.toList.map Char.toNat := by
      simp only [List.mem_cons, List.not_mem_nil, or_false] at mem opens
      rcases opens with opens | opens <;> rcases mem with rfl | rfl <;> rw [opens] at same ⊢ <;>
        first | rfl | simp at same
    rw [sameWord, List.append_assoc, List.append_assoc] at same
    have quoted : name ++ ['\''.toNat] = m ++ '\''.toNat :: rest := List.append_cancel_left same
    have passes : ∀ n ∈ m, decide (n ≠ '\''.toNat) = true := fun n inM => by
      simpa using fun same : n = '\''.toNat => absent (same ▸ inM)
    refine ⟨nonempty, ?_⟩
    calc m = (m ++ '\''.toNat :: rest).takeWhile (· ≠ '\''.toNat) := by
          rw [List.takeWhile_append_of_pos passes, List.takeWhile_cons_of_neg (by simp), List.append_nil]
      _ = name.takeWhile (· ≠ '\''.toNat) := by
          rw [← quoted, takeWhile_append_cons_of_stops (by simp)]
  · rintro ⟨nonempty, rfl⟩
    -- the name, closed by an apostrophe, stops at its first one
    have stop : (name ++ ['\''.toNat]).dropWhile (· ≠ '\''.toNat) ≠ [] := by
      rw [Ne, List.dropWhile_eq_nil_iff]
      simp
    obtain ⟨d, rest, dropped⟩ := List.exists_cons_of_ne_nil stop
    have atStop : d = '\''.toNat := by
      have := List.head_dropWhile_not (· ≠ '\''.toNat) stop
      simp only [dropped, List.head_cons, decide_eq_false_iff_not, not_not] at this
      exact this
    subst atStop
    refine ⟨nonempty, fun inRun => by simpa using List.mem_takeWhile_imp inRun, word ++ " '", opens, rest, ?_⟩
    rw [List.append_assoc, List.append_assoc, ← dropped,
      ← @takeWhile_append_cons_of_stops _ _ '\''.toNat (by simp) name [], List.takeWhile_append_dropWhile]

/-- The owner of an element or a method is held from the word, the name and
the apostrophes. -/
theorem quotedOwner_text {word : String} (low : ∀ c ∈ (word ++ " '").toList, c.toNat < 0xD800)
    (name : CodeText) :
    word ++ " '" ++ name.text ++ "'" =
      String.ofList (((word ++ " '").toList.map Char.toNat ++ name.points ++ ['\''.toNat]).flatMap held) := by
  rw [← String.toList_inj, String.toList_ofList, String.toList_append, String.toList_append,
    CodeText.toList_text, List.flatMap_append, List.flatMap_append, Text.flatMap_held_map_toNat low,
    List.flatMap_singleton, Text.held_toNat_of_lt (by decide)]
  rfl

/-- The diagnostic of an element or a method points at the first entry for its
name, cut at the first apostrophe in it, and nowhere when the cut name is
empty or has no entry; an owner that names no element or method points
nowhere. -/
theorem owner_offset_first_name_entry (source name : CodeText) (word : String)
    (kind : word = "element" ∨ word = "method") (k : Nat) :
    (ownerOffset source.text (some (word ++ " '" ++ name.text ++ "'")) = some k ↔
        name.points.takeWhile (· ≠ '\''.toNat) ≠ [] ∧
          FirstEntryAt source.points (name.points.takeWhile (· ≠ '\''.toNat)) k) ∧
      (ownerOffset source.text (some (word ++ " '" ++ name.text ++ "'")) = none ↔
        name.points.takeWhile (· ≠ '\''.toNat) = [] ∨
          ∀ j, ¬ EntryAt source.points (name.points.takeWhile (· ≠ '\''.toNat)) j) ∧
      ∀ owner : CodeText, (∀ n, ¬ OwnerNames owner.points n) →
        ownerOffset source.text (some owner.text) = none := by
  have low : ∀ c ∈ (word ++ " '").toList, c.toNat < 0xD800 :=
    toNat_lt_of_mem_ownerWord (by rcases kind with rfl | rfl <;> simp)
  let owner : CodeText :=
    ⟨(word ++ " '").toList.map Char.toNat ++ name.points ++ ['\''.toNat], valid_between name.valid '\''⟩
  have quotes := ownerNames_quoted_iff kind name.points
  rw [show word ++ " '" ++ name.text ++ "'" = owner.text from quotedOwner_text low name]
  refine ⟨?_, ?_, fun other unnamed =>
    (ownerOffset_eq_none_iff source other).mpr fun n owns => absurd owns (unnamed n)⟩
  · rw [ownerOffset_eq_some_iff]
    constructor
    · rintro ⟨m, owns, first⟩
      obtain ⟨nonempty, rfl⟩ := (quotes m).mp owns
      exact ⟨nonempty, first⟩
    · rintro ⟨nonempty, first⟩
      exact ⟨_, (quotes _).mpr ⟨nonempty, rfl⟩, first⟩
  · rw [ownerOffset_eq_none_iff]
    constructor
    · intro nowhere
      by_cases empty : name.points.takeWhile (· ≠ '\''.toNat) = []
      · exact .inl empty
      · exact .inr (nowhere _ ((quotes _).mpr ⟨empty, rfl⟩))
    · rintro (empty | missing) m owns
      · obtain ⟨nonempty, rfl⟩ := (quotes m).mp owns
        exact absurd empty nonempty
      · obtain ⟨-, rfl⟩ := (quotes m).mp owns
        exact missing

/-- The owner `element 'x'y'` quotes `x`, and points at the entry
`"name": "x"`. -/
theorem apostrophe_owner_points_at_front :
    ("element" = "element" ∨ "element" = "method") ∧
      ownerOffset "\x7b\"name\": \"x\"\x7d" (some "element 'x'y'") = some 1 := by
  have found := (owner_offset_first_name_entry (CodeText.ofString "\x7b\"name\": \"x\"\x7d")
    (CodeText.ofString "x'y") "element" (.inl rfl) 1).1
  rw [@CodeText.text_ofString "\x7b\"name\": \"x\"\x7d" (by decide),
    @CodeText.text_ofString "x'y" (by decide)] at found
  refine ⟨.inl rfl, found.mpr ⟨by decide, ⟨[], [' '], [0x7d], by simp [Text.isBlank], by decide⟩, ?_⟩⟩
  -- no entry starts at the opening brace
  intro j below
  obtain rfl : j = 0 := by omega
  rintro ⟨before, after, rest, -, same⟩
  have heads := congrArg List.head? same
  unfold nameEntry at heads
  simp [CodeText.ofString] at heads

/-- A name with an apostrophe is cut at it: the owner `element 'a'b'` quotes
`a`, so the entry `"name": "a'b"`, one code point into the text, is not
found. -/
theorem apostrophe_name_entry_missed :
    ownerOffset "\x7b\"name\": \"a'b\"\x7d" (some ("element '" ++ "a'b" ++ "'")) = none ∧
      EntryAt (CodeText.ofString "\x7b\"name\": \"a'b\"\x7d").points (CodeText.ofString "a'b").points 1 := by
  exact ⟨by decide +kernel, [], [' '], [0x7d], by simp [Text.isBlank], by decide⟩

end PageObjects.Editor
