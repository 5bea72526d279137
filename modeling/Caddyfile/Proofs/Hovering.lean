import Caddyfile.Editor.Hover
import Caddyfile.Proofs.Indentation

/-!
# The word at the cursor

A line falls into words and what stands between them. The word at the cursor is the one that the
cursor is in or at an end of, from its first letter to its last, and there is none only if the
characters on both sides of the cursor belong to no word. So every place in a word, and the places at
its ends, lead to the same word and the same help (`word_touches_cursor`).
-/

namespace Caddyfile

/-! ## Runs of characters -/

theorem span_run {p : Char → Bool} {run rest : List Char} (hrun : ∀ c ∈ run, p c)
    (hrest : rest.head?.any p = false) :
    (run ++ rest).takeWhile p = run ∧ (run ++ rest).dropWhile p = rest := by
  rw [List.takeWhile_append_of_pos hrun, List.dropWhile_append_of_pos hrun]
  cases rest with
  | nil => simp
  | cons c rest =>
    have hc : p c = false := by simpa using hrest
    simp [hc]

theorem exists_run (p : Char → Bool) (cs : List Char) : ∃ run rest, cs = run ++ rest ∧
    (∀ c ∈ run, p c) ∧ rest.head?.any p = false := by
  refine ⟨cs.takeWhile p, cs.dropWhile p, List.takeWhile_append_dropWhile.symm, ?_, ?_⟩
  · exact List.all_eq_true.mp List.all_takeWhile
  · have hhead := List.head?_dropWhile_not p cs
    cases hrest : (cs.dropWhile p).head? with
    | none => rfl
    | some c => simpa [hrest] using hhead

theorem any_eq_false_iff (o : Option Char) (c : Char) :
    o.any (· = c) = false ↔ o ≠ some c := by
  cases o <;> simp

namespace Text

/-! ## Lines -/

/-- The text `line` is a whole line, without its line feed, and `i` lines come before it. -/
def IsRow (cs : List Char) (i : Nat) (line : List Char) : Prop :=
  ∃ above below, cs = above ++ (line ++ below) ∧ above.count '\n' = i ∧
    (above = [] ∨ above.getLast? = some '\n') ∧ '\n' ∉ line ∧ ∀ c ∈ below.head?, c = '\n'

/-- Such a line with all carriage returns at its end taken off. -/
def IsLine (cs : List Char) (i : Nat) (line : List Char) : Prop :=
  ∃ returns, IsRow cs i (line ++ returns) ∧ (∀ c ∈ returns, c = '\r') ∧ line.getLast? ≠ some '\r'

theorem length_lines (cs : List Char) : (lines cs).length = cs.count '\n' + 1 := by
  induction cs with
  | nil => rfl
  | cons c cs ih =>
    unfold lines
    split
    · rename_i hc
      simp [hc, ih]
    · rename_i hc
      simp [hc, ih]

theorem IsRow.cons {cs line : List Char} {i : Nat} (h : IsRow cs i line) {c : Char}
    (hc : c = '\n' ∨ 0 < i) : IsRow (c :: cs) (i + [c].count '\n') line := by
  obtain ⟨above, below, rfl, rfl, habove, hline, hbelow⟩ := h
  refine ⟨c :: above, below, rfl, ?_, .inr ?_, hline, hbelow⟩
  · rw [← List.singleton_append, List.count_append, Nat.add_comm]
  · rcases habove with rfl | hlast
    · obtain rfl : c = '\n' := hc.resolve_right (by simp)
      rfl
    · rw [List.getLast?_cons, hlast]
      rfl

theorem IsRow.extend {c : Char} {cs line : List Char} (h : IsRow cs 0 line) (hc : c ≠ '\n') :
    IsRow (c :: cs) 0 (c :: line) := by
  obtain ⟨above, below, rfl, hcount, habove, hline, hbelow⟩ := h
  obtain rfl : above = [] := by
    refine habove.resolve_right fun hlast => ?_
    exact List.count_eq_zero.mp hcount (List.mem_of_getLast? hlast)
  exact ⟨[], below, rfl, rfl, .inl rfl, by simp [hline, Ne.symm hc], hbelow⟩

theorem isRow_of_getElem? {cs line : List Char} {i : Nat} (h : (lines cs)[i]? = some line) :
    IsRow cs i line := by
  induction cs generalizing i line with
  | nil =>
    obtain ⟨rfl, rfl⟩ : i = 0 ∧ line = [] := by
      cases i with
      | zero => exact ⟨rfl, by simpa [lines] using h.symm⟩
      | succ i => simp [lines] at h
    exact ⟨[], [], rfl, rfl, .inl rfl, by simp, by simp⟩
  | cons c cs ih =>
    by_cases hc : c = '\n'
    · subst hc
      rw [lines, if_pos rfl] at h
      cases i with
      | zero =>
        obtain rfl : line = [] := by simpa using h.symm
        exact ⟨[], '\n' :: cs, rfl, rfl, .inl rfl, by simp, by simp⟩
      | succ i => exact (ih (by simpa using h)).cons (.inl rfl)
    · rw [lines, if_neg hc, List.getElem?_modifyHead] at h
      cases i with
      | zero =>
        obtain ⟨rest, hrest, rfl⟩ := Option.map_eq_some_iff.mp (by simpa using h)
        exact (ih hrest).extend hc
      | succ i =>
        have hrow := (ih (by simpa using h)).cons (c := c) (.inr (Nat.succ_pos i))
        rwa [List.count_singleton, if_neg (by simpa using hc), Nat.add_zero] at hrow

theorem getElem?_lines_eq_some_iff {cs line : List Char} {i : Nat} :
    (lines cs)[i]? = some line ↔ IsRow cs i line := by
  refine ⟨isRow_of_getElem?, ?_⟩
  rintro ⟨above, below, rfl, rfl, habove, hline, hbelow⟩
  have hhead : (lines below).head? = some [] := by
    cases below with
    | nil => rfl
    | cons c below =>
      obtain rfl := hbelow c rfl
      rfl
  have hrow := getElem?_lines_append_right (line ++ below) 0 habove
  rw [Nat.add_zero] at hrow
  rw [hrow, ← List.head?_eq_getElem?, head?_lines_append below hline, hhead]
  simp

end Text

namespace Editor

theorem lineAt?_eq_none_iff {source : String} {i : Nat} :
    lineAt? source i = none ↔ source.toList.count '\n' < i := by
  rw [lineAt?, Option.map_eq_none_iff, List.getElem?_eq_none_iff, Text.length_lines]
  rfl

theorem lineAt?_eq_some_iff {source : String} {i : Nat} {line : List Char} :
    lineAt? source i = some line ↔ Text.IsLine source.toList i line := by
  rw [lineAt?, Option.map_eq_some_iff]
  constructor
  · rintro ⟨row, hrow, rfl⟩
    obtain ⟨returns, line, hsplit, hreturns, hline⟩ := exists_run (· = '\r') row.reverse
    have hrow' : row = line.reverse ++ returns.reverse := by
      rw [← List.reverse_append, ← hsplit, List.reverse_reverse]
    rw [hsplit, (span_run hreturns hline).2]
    refine ⟨returns.reverse, ?_, by simpa using hreturns, ?_⟩
    · rw [← hrow']
      exact Text.getElem?_lines_eq_some_iff.mp hrow
    · rw [List.getLast?_reverse]
      exact (any_eq_false_iff _ _).mp hline
  · rintro ⟨returns, hrow, hreturns, hlast⟩
    have hdrop : (returns.reverse ++ line.reverse).dropWhile (· = '\r') = line.reverse := by
      refine (span_run ?_ ?_).2
      · simpa using hreturns
      · rw [List.head?_reverse]
        exact (any_eq_false_iff _ _).mpr hlast
    refine ⟨line ++ returns, Text.getElem?_lines_eq_some_iff.mpr hrow, ?_⟩
    rw [List.reverse_append, hdrop, List.reverse_reverse]

/-! ## Words on a line -/

/-- The word stands on the line `cs` in full: all of its characters are word characters, and the ones
before and behind it, where there are any, are not. -/
structure Word.Whole (cs : List Char) (w : Word) : Prop where
  first_lt_last : w.first < w.last
  last_le_length : w.last ≤ cs.length
  text_eq : w.text = (cs.take w.last).drop w.first
  word : ∀ c ∈ w.text, isWordChar c
  before : 0 < w.first → cs[w.first - 1]?.any isWordChar = false
  after : cs[w.last]?.any isWordChar = false

/-- The characters `left` and `right` of a cursor, up to the ends of the word that it touches. -/
structure Around (before left right after : List Char) : Prop where
  word : ∀ c ∈ left ++ right, isWordChar c
  before : before.getLast?.any isWordChar = false
  after : after.head?.any isWordChar = false

theorem exists_around (cs : List Char) {cursor : Nat} (h : cursor ≤ cs.length) :
    ∃ before left right after, cs = before ++ left ++ (right ++ after) ∧
      cursor = (before ++ left).length ∧ Around before left right after := by
  obtain ⟨left, before, htake, hleft, hbefore⟩ := exists_run isWordChar (cs.take cursor).reverse
  obtain ⟨right, after, hdrop, hright, hafter⟩ := exists_run isWordChar (cs.drop cursor)
  have hline : cs.take cursor = before.reverse ++ left.reverse := by
    rw [← List.reverse_append, ← htake, List.reverse_reverse]
  refine ⟨before.reverse, left.reverse, right, after, ?_, ?_, ?_, by simpa using hbefore, hafter⟩
  · rw [← hline, ← hdrop, List.take_append_drop]
  · rw [← hline, List.length_take, Nat.min_eq_left h]
  · exact List.forall_mem_append.mpr ⟨by simpa using hleft, hright⟩

theorem wordTouching_min (cs : List Char) (column : Nat) :
    wordTouching cs (min column cs.length) = wordTouching cs column := by
  simp [wordTouching]

namespace Around

variable {before left right after : List Char}

theorem wordTouching_eq (h : Around before left right after) :
    wordTouching (before ++ left ++ (right ++ after)) (before ++ left).length =
      if (left ++ right).isEmpty then none
      else some ⟨left ++ right, before.length, before.length + (left ++ right).length⟩ := by
  obtain ⟨hl, hr⟩ := List.forall_mem_append.mp h.word
  have hcursor : min (before ++ left).length (before ++ left ++ (right ++ after)).length =
      (before ++ left).length := by
    simp
  have hleft : ((before ++ left).reverse.takeWhile isWordChar).reverse = left := by
    rw [List.reverse_append, (span_run (by simpa using hl) (by simpa using h.before)).1,
      List.reverse_reverse]
  have hright : (right ++ after).takeWhile isWordChar = right := (span_run hr h.after).1
  rw [wordTouching, hcursor, List.take_left, List.drop_left, hleft, hright]
  simp [Nat.add_assoc]

/-- The cursor may move inside of the word. -/
theorem move (h : Around before left right after) {left' right' : List Char}
    (heq : left' ++ right' = left ++ right) : Around before left' right' after :=
  ⟨heq ▸ h.word, h.before, h.after⟩

theorem any_behind (h : Around before left right after) :
    (before ++ left ++ (right ++ after))[(before ++ left).length]?.any isWordChar =
      !right.isEmpty := by
  rw [List.getElem?_append_right (Nat.le_refl _), Nat.sub_self, ← List.head?_eq_getElem?]
  cases right with
  | nil => simpa using h.after
  | cons c right => simp [h.word c]

theorem any_front (h : Around before left right after) (hpos : 0 < (before ++ left).length) :
    (before ++ left ++ (right ++ after))[(before ++ left).length - 1]?.any isWordChar =
      !left.isEmpty := by
  rw [List.getElem?_append_left (by omega), ← List.getLast?_eq_getElem?]
  rw [List.getLast?_append]
  cases hlast : left.getLast? with
  | none =>
    obtain rfl := List.getLast?_eq_none_iff.mp hlast
    simpa using h.before
  | some c =>
    have hmem := List.mem_of_getLast? hlast
    simp [h.word c (List.mem_append_left _ hmem), List.ne_nil_of_mem hmem]

theorem whole (h : Around before left right after) (hne : ¬ (left ++ right).isEmpty) :
    Word.Whole (before ++ left ++ (right ++ after))
      ⟨left ++ right, before.length, before.length + (left ++ right).length⟩ := by
  have hpos : 0 < (left ++ right).length := List.length_pos_iff.mpr (by simpa using hne)
  have hsplit : before ++ left ++ (right ++ after) = before ++ (left ++ right) ++ after := by simp
  -- the cursor is put in front of the word, and then behind it
  have hfront : Around before [] (left ++ right) after := h.move rfl
  have hbehind : Around before (left ++ right) [] after := h.move (List.append_nil _)
  refine ⟨by simpa using hpos, ?_, ?_, h.word, ?_, ?_⟩
  · simp
  · rw [hsplit, ← List.length_append, List.take_left, List.drop_left]
  · intro hlt
    simpa using hfront.any_front (by simpa using hlt)
  · simpa using hbehind.any_behind

/-- Every place from the start of the word to its end leads to it. -/
theorem wordTouching_of_le (h : Around before left right after) (hne : ¬ (left ++ right).isEmpty)
    {column : Nat} (hfirst : before.length ≤ column)
    (hlast : column ≤ before.length + (left ++ right).length) :
    wordTouching (before ++ left ++ (right ++ after)) column =
      some ⟨left ++ right, before.length, before.length + (left ++ right).length⟩ := by
  obtain ⟨left', right', hword, hlength⟩ : ∃ left' right', left' ++ right' = left ++ right ∧
      left'.length = column - before.length := by
    refine ⟨_, _, List.take_append_drop (column - before.length) _, ?_⟩
    rw [List.length_take]
    omega
  have hline : before ++ left ++ (right ++ after) = before ++ left' ++ (right' ++ after) := by
    rw [List.append_assoc, ← List.append_assoc left, ← hword]
    simp
  have hcolumn : column = (before ++ left').length := by
    rw [List.length_append]
    omega
  rw [hline, hcolumn, (h.move hword).wordTouching_eq, hword, if_neg hne]

end Around

theorem wordTouching_eq_none_iff (cs : List Char) (column : Nat) :
    wordTouching cs column = none ↔
      (0 < min column cs.length →
        cs[min column cs.length - 1]?.any isWordChar = false) ∧
      cs[min column cs.length]?.any isWordChar = false := by
  obtain ⟨before, left, right, after, hline, hcursor, h⟩ :=
    exists_around cs (Nat.min_le_right column cs.length)
  rw [← wordTouching_min, hcursor]
  subst hline
  rw [h.wordTouching_eq, h.any_behind]
  constructor
  · intro hnone
    obtain ⟨rfl, rfl⟩ : left = [] ∧ right = [] := by simpa using hnone
    exact ⟨h.any_front, rfl⟩
  · rintro ⟨hfront, hright⟩
    have hleft : left = [] := by
      refine Decidable.byContradiction fun hne => ?_
      have hpos : 0 < (before ++ left).length := List.length_pos_iff.mpr (by simp [hne])
      have hany := h.any_front hpos
      rw [hfront hpos] at hany
      simp [hne] at hany
    rw [if_pos (by simpa [hleft] using hright)]

theorem whole_of_wordTouching {cs : List Char} {column : Nat} {w : Word}
    (h : wordTouching cs column = some w) : w.Whole cs ∧
      w.first ≤ min column cs.length ∧ min column cs.length ≤ w.last ∧
      ∀ other, w.first ≤ other → other ≤ w.last → wordTouching cs other = some w := by
  obtain ⟨before, left, right, after, hline, hcursor, haround⟩ :=
    exists_around cs (Nat.min_le_right column cs.length)
  rw [← wordTouching_min, hcursor] at h
  rw [hcursor]
  subst hline
  rw [haround.wordTouching_eq] at h
  split at h
  · cases h
  · rename_i hne
    obtain rfl := Option.some.inj h
    refine ⟨haround.whole hne, ?_, ?_, fun other => haround.wordTouching_of_le hne⟩
    · simp
    · simp

end Editor

open Editor

/-- There is no word at a position if its line does not exist, or if the characters on both sides of
it belong to no word; a column past the end of the line stands for that end. Otherwise the word
contains the position or ends there, and stands on the line in full. Every position from its start to
its end has the same word and the same help. -/
theorem word_touches_cursor (source : String) (p : Position) :
    (wordAt source p = none ↔ source.toList.count '\n' < p.line ∨
      ∃ cs, Text.IsLine source.toList p.line cs ∧
        (0 < min p.column cs.length →
          cs[min p.column cs.length - 1]?.any isWordChar = false) ∧
        cs[min p.column cs.length]?.any isWordChar = false) ∧
    ∀ w, wordAt source p = some w → ∃ cs, Text.IsLine source.toList p.line cs ∧
      w.Whole cs ∧ w.first ≤ min p.column cs.length ∧ min p.column cs.length ≤ w.last ∧
      ∀ column, w.first ≤ column → column ≤ w.last →
        wordAt source ⟨p.line, column⟩ = some w ∧
          hoverAt source ⟨p.line, column⟩ = hoverAt source p := by
  constructor
  · rw [wordAt, Option.bind_eq_none_iff, ← lineAt?_eq_none_iff]
    simp only [← lineAt?_eq_some_iff]
    cases lineAt? source p.line with
    | none => simp
    | some cs => simp [wordTouching_eq_none_iff]
  · intro w hw
    obtain ⟨cs, hline, htouch⟩ := Option.bind_eq_some_iff.mp hw
    obtain ⟨hwhole, hfirst, hlast, hsame⟩ := whole_of_wordTouching htouch
    refine ⟨cs, lineAt?_eq_some_iff.mp hline, hwhole, hfirst, hlast, ?_⟩
    intro column hle hge
    have hword : wordAt source ⟨p.line, column⟩ = some w := by
      rw [wordAt, hline]
      exact hsame column hle hge
    refine ⟨hword, ?_⟩
    rw [hoverAt, hoverAt, hword, hw]

end Caddyfile
