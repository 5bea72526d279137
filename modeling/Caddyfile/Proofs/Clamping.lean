import Mathlib.Algebra.GroupWithZero.Nat
import Caddyfile.Proofs.Indentation

/-!
# Offsets line by line

An offset is found by walking over the text, once down to the line and once along it. Counted by
lines it is the lengths of the lines above, with a line feed each, and then the column, but never
more than the line is long (`offset_by_lines`). So a later position never has a smaller offset.
-/

namespace Caddyfile

theorem Text.lines_eq_splitOn (cs : List Char) : lines cs = cs.splitOn '\n' := by
  induction cs with
  | nil => rfl
  | cons c cs ih => simp [lines, List.splitOn_cons_eq_if_modifyHead, ih]

namespace Position

variable {line column : Nat} {cs row : List Char}

/-! ## The walk, counted by lines -/

theorem offsetFrom_of_row (h : (Text.lines cs)[line]? = some row) :
    offsetFrom line column cs =
      (((Text.lines cs).take line).map (·.length + 1)).sum + min column row.length := by
  induction cs generalizing line column row with
  | nil =>
    cases line with
    | zero =>
      obtain rfl : [] = row := by simpa [Text.lines] using h
      simp [offsetFrom]
    | succ line => simp [Text.lines] at h
  | cons c cs ih =>
    by_cases hc : c = '\n'
    · simp only [Text.lines, if_pos hc] at h ⊢
      cases line with
      | zero =>
        obtain rfl : [] = row := by simpa using h
        cases column <;> simp [offsetFrom, hc]
      | succ line =>
        have hline : (Text.lines cs)[line]? = some row := by simpa using h
        simp only [offsetFrom, if_pos hc, ih hline, List.take_succ_cons, List.map_cons, List.sum_cons,
          List.length_nil]
        omega
    · -- the character joins the first line of what follows
      obtain ⟨first, later, hlines⟩ := List.exists_cons_of_ne_nil (Text.lines_ne_nil cs)
      simp only [Text.lines, if_neg hc, hlines, List.modifyHead_cons] at h ih ⊢
      cases line with
      | zero =>
        obtain rfl : c :: first = row := by simpa using h
        cases column with
        | zero => simp [offsetFrom]
        | succ column =>
          have hfirst : offsetFrom 0 column cs = min column first.length := by
            rw [ih List.getElem?_cons_zero, List.take_zero, List.map_nil, List.sum_nil, Nat.zero_add]
          rw [offsetFrom, if_neg hc, hfirst, List.take_zero, List.map_nil, List.sum_nil,
            Nat.zero_add, List.length_cons, Nat.succ_min_succ]
      | succ line =>
        rw [offsetFrom, if_neg hc, ih h]
        simp only [List.take_succ_cons, List.map_cons, List.sum_cons, List.length_cons]
        omega

theorem offsetFrom_of_le (h : (Text.lines cs).length ≤ line) :
    offsetFrom line column cs = cs.length := by
  induction cs generalizing line with
  | nil => simp [offsetFrom]
  | cons c cs ih =>
    cases line with
    | zero => simp [Text.lines_ne_nil] at h
    | succ line =>
      rw [offsetFrom, List.length_cons, Nat.add_right_cancel_iff]
      by_cases hc : c = '\n'
      · simp only [Text.lines, if_pos hc, List.length_cons] at h ⊢
        exact ih (by omega)
      · simp only [Text.lines, if_neg hc, List.length_modifyHead] at h ⊢
        exact ih h

/-! ## Bounds and order -/

theorem offsetFrom_le_length (line column : Nat) (cs : List Char) :
    offsetFrom line column cs ≤ cs.length := by
  fun_induction offsetFrom line column cs with
  | case1 => exact Nat.le_refl _
  | case2 => exact Nat.zero_le _
  | case3 => exact Nat.zero_le _
  | case4 column c cs hc ih => exact Nat.succ_le_succ ih
  | case5 line column c cs ih => exact Nat.succ_le_succ ih

theorem offsetFrom_mono {line' column' : Nat} (cs : List Char)
    (h : line < line' ∨ line = line' ∧ column ≤ column') :
    offsetFrom line column cs ≤ offsetFrom line' column' cs := by
  induction cs generalizing line column line' column' with
  | nil => simp [offsetFrom]
  | cons c cs ih =>
    cases line with
    | zero =>
      cases column with
      | zero => simp [offsetFrom]
      | succ column =>
        by_cases hc : c = '\n'
        · simp [offsetFrom, hc]
        · cases line' with
          | zero =>
            obtain ⟨column', rfl⟩ : ∃ n, column' = n + 1 := ⟨column' - 1, by omega⟩
            simp only [offsetFrom, if_neg hc]
            exact Nat.succ_le_succ (ih (by omega))
          | succ line' =>
            simp only [offsetFrom, if_neg hc]
            exact Nat.succ_le_succ (ih (by omega))
    | succ line =>
      obtain ⟨line', rfl⟩ : ∃ n, line' = n + 1 := ⟨line' - 1, by omega⟩
      simp only [offsetFrom]
      apply Nat.succ_le_succ
      by_cases hc : c = '\n'
      · rw [if_pos hc, if_pos hc]
        exact ih (by omega)
      · rw [if_neg hc, if_neg hc]
        exact ih h

theorem offset_mono (source : String) {p q : Position} (h : p ≤ q) :
    p.offset source ≤ q.offset source :=
  offsetFrom_mono source.toList h

end Position

theorem Span.offsets_of_le (source : String) {s : Span} (h : s.start ≤ s.stop) :
    s.offsets source = (s.start.offset source, s.stop.offset source) := by
  unfold offsets
  rw [Nat.max_eq_left (Position.offset_mono source h)]

/-- The offset of a position that has a line is the length of the lines above it, line feeds
included, and the column as far as the line goes; below the last line it is the length of the text.
Offsets stay within the text and follow the order of positions, so that a span which does not end
before it starts has the offsets of its two ends. -/
theorem offset_by_lines (source : String) :
    (∀ (p : Position) (row : List Char), (source.toList.splitOn '\n')[p.line]? = some row →
      p.offset source = (((source.toList.splitOn '\n').take p.line).map (·.length + 1)).sum +
        min p.column row.length) ∧
    (∀ p : Position, (source.toList.splitOn '\n').length ≤ p.line →
      p.offset source = source.length) ∧
    (∀ p : Position, p.offset source ≤ source.length) ∧
    (∀ p q : Position, p ≤ q → p.offset source ≤ q.offset source) ∧
    ∀ s : Span, s.start ≤ s.stop →
      s.offsets source = (s.start.offset source, s.stop.offset source) := by
  rw [← Text.lines_eq_splitOn, ← String.length_toList]
  refine ⟨?_, ?_, ?_, ?_, ?_⟩
  · intro p row hrow
    exact Position.offsetFrom_of_row hrow
  · intro p hline
    exact Position.offsetFrom_of_le hline
  · intro p
    exact Position.offsetFrom_le_length p.line p.column source.toList
  · intro p q h
    exact Position.offset_mono source h
  · intro s h
    exact Span.offsets_of_le source h

end Caddyfile
