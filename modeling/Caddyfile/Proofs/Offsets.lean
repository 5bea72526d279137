import Caddyfile.Proofs.Indentation

/-!
# Positions and offsets

A position counts lines and columns, an offset counts characters, and only a position passes over
carriage returns. The two agree where every carriage return stands in front of a line feed: the
offset of the place behind a text is the length of that text (`offset_behind`).
-/

namespace Caddyfile

namespace Text

/-- Every carriage return stands in front of a line feed. -/
def returnsPaired : List Char → Bool
  | [] => true
  | c :: cs => (c != '\r' || cs.head? = some '\n') && returnsPaired cs

theorem returnsPaired_of_append {u v : List Char} (h : returnsPaired (u ++ v)) :
    returnsPaired v := by
  induction u with
  | nil => exact h
  | cons c u ih =>
    simp only [List.cons_append, returnsPaired, Bool.and_eq_true] at h
    exact ih h.2

/-- A carriage return on a line stands at its end, so that the line feed follows. -/
theorem return_not_mem {line rest : List Char} (h : returnsPaired (line ++ rest))
    (hfeed : '\n' ∉ line) (hend : line.getLast? = some '\r' → rest.head? ≠ some '\n') :
    '\r' ∉ line := by
  intro hmem
  obtain ⟨u, v, rfl⟩ := List.append_of_mem hmem
  rw [List.append_assoc] at h
  have hpaired := returnsPaired_of_append h
  have hhead : (v ++ rest).head? = some '\n' := by
    simpa [returnsPaired] using (Bool.and_eq_true_iff.mp hpaired).1
  cases v with
  | nil => exact hend (by simp) hhead
  | cons c v =>
    have hc : c = '\n' := by simpa using hhead
    exact hfeed (by simp [hc])

/-- A text is a number of whole lines and a part of one more. -/
theorem exists_lines (cs : List Char) : ∃ above line, cs = above ++ line ∧
    (above = [] ∨ above.getLast? = some '\n') ∧ '\n' ∉ line := by
  induction cs with
  | nil => exact ⟨[], [], rfl, .inl rfl, by simp⟩
  | cons c cs ih =>
    obtain ⟨above, line, rfl, habove, hline⟩ := ih
    by_cases hc : c = '\n'
    · refine ⟨c :: above, line, rfl, .inr ?_, hline⟩
      rcases habove with rfl | habove
      · simp [hc]
      · rw [List.getLast?_cons, habove]
        rfl
    · rcases habove with rfl | habove
      · refine ⟨[], c :: line, rfl, .inl rfl, ?_⟩
        simp [hline, Ne.symm hc]
      · refine ⟨c :: above, line, rfl, .inr ?_, hline⟩
        rw [List.getLast?_cons, habove]
        rfl

end Text

namespace Position

theorem behind_line {above line : List Char} (ha : above = [] ∨ above.getLast? = some '\n')
    (hfeed : '\n' ∉ line) (hreturn : '\r' ∉ line) :
    behind (above ++ line) = ⟨above.count '\n', line.length⟩ := by
  rw [behind_append, behind_lines ha, after_line _ hfeed hreturn, Nat.zero_add]

theorem offsetFrom_lines {above : List Char} (column : Nat) (cs : List Char)
    (h : above = [] ∨ above.getLast? = some '\n') :
    offsetFrom (above.count '\n') column (above ++ cs) = above.length + offsetFrom 0 column cs := by
  induction above with
  | nil => simp
  | cons c above ih =>
    have hlast : (c :: above).getLast? = some '\n' := h.resolve_left (by simp)
    by_cases hc : c = '\n'
    · have habove := (Text.feeds_of_cons hlast).imp_left And.left
      rw [List.cons_append, hc, List.count_cons_self, offsetFrom, if_pos rfl, ih habove,
        List.length_cons]
      omega
    · -- the line feed that ends this line is still to come
      have habove := (Text.feeds_of_cons hlast).resolve_left fun h => hc h.2
      obtain ⟨n, hn⟩ : ∃ n, above.count '\n' = n + 1 :=
        Nat.exists_eq_succ_of_ne_zero
          (Nat.pos_iff_ne_zero.mp (List.count_pos_iff.mpr (List.mem_of_getLast? habove)))
      have ih := ih (.inr habove)
      rw [hn] at ih
      rw [List.cons_append, List.count_cons_of_ne hc, hn, offsetFrom, if_neg hc, ih,
        List.length_cons]
      omega

theorem offsetFrom_line {line : List Char} (cs : List Char) (h : '\n' ∉ line) :
    offsetFrom 0 line.length (line ++ cs) = line.length := by
  induction line with
  | nil => cases cs <;> rfl
  | cons c line ih =>
    have hc : c ≠ '\n' := fun e => h (by simp [e])
    rw [List.cons_append, List.length_cons, offsetFrom, if_neg hc,
      ih fun hmem => h (List.mem_cons_of_mem c hmem)]

/-- The last character of `past` is not a carriage return that belongs to a line feed behind it. -/
theorem offset_behind {source : String} {past rest : List Char} (hs : source.toList = past ++ rest)
    (hpaired : Text.returnsPaired source.toList)
    (hend : past.getLast? = some '\r' → rest.head? ≠ some '\n') :
    (behind past).offset source = past.length := by
  obtain ⟨above, line, rfl, habove, hfeed⟩ := Text.exists_lines past
  rw [List.append_assoc] at hs
  have hreturn : '\r' ∉ line := by
    apply Text.return_not_mem (Text.returnsPaired_of_append (hs ▸ hpaired)) hfeed
    intro hlast
    apply hend
    rw [List.getLast?_append, hlast]
    rfl
  unfold offset
  rw [behind_line habove hfeed hreturn, hs, offsetFrom_lines _ _ habove, offsetFrom_line _ hfeed,
    List.length_append]

end Position

end Caddyfile
