import Caddyfile.Position

/-!
# Places as counts

A scan moves its position one character at a time. `Position.behind` says where that leads without
a scan: it counts the line feeds of the text passed over, and the characters after the last of them.
-/

namespace Caddyfile

namespace Position

/-! ## The order of positions -/

theorem le_iff {p q : Position} :
    p ≤ q ↔ p.line < q.line ∨ p.line = q.line ∧ p.column ≤ q.column :=
  Iff.rfl

theorem lt_iff {p q : Position} :
    p < q ↔ p.line < q.line ∨ p.line = q.line ∧ p.column < q.column :=
  Iff.rfl

theorem le_refl (p : Position) : p ≤ p := by
  rw [le_iff]; omega

theorem le_trans {p q r : Position} (h₁ : p ≤ q) (h₂ : q ≤ r) : p ≤ r := by
  rw [le_iff] at *; omega

theorem lt_of_le_of_lt {p q r : Position} (h₁ : p ≤ q) (h₂ : q < r) : p < r := by
  rw [lt_iff, le_iff] at *; omega

theorem lt_of_lt_of_le {p q r : Position} (h₁ : p < q) (h₂ : q ≤ r) : p < r := by
  rw [lt_iff, le_iff] at *; omega

theorem lt_irrefl (p : Position) : ¬ p < p := by
  rw [lt_iff]; omega

theorem line_le_of_le {p q : Position} (h : p ≤ q) : p.line ≤ q.line := by
  rw [le_iff] at h; omega

/-! ## Moving over a text -/

@[simp] theorem after_nil (p : Position) : p.after [] = p := rfl

theorem after_cons (p : Position) (c : Char) (cs : List Char) :
    p.after (c :: cs) = (p.step c).after cs := rfl

theorem le_step (p : Position) (c : Char) : p ≤ p.step c := by
  unfold step
  split
  · exact Or.inl (Nat.lt_succ_self _)
  · split
    · exact le_refl p
    · exact Or.inr ⟨rfl, Nat.le_succ _⟩

theorem lt_step (p : Position) {c : Char} (h : c ≠ '\r') : p < p.step c := by
  unfold step
  split
  · exact Or.inl (Nat.lt_succ_self _)
  · exact Or.inr ⟨rfl, Nat.lt_succ_self _⟩

theorem le_after : ∀ (p : Position) (cs : List Char), p ≤ p.after cs
  | p, [] => le_refl p
  | p, c :: cs => le_trans (le_step p c) (le_after (p.step c) cs)

theorem after_line (p : Position) {line : List Char} (hfeed : '\n' ∉ line) (hreturn : '\r' ∉ line) :
    p.after line = ⟨p.line, p.column + line.length⟩ := by
  induction line generalizing p with
  | nil => rfl
  | cons c line ih =>
    have hc : c ≠ '\n' ∧ c ≠ '\r' := by
      constructor
      · exact fun e => hfeed (by simp [e])
      · exact fun e => hreturn (by simp [e])
    have hstep : p.step c = ⟨p.line, p.column + 1⟩ := by simp [step, hc]
    rw [after_cons, ih _ (fun h => hfeed (by simp [h])) (fun h => hreturn (by simp [h])), hstep,
      List.length_cons, Nat.add_assoc, Nat.add_comm 1]

theorem lt_after_cons (p : Position) {c : Char} (h : c ≠ '\r') (cs : List Char) :
    p < p.after (c :: cs) :=
  lt_of_lt_of_le (lt_step p h) (le_after _ cs)

/-! ## Counting -/

/-- The place right behind a text: as many lines down as the text has line feeds, and as many
columns in as it has characters other than carriage returns after the last of them. -/
def behind (cs : List Char) : Position :=
  ⟨cs.count '\n', (cs.reverse.takeWhile (· != '\n')).countP (· != '\r')⟩

@[simp] theorem behind_nil : behind [] = ⟨0, 0⟩ := rfl

theorem behind_snoc (cs : List Char) (c : Char) : behind (cs ++ [c]) = (behind cs).step c := by
  by_cases hn : c = '\n'
  · simp [behind, step, hn, List.count_append]
  · by_cases hr : c = '\r'
    · simp [behind, step, hr, List.count_append]
    · simp [behind, step, hn, hr, List.count_append]

theorem behind_append (u v : List Char) : behind (u ++ v) = (behind u).after v := by
  induction v generalizing u with
  | nil => simp
  | cons c v ih =>
    have h := ih (u ++ [c])
    rw [List.append_assoc, List.singleton_append, behind_snoc] at h
    rw [h, after_cons]

end Position

end Caddyfile
