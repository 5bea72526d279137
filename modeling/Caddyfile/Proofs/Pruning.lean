import Caddyfile.Proofs.Braces

/-!
# Blocks that are passed over

`prune` empties every block that lies inside too many others. A document is read the same from the
pruned groups (`ofForest_prune`), so tokens that are pruned alike are read alike. Which tokens go
together in a block that is passed over is still decided by their braces: if these pair up, reading
goes on behind the block as if it were empty (`ofTokens_skipped`).
-/

namespace Caddyfile

/-- Whether a row closes `n` braces and every brace that it opens itself, and no others. -/
def closesFrom : Nat → List Token → Bool
  | n, [] => n = 0
  | n, t :: ts =>
    match t.kind with
    | .opening => closesFrom (n + 1) ts
    | .closing => 0 < n && closesFrom (n - 1) ts
    | .bare | .quoted | .finish => closesFrom n ts

/-- The braces of a row pair up. -/
def isBalanced (ts : List Token) : Bool :=
  closesFrom 0 ts

namespace Forest

/-- Empties the blocks inside too many others, in a block that lies inside `depth` blocks, itself
included. -/
def prune : Nat → Forest → Forest
  | _, nil => nil
  | depth, word t rest => word t (prune depth rest)
  | depth, block opener inside closer rest =>
    block opener (if depth < maxDepth then prune (depth + 1) inside else nil) closer
      (prune depth rest)

namespace Split

/-- Each stray closing brace leads out of one more block, as long as there is one. -/
def pruneLater : Nat → List (Token × Forest) → List (Token × Forest)
  | _, [] => []
  | depth, (closer, f) :: later => (closer, f.prune depth) :: pruneLater (depth - 1) later

/-- Prunes groups that start inside `depth` blocks. -/
def prune (depth : Nat) (s : Split) : Split :=
  ⟨s.first.prune depth, pruneLater (depth - 1) s.later⟩

end Split

end Forest

/-! ## Reading pruned groups -/

namespace Document

theorem settle_congr {depth : Nat} {inside inside' : Contents}
    (h : depth < maxDepth → inside = inside') (opener : Token) (closer : Option Token)
    (unclosed : Fault.Cause) :
    settle depth opener closer unclosed inside = settle depth opener closer unclosed inside' := by
  by_cases hlt : depth < maxDepth
  · rw [h hlt]
  · simp [settle, hlt]

theorem contents_prune (finish depth : Nat) (pending : Option Header) (f : Forest) :
    contents finish depth pending (f.prune depth) = contents finish depth pending f := by
  fun_induction contents finish depth pending f with
  | case1 | case2 => rfl
  | case3 depth t rest ih => rw [Forest.prune, contents, ih]
  | case4 depth h t rest ha ih => rw [Forest.prune, contents, if_pos ha, ih]
  | case5 depth h t rest ha ih => rw [Forest.prune, contents, if_neg ha, ih]
  | case6 depth opener inside closer rest own stray ihi ihr
  | case7 depth h opener inside closer rest own d ihi ihr =>
    rw [Forest.prune, contents, ihr, settle_congr]
    intro hlt
    rw [if_pos hlt, ihi]

theorem topBlock_prune (finish : Nat) (opener : Token) (inside : Forest) (closer : Option Token)
    (unclosed : Fault.Cause) :
    topBlock finish opener (if 0 < maxDepth then inside.prune 1 else .nil) closer unclosed =
      topBlock finish opener inside closer unclosed := by
  rw [if_pos (by decide), topBlock, contents_prune, topBlock]

theorem stretch_prune (finish : Nat) (pending : Option Heading) (f : Forest) :
    stretch finish pending (f.prune 0) = stretch finish pending f := by
  fun_induction stretch finish pending f with
  | case1 | case2 => rfl
  | case3 t rest ih => rw [Forest.prune, stretch, ih]
  | case4 h t rest ha ih => rw [Forest.prune, stretch, if_pos ha, ih]
  | case5 h t rest ha ih => rw [Forest.prune, stretch, if_neg ha, ih]
  | case6 opener inside closer rest body ih | case7 h opener inside closer rest body ih =>
    rw [Forest.prune, stretch, ih, topBlock_prune]

theorem laterStretches_prune (finish : Nat) (later : List (Token × Forest)) :
    laterStretches finish (Forest.Split.pruneLater 0 later) = laterStretches finish later := by
  induction later with
  | nil => rfl
  | cons p later ih =>
    simp only [Forest.Split.pruneLater, laterStretches, stretch_prune, Nat.zero_sub, ih]

theorem ofForest_prune (finish : Nat) (s : Forest.Split) :
    ofForest finish (s.prune 0) = ofForest finish s := by
  obtain ⟨first, later⟩ := s
  have hlater := laterStretches_prune finish later
  cases first with
  | nil => simp only [ofForest, Forest.Split.prune, Forest.prune, hlater]
  | word t rest =>
    have hfirst : stretch finish none (.word t (rest.prune 0)) =
        stretch finish none (.word t rest) := stretch_prune finish none (.word t rest)
    simp only [ofForest, Forest.Split.prune, Forest.prune, hlater, hfirst]
  | block opener inside closer rest =>
    simp only [ofForest, Forest.Split.prune, Forest.prune, hlater, stretch_prune]
    rw [topBlock_prune]

end Document

/-! ## Pruning token by token -/

namespace Forest

open Stack

theorem prune_cons_congr (stack : List Token) (t : Token) {s s' : Split}
    (h : s.prune (push stack t).length = s'.prune (push stack t).length) :
    (Split.cons t s).prune stack.length = (Split.cons t s').prune stack.length := by
  obtain ⟨first, later⟩ := s
  obtain ⟨first', later'⟩ := s'
  cases hk : t.kind with
  | bare | quoted | finish =>
    simp only [push, hk, Split.prune, Split.mk.injEq] at h
    simp [Split.cons, hk, Split.prune, prune, h]
  | closing =>
    simp only [push_closing hk, List.length_tail, Split.prune, Split.mk.injEq] at h
    simp [Split.cons, hk, Split.prune, Split.pruneLater, prune, h]
  | opening =>
    simp only [push_opening hk, List.length_cons, Split.prune, Split.mk.injEq,
      Nat.add_sub_cancel] at h
    obtain ⟨hfirst, hlater⟩ := h
    -- what is behind the first stray brace comes to lie behind the new block
    cases later with
    | nil =>
      cases later' with
      | nil => simp [Split.cons, hk, Split.prune, Split.pruneLater, prune, hfirst]
      | cons p' later' => simp [Split.pruneLater] at hlater
    | cons p later =>
      cases later' with
      | nil => simp [Split.pruneLater] at hlater
      | cons p' later' =>
        simp only [Split.pruneLater, List.cons.injEq, Prod.mk.injEq] at hlater
        obtain ⟨⟨hcloser, hrest⟩, hlater⟩ := hlater
        simp [Split.cons, hk, Split.prune, prune, hfirst, hcloser, hrest, hlater]

theorem prune_ofTokens_congr (before : List Token) {ts us : List Token} (stack : List Token)
    (h : (ofTokens ts).prune (after stack before).length =
      (ofTokens us).prune (after stack before).length) :
    (ofTokens (before ++ ts)).prune stack.length =
      (ofTokens (before ++ us)).prune stack.length := by
  induction before generalizing stack with
  | nil => exact h
  | cons t before ih =>
    rw [List.cons_append, List.cons_append, ofTokens_cons, ofTokens_cons]
    exact prune_cons_congr stack t (ih (push stack t) h)

/-- A row that closes `n` braces takes as many stray closing braces away from what follows. -/
theorem later_ofTokens_append {n : Nat} {ts : List Token} (h : closesFrom n ts)
    (us : List Token) : (ofTokens (ts ++ us)).later.drop n = (ofTokens us).later := by
  induction ts generalizing n with
  | nil =>
    obtain rfl : n = 0 := by simpa [closesFrom] using h
    rfl
  | cons t ts ih =>
    rw [List.cons_append, ofTokens_cons]
    cases hk : t.kind with
    | bare | quoted | finish =>
      simp only [closesFrom, hk] at h
      simpa [Split.cons, hk] using ih h
    | closing =>
      simp only [closesFrom, hk, Bool.and_eq_true, decide_eq_true_eq] at h
      obtain ⟨m, rfl⟩ := Nat.exists_eq_add_of_lt h.1
      simpa [Split.cons, hk] using ih h.2
    | opening =>
      simp only [closesFrom, hk] at h
      have ih := ih h
      cases hlater : (ofTokens (ts ++ us)).later with
      | nil => simpa [Split.cons, hk, hlater] using ih
      | cons p later => simpa [Split.cons, hk, hlater] using ih

/-- A block that is passed over is grouped as if it were empty. -/
theorem prune_ofTokens_skipped {opener closer : Token} {inside : List Token}
    (ho : opener.kind = .opening) (hc : closer.kind = .closing) (hi : isBalanced inside)
    (behind : List Token) :
    (ofTokens (opener :: (inside ++ closer :: behind))).prune maxDepth =
      (ofTokens (opener :: closer :: behind)).prune maxDepth := by
  have hbehind : (ofTokens (closer :: behind)).later =
      (closer, (ofTokens behind).first) :: (ofTokens behind).later := by
    simp [ofTokens_cons, Split.cons, hc]
  have hlater : (ofTokens (inside ++ closer :: behind)).later = _ :=
    (later_ofTokens_append hi (closer :: behind)).trans hbehind
  rw [ofTokens_cons, ofTokens_cons]
  simp [Split.cons, ho, hlater, hbehind, Split.prune, prune]

end Forest

/-- Where as many blocks are open as may be, the tokens between another opening brace and the brace
that closes it do not matter: neither the document nor its faults change if they are replaced. -/
theorem ofTokens_skipped {before behind inside inside' : List Token} {opener closer : Token}
    (ho : opener.kind = .opening) (hc : closer.kind = .closing)
    (hdepth : (Stack.after [] before).length = maxDepth) (hi : isBalanced inside)
    (hi' : isBalanced inside') :
    Document.ofTokens (before ++ opener :: (inside ++ closer :: behind)) =
      Document.ofTokens (before ++ opener :: (inside' ++ closer :: behind)) := by
  have hlast : ∀ ts : List Token, (before ++ opener :: (ts ++ closer :: behind)).getLast? =
      (closer :: behind).getLast? := by
    intro ts
    rw [← List.cons_append, ← List.append_assoc, List.getLast?_append, List.getLast?_cons]
    rfl
  have hgroups : (Forest.ofTokens (before ++ opener :: (inside ++ closer :: behind))).prune 0 =
      (Forest.ofTokens (before ++ opener :: (inside' ++ closer :: behind))).prune 0 := by
    apply Forest.prune_ofTokens_congr before []
    rw [hdepth, Forest.prune_ofTokens_skipped ho hc hi, Forest.prune_ofTokens_skipped ho hc hi']
  rw [Document.ofTokens, Document.ofTokens, hlast, hlast, ← Document.ofForest_prune, hgroups,
    Document.ofForest_prune]

theorem ofTokens_skipped_block :
    let before : List Token := (List.range 64).flatMap fun line =>
      [⟨.bare, "a", ⟨line, 0⟩⟩, ⟨.opening, "\x7b", ⟨line, 2⟩⟩]
    let opener : Token := ⟨.opening, "\x7b", ⟨64, 0⟩⟩
    let inside : List Token := [⟨.bare, "b", ⟨65, 0⟩⟩, ⟨.opening, "\x7b", ⟨65, 2⟩⟩,
      ⟨.closing, "\x7d", ⟨66, 0⟩⟩, ⟨.bare, "c", ⟨67, 0⟩⟩]
    let closer : Token := ⟨.closing, "\x7d", ⟨68, 0⟩⟩
    let behind : List Token := [⟨.bare, "d", ⟨69, 0⟩⟩, ⟨.finish, "", ⟨70, 0⟩⟩]
    (Stack.after [] before).length = maxDepth ∧ isBalanced inside ∧
      Document.ofTokens (before ++ opener :: (inside ++ closer :: behind)) =
        Document.ofTokens (before ++ opener :: closer :: behind) := by
  intro before opener inside closer behind
  have hdepth : (Stack.after [] before).length = maxDepth := by decide +kernel
  have hi : isBalanced inside := by decide
  exact ⟨hdepth, hi, @ofTokens_skipped before behind inside [] opener closer rfl rfl hdepth hi rfl⟩

end Caddyfile
