import Mathlib.Logic.Basic
import Caddyfile.Placeholder

/-!
# Braces that pair up

A brace counts unless a backslash stands right before it. The row of the braces that count says all
about the balance of a text: how many of each there are, in the whole row and in each front part of
it. A count that takes a backslash and the brace behind it in one move comes to the same result, and
never goes below zero on its way (`balance_by_marks`).
-/

namespace Caddyfile.Placeholder

def isBrace (c : Char) : Bool :=
  c = '{' || c = '}'

/-! ## The braces that count -/

/-- The braces of `cs` with no backslash right before them. Each character is looked at together with
the one before it; `before` is the one in front of `cs`. -/
def marksAfter (before : Option Char) (cs : List Char) : List Char :=
  (((before :: cs.map some).zip cs).filter fun p => isBrace p.2 && p.1 != some '\\').map Prod.snd

def marks (cs : List Char) : List Char :=
  marksAfter none cs

theorem marksAfter_cons (before : Option Char) (c : Char) (cs : List Char) :
    marksAfter before (c :: cs) =
      if isBrace c && before != some '\\' then c :: marksAfter (some c) cs
      else marksAfter (some c) cs := by
  rw [marksAfter, List.map_cons, List.zip_cons_cons, List.filter_cons]
  split <;> rfl

theorem marksAfter_append (before : Option Char) (u v : List Char) :
    marksAfter before (u ++ v) = marksAfter before u ++ marksAfter (u.getLast?.or before) v := by
  induction u generalizing before with
  | nil => rfl
  | cons c u ih =>
    have hlast : (c :: u).getLast?.or before = u.getLast?.or (some c) := by
      rw [List.getLast?_cons]
      cases u.getLast? <;> rfl
    rw [List.cons_append, marksAfter_cons, marksAfter_cons, ih, hlast]
    split <;> rfl

theorem marks_append (u v : List Char) : marks (u ++ v) = marks u ++ marksAfter u.getLast? v := by
  rw [marks, marksAfter_append, Option.or_none, marks]

theorem marks_snoc_brace {past : List Char} {c : Char} (hc : isBrace c)
    (h : past.getLast? ≠ some '\\') : marks (past ++ [c]) = marks past ++ [c] := by
  simp [marks_append, marksAfter, hc, h]

theorem marks_snoc_other {past : List Char} {c : Char} (hc : ¬ isBrace c) :
    marks (past ++ [c]) = marks past := by
  simp [marks_append, marksAfter, hc]

theorem marks_snoc_pair (past : List Char) (c : Char) :
    marks (past ++ ['\\', c]) = marks past := by
  simp [marks_append, marksAfter, isBrace]

/-! ## Rows of braces -/

@[simp] theorem count_closing_cons (ms : List Char) : ('{' :: ms).count '}' = ms.count '}' :=
  List.count_cons_of_ne (by decide)

@[simp] theorem count_opening_cons (ms : List Char) : ('}' :: ms).count '{' = ms.count '{' :=
  List.count_cons_of_ne (by decide)

/-- Some front part closes more than `depth` braces that it does not open. -/
def Overdrawn (depth : Nat) (ms : List Char) : Prop :=
  ∃ front, front <+: ms ∧ front.count '{' + depth < front.count '}'

variable {depth : Nat} {ms : List Char}

theorem not_overdrawn_nil (depth : Nat) : ¬ Overdrawn depth [] := by
  rintro ⟨front, hfront, hlt⟩
  simp [List.prefix_nil.mp hfront] at hlt

theorem overdrawn_opening : Overdrawn depth ('{' :: ms) ↔ Overdrawn (depth + 1) ms := by
  constructor
  · rintro ⟨front, hfront, hlt⟩
    rcases List.prefix_cons_iff.mp hfront with rfl | ⟨tail, rfl, htail⟩
    · simp at hlt
    · rw [List.count_cons_self, count_closing_cons] at hlt
      exact ⟨tail, htail, by omega⟩
  · rintro ⟨front, hfront, hlt⟩
    refine ⟨'{' :: front, by simpa using hfront, ?_⟩
    rw [List.count_cons_self, count_closing_cons]
    omega

theorem overdrawn_closing : Overdrawn (depth + 1) ('}' :: ms) ↔ Overdrawn depth ms := by
  constructor
  · rintro ⟨front, hfront, hlt⟩
    rcases List.prefix_cons_iff.mp hfront with rfl | ⟨tail, rfl, htail⟩
    · simp at hlt
    · rw [List.count_cons_self, count_opening_cons] at hlt
      exact ⟨tail, htail, by omega⟩
  · rintro ⟨front, hfront, hlt⟩
    refine ⟨'}' :: front, by simpa using hfront, ?_⟩
    rw [List.count_cons_self, count_opening_cons]
    omega

theorem count_le_of_not_overdrawn (h : ¬ Overdrawn depth ms) :
    ms.count '}' ≤ ms.count '{' + depth :=
  Nat.le_of_not_lt fun hlt => h ⟨ms, List.prefix_rfl, hlt⟩

theorem not_overdrawn_snoc {c : Char} (h : ¬ Overdrawn depth ms)
    (hc : (ms ++ [c]).count '}' ≤ (ms ++ [c]).count '{' + depth) :
    ¬ Overdrawn depth (ms ++ [c]) := by
  rintro ⟨front, hfront, hlt⟩
  rcases List.prefix_concat_iff.mp hfront with rfl | hfront
  · omega
  · exact h ⟨front, hfront, hlt⟩

/-- What the balance of a row of braces is, behind `depth` open ones. -/
def Judged (depth : Nat) (ms : List Char) : Balance → Prop
  | .unmatched => Overdrawn depth ms
  | .unclosed => ¬ Overdrawn depth ms ∧ ms.count '}' < ms.count '{' + depth
  | .balanced => ¬ Overdrawn depth ms ∧ ms.count '}' = ms.count '{' + depth

namespace Judged

variable {b b' : Balance}

theorem unique (h : Judged depth ms b) (h' : Judged depth ms b') : b = b' := by
  cases b with
  | unmatched =>
    cases b' with
    | unmatched => rfl
    | unclosed | balanced => exact absurd h h'.1
  | unclosed =>
    cases b' with
    | unmatched => exact absurd h' h.1
    | unclosed => rfl
    | balanced => exact absurd h'.2 (Nat.ne_of_lt h.2)
  | balanced =>
    cases b' with
    | unmatched => exact absurd h' h.1
    | unclosed => exact absurd h.2 (Nat.ne_of_lt h'.2)
    | balanced => rfl

theorem opening (h : Judged (depth + 1) ms b) : Judged depth ('{' :: ms) b := by
  cases b with
  | unmatched => exact overdrawn_opening.mpr h
  | unclosed | balanced =>
    refine ⟨overdrawn_opening.not.mpr h.1, ?_⟩
    have hcount := h.2
    rw [List.count_cons_self, count_closing_cons]
    omega

theorem closing (h : Judged depth ms b) : Judged (depth + 1) ('}' :: ms) b := by
  cases b with
  | unmatched => exact overdrawn_closing.mpr h
  | unclosed | balanced =>
    refine ⟨overdrawn_closing.not.mpr h.1, ?_⟩
    have hcount := h.2
    rw [List.count_cons_self, count_opening_cons]
    omega

end Judged

theorem judged_balanceFrom (depth : Nat) (before : Option Char) (cs : List Char) :
    Judged depth (marksAfter before cs) (balanceFrom depth (before = some '\\') cs) := by
  induction cs generalizing depth before with
  | nil =>
    have hnil : ¬ Overdrawn depth [] := not_overdrawn_nil depth
    show Judged depth [] (if depth = 0 then .balanced else .unclosed)
    split
    · exact ⟨hnil, by rw [List.count_nil, List.count_nil]; omega⟩
    · exact ⟨hnil, by rw [List.count_nil, List.count_nil]; omega⟩
  | cons c cs ih =>
    have hnext := ih depth (some c)
    rw [marksAfter_cons]
    -- an escaped character is passed over, be it a brace or not
    by_cases hbefore : before = some '\\'
    · simpa [balanceFrom, hbefore] using hnext
    by_cases hopen : c = '{'
    · subst hopen
      simpa [balanceFrom, hbefore, isBrace] using (ih (depth + 1) (some '{')).opening
    by_cases hclose : c = '}'
    · subst hclose
      cases depth with
      | zero =>
        have hover : Judged 0 ('}' :: marksAfter (some '}') cs) .unmatched :=
          ⟨['}'], by simp, by decide⟩
        simpa [balanceFrom, hbefore, isBrace] using hover
      | succ depth => simpa [balanceFrom, hbefore, isBrace] using (ih depth (some '}')).closing
    · simpa [balanceFrom, hopen, hclose, isBrace] using hnext

theorem judged_iff (text : String) (b : Balance) :
    balance text = b ↔ Judged 0 (marks text.toList) b := by
  have h : Judged 0 (marks text.toList) (balance text) := judged_balanceFrom 0 none text.toList
  exact ⟨fun e => e ▸ h, h.unique⟩

/-! ## Counting in pairs -/

/-- A count of open braces on its way through a text. It is an integer, so that nothing but its moves
keeps it from going below zero. -/
inductive Tally where
  | going (depth : Int) (rest : List Char)
  | done (b : Balance)
deriving DecidableEq, Repr

namespace Tally

/-- One move. A backslash and a brace behind it are taken together. -/
def step : Tally → Tally
  | going depth [] => done (if 0 < depth then .unclosed else .balanced)
  | going depth (c :: cs) =>
    if c = '\\' && cs.head?.any isBrace then going depth cs.tail
    else if c = '{' then going (depth + 1) cs
    else if c = '}' then
      if depth = 0 then done .unmatched else going (depth - 1) cs
    else going depth cs
  | done b => done b

def run (t : Tally) : Nat → Tally
  | 0 => t
  | n + 1 => t.step.run n

/-! ### What a move keeps -/

/-- The count behind `past`: the braces opened less the braces closed, and at no place in `past` were
more closed than opened. -/
structure Counted (past : List Char) (depth : Int) : Prop where
  depth_eq : depth = (marks past).count '{' - (marks past).count '}'
  not_overdrawn : ¬ Overdrawn 0 (marks past)

namespace Counted

variable {past : List Char} {depth : Int}

theorem nil : Counted [] 0 :=
  ⟨rfl, not_overdrawn_nil 0⟩

theorem nonneg (h : Counted past depth) : 0 ≤ depth := by
  have hle := count_le_of_not_overdrawn h.not_overdrawn
  have heq := h.depth_eq
  omega

theorem of_marks_eq {past' : List Char} (h : Counted past depth) (heq : marks past' = marks past) :
    Counted past' depth := by
  constructor
  · rw [heq, h.depth_eq]
  · rw [heq]
    exact h.not_overdrawn

theorem mark {c : Char} {depth' : Int} (h : Counted past depth) (hc : isBrace c)
    (hlast : past.getLast? ≠ some '\\') (hpos : 0 ≤ depth')
    (hdepth : depth' = depth + [c].count '{' - [c].count '}') : Counted (past ++ [c]) depth' := by
  have heq := h.depth_eq
  constructor
  · rw [marks_snoc_brace hc hlast, List.count_append, List.count_append]
    omega
  · rw [marks_snoc_brace hc hlast]
    refine not_overdrawn_snoc h.not_overdrawn ?_
    rw [List.count_append, List.count_append]
    omega

theorem opening (h : Counted past depth) (hlast : past.getLast? ≠ some '\\') :
    Counted (past ++ ['{']) (depth + 1) := by
  have hpos := h.nonneg
  exact h.mark rfl hlast (by omega) (by simp)

theorem closing (h : Counted past depth) (hlast : past.getLast? ≠ some '\\') (hne : depth ≠ 0) :
    Counted (past ++ ['}']) (depth - 1) := by
  have hpos := h.nonneg
  exact h.mark rfl hlast (by omega) (by simp)

theorem overdrawn (h : Counted past 0) (hlast : past.getLast? ≠ some '\\') (rest : List Char) :
    Overdrawn 0 (marks (past ++ ['}'] ++ rest)) := by
  have hmarks : marks (past ++ ['}']) = marks past ++ ['}'] := marks_snoc_brace rfl hlast
  have heq := h.depth_eq
  refine ⟨marks past ++ ['}'], ?_, ?_⟩
  · rw [marks_append, hmarks]
    exact List.prefix_append ..
  · rw [List.count_append, List.count_append, List.count_singleton_self, count_opening_cons,
      List.count_nil]
    omega

theorem judged (h : Counted past depth) :
    Judged 0 (marks past) (if 0 < depth then .unclosed else .balanced) := by
  have heq := h.depth_eq
  have hpos := h.nonneg
  split
  · exact ⟨h.not_overdrawn, by omega⟩
  · exact ⟨h.not_overdrawn, by omega⟩

end Counted

/-- The count is that of the part read so far, which does not end between a backslash and its brace.
The result is that of the whole text. -/
inductive Sound (cs : List Char) : Tally → Prop where
  | going {depth : Int} (past : List Char) {rest : List Char} (hcs : past ++ rest = cs)
    (hcount : Counted past depth)
    (hpair : past.getLast? = some '\\' → rest.head?.any isBrace = false) :
    Sound cs (going depth rest)
  | done {b : Balance} (hb : Judged 0 (marks cs) b) : Sound cs (done b)

namespace Sound

variable {cs : List Char}

theorem start (cs : List Char) : Sound cs (.going 0 cs) :=
  .going [] rfl .nil (by simp)

theorem snoc {past rest : List Char} {c : Char} {depth : Int} (hcs : past ++ [c] ++ rest = cs)
    (hcount : Counted (past ++ [c]) depth) (hc : c = '\\' → rest.head?.any isBrace = false) :
    Sound cs (.going depth rest) :=
  .going (past ++ [c]) hcs hcount fun hlast => hc (by simpa using hlast)

theorem step {t : Tally} (h : Sound cs t) : Sound cs t.step := by
  cases h with
  | done hb => exact .done hb
  | @going depth past rest hcs hcount hpair =>
    cases rest with
    | nil =>
      obtain rfl : past = cs := by simpa using hcs
      exact .done hcount.judged
    | cons c rest =>
      have hnext : past ++ [c] ++ rest = cs := by simpa using hcs
      -- a brace comes first only if no backslash does right before it
      have hlast : isBrace c → past.getLast? ≠ some '\\' := by
        intro hc hback
        simpa [hc] using hpair hback
      by_cases hesc : c = '\\' && rest.head?.any isBrace
      · rw [Tally.step, if_pos hesc]
        simp only [Bool.and_eq_true, decide_eq_true_eq, Option.any_eq_true] at hesc
        obtain ⟨rfl, d, hd, hbrace⟩ := hesc
        obtain ⟨rest, rfl⟩ := List.head?_eq_some_iff.mp hd
        have hbehind : past ++ ['\\'] ++ [d] ++ rest = cs := by simpa using hnext
        refine snoc hbehind (hcount.of_marks_eq ?_) ?_
        · simpa using marks_snoc_pair past d
        · rintro rfl
          cases hbrace
      rw [Tally.step, if_neg hesc]
      by_cases hopen : c = '{'
      · subst hopen
        exact snoc hnext (hcount.opening (hlast rfl)) fun h => absurd h (by decide)
      rw [if_neg hopen]
      by_cases hclose : c = '}'
      · subst hclose
        rw [if_pos rfl]
        split
        · subst depth
          exact .done (hnext ▸ hcount.overdrawn (hlast rfl) rest)
        · exact snoc hnext (hcount.closing (hlast rfl) ‹_›) fun h => absurd h (by decide)
      rw [if_neg hclose]
      have hc : ¬ isBrace c := by simp [isBrace, hopen, hclose]
      refine snoc hnext (hcount.of_marks_eq (marks_snoc_other hc)) ?_
      rintro rfl
      simpa using hesc

theorem run {t : Tally} (h : Sound cs t) (n : Nat) : Sound cs (t.run n) := by
  induction n generalizing t with
  | zero => exact h
  | succ n ih => exact ih h.step

end Sound

/-! ### The end of the count -/

/-- How many moves there are left at most. -/
def left : Tally → Nat
  | going _ rest => rest.length + 1
  | done _ => 0

theorem left_step (t : Tally) : t.step.left ≤ t.left - 1 := by
  cases t with
  | done b => exact Nat.le_refl 0
  | going depth rest =>
    cases rest with
    | nil => exact Nat.le_refl 0
    | cons c rest =>
      rw [step]
      repeat' split
      all_goals simp [left]

theorem left_run (t : Tally) (n : Nat) : (t.run n).left ≤ t.left - n := by
  induction n generalizing t with
  | zero => exact Nat.le_refl _
  | succ n ih =>
    have hstep := left_step t
    have hrun := ih t.step
    rw [run]
    omega

theorem exists_run_eq_done (t : Tally) : ∃ b, t.run t.left = done b := by
  have hleft := left_run t t.left
  cases hrun : t.run t.left with
  | done b => exact ⟨b, rfl⟩
  | going depth rest =>
    rw [hrun, Nat.sub_self] at hleft
    exact absurd hleft (Nat.not_succ_le_zero _)

end Tally

/-- The balance of a text is that of its braces that count. One is unmatched if in some front part of
the row more braces close than open. If there is no such part, the text is unclosed if more braces
open than close in the row, and balanced if they are equal in number. A count of open braces, with
escaped braces taken in pairs, comes to this result, and on its way it is the number of braces left
open and never negative. -/
theorem balance_by_marks (text : String) :
    (balance text = .unmatched ↔
      ∃ front, front <+: marks text.toList ∧ front.count '{' < front.count '}') ∧
    (balance text = .unclosed ↔
      (∀ front, front <+: marks text.toList → front.count '}' ≤ front.count '{') ∧
        (marks text.toList).count '}' < (marks text.toList).count '{') ∧
    (balance text = .balanced ↔
      (∀ front, front <+: marks text.toList → front.count '}' ≤ front.count '{') ∧
        (marks text.toList).count '}' = (marks text.toList).count '{') ∧
    (∃ n, (Tally.going 0 text.toList).run n = .done (balance text)) ∧
    ∀ n depth rest, (Tally.going 0 text.toList).run n = .going depth rest →
      0 ≤ depth ∧ ∃ past, past ++ rest = text.toList ∧
        depth = (marks past).count '{' - (marks past).count '}' := by
  have hover : ¬ Overdrawn 0 (marks text.toList) ↔
      ∀ front, front <+: marks text.toList → front.count '}' ≤ front.count '{' := by
    simp [Overdrawn]
  refine ⟨judged_iff text .unmatched, ?_, ?_, ?_, ?_⟩
  · rw [← hover]
    exact judged_iff text .unclosed
  · rw [← hover]
    exact judged_iff text .balanced
  · obtain ⟨b, hb⟩ := (Tally.going 0 text.toList).exists_run_eq_done
    have hsound := (Tally.Sound.start text.toList).run (Tally.going 0 text.toList).left
    rw [hb] at hsound
    cases hsound with
    | done hjudged => exact ⟨_, (judged_iff text b).mpr hjudged ▸ hb⟩
  · intro n depth rest hrun
    have hsound := (Tally.Sound.start text.toList).run n
    rw [hrun] at hsound
    cases hsound with
    | going past hcs hcount _ => exact ⟨hcount.nonneg, past, hcs, hcount.depth_eq⟩

end Caddyfile.Placeholder
