import Mathlib.Data.List.Forall2
import Mathlib.Data.List.Perm.Basic
import Caddyfile.Proofs.Annotations

/-!
# Pairing expectations with errors

Each expectation takes the first error left that meets it. If that uses up both sides, they
correspond one to one, but a correspondence may be missed: an expectation may take an error that a
later one has no substitute for. Some order of the errors leads to success whenever a correspondence
exists, and every order does if expectations that share errors grow more lenient from one to the
next (`check_up_to_order`).
-/

namespace Caddyfile

namespace Caret

variable {e : Expectation} {o taken : Observed} {expected : List Expectation}
  {observed others : List Observed}

/-! ## Meeting an expectation -/

/-- The error lies on the marked columns, and its message has the label in it. -/
def Meets (e : Expectation) (o : Observed) : Prop :=
  o.span = e.span ∧ e.label.toList <:+: o.message.toList

theorem occursIn_iff (needle cs : List Char) : occursIn needle cs ↔ needle <:+: cs := by
  induction cs with
  | nil => simp [occursIn]
  | cons c cs ih => simp [occursIn, ih, List.infix_cons_iff]

theorem meets_iff : e.meets o ↔ Meets e o := by
  simp [Expectation.meets, Meets, occursIn_iff]

/-- The errors, put in some order, meet the expectations one by one. -/
def Corresponds (expected : List Expectation) (observed : List Observed) : Prop :=
  ∃ row, row.Perm observed ∧ List.Forall₂ Meets expected row

theorem Corresponds.perm (h : Corresponds expected observed) (hperm : observed.Perm others) :
    Corresponds expected others := by
  obtain ⟨row, hrow, hmeets⟩ := h
  exact ⟨row, hrow.trans hperm, hmeets⟩

/-! ## What a pairing finds -/

theorem pair_of_any (h : observed.any e.meets) :
    pair (e :: expected) observed = pair expected (observed.eraseP e.meets) := by
  rw [pair, if_pos h]

theorem exists_taken (h : observed.any e.meets) :
    ∃ taken, Meets e taken ∧ observed.Perm (taken :: observed.eraseP e.meets) := by
  obtain ⟨o, ho, hmeets⟩ := List.any_eq_true.mp h
  obtain ⟨taken, front, back, _, htaken, hobserved, herase⟩ :=
    List.exists_of_eraseP ho hmeets
  refine ⟨taken, meets_iff.mp htaken, ?_⟩
  rw [herase, hobserved]
  exact List.perm_middle

theorem corresponds_of_pair (h : pair expected observed = ([], [])) :
    Corresponds expected observed := by
  induction expected generalizing observed with
  | nil =>
    obtain rfl : observed = [] := (Prod.mk.inj h).2
    exact ⟨[], .refl _, .nil⟩
  | cons e expected ih =>
    by_cases hany : observed.any e.meets
    · rw [pair_of_any hany] at h
      obtain ⟨row, hrow, hmeets⟩ := ih h
      obtain ⟨taken, htaken, hperm⟩ := exists_taken hany
      exact ⟨taken :: row, (hrow.cons taken).trans hperm.symm, .cons htaken hmeets⟩
    · rw [pair, if_neg hany] at h
      cases (Prod.mk.inj h).1

/-- In the order of a correspondence, every expectation takes the first error there is. -/
theorem pair_of_forall₂ (h : List.Forall₂ Meets expected observed) :
    pair expected observed = ([], []) := by
  induction h with
  | nil => rfl
  | @cons e o expected observed hmeets _ ih =>
    have hhead : e.meets o := meets_iff.mpr hmeets
    rw [pair_of_any (by simp [hhead]), List.eraseP_cons_of_pos hhead, ih]

/-! ## Expectations from strict to lenient -/

/-- An expectation that shares an error with an earlier one is met by all errors that meet the
earlier one. -/
def Graded (expected : List Expectation) (observed : List Observed) : Prop :=
  expected.Pairwise fun e later => (∃ o ∈ observed, Meets e o ∧ Meets later o) →
    ∀ o ∈ observed, Meets e o → Meets later o

theorem Graded.subset (h : Graded expected observed) (hsub : others ⊆ observed) :
    Graded expected others := by
  refine List.Pairwise.imp ?_ h
  rintro e later hle ⟨o, ho, hboth⟩ other hother hmeets
  exact hle ⟨o, hsub ho, hboth⟩ other (hsub hother) hmeets

/-- An error meant for a later expectation may be taken for the first one, if the later one can do
with any error that meets the first. -/
theorem Corresponds.of_taken (h : Corresponds (e :: expected) observed)
    (hperm : observed.Perm (taken :: others))
    (hle : ∀ later ∈ expected, Meets later taken → ∀ o ∈ observed, Meets e o → Meets later o) :
    Corresponds expected others := by
  obtain ⟨_, hrow, hmeets⟩ := h
  cases hmeets with
  | @cons _ partner _ row hpartner hmeets =>
    have hsame : (partner :: row).Perm (taken :: others) := hrow.trans hperm
    by_cases heq : taken = partner
    · rw [heq] at hsame
      exact ⟨row, hsame.cons_inv, hmeets⟩
    · -- the two errors change places
      have hin : taken ∈ row :=
        (List.mem_cons.mp (hsame.mem_iff.mpr (by simp))).resolve_left heq
      obtain ⟨front, back, rfl⟩ := List.append_of_mem hin
      refine ⟨front ++ partner :: back, ?_, ?_⟩
      · apply List.Perm.cons_inv (a := taken)
        calc (taken :: (front ++ partner :: back)).Perm (taken :: partner :: (front ++ back)) :=
              List.perm_middle.cons taken
          _ |>.Perm (partner :: taken :: (front ++ back)) := .swap _ _ _
          _ |>.Perm (partner :: (front ++ taken :: back)) := List.perm_middle.symm.cons partner
          _ |>.Perm (taken :: others) := hsame
      · have hfront := List.forall₂_take_append expected front _ hmeets
        have hback := List.forall₂_drop_append expected front _ hmeets
        rw [← List.take_append_drop front.length expected] at hle ⊢
        refine List.rel_append hfront ?_
        generalize expected.drop front.length = tail at hle hback
        cases hback with
        | @cons later _ tail _ hlater hback =>
          have hmem : partner ∈ observed := hrow.mem_iff.mp (by simp)
          exact .cons (hle later (by simp) hlater partner hmem hpartner) hback

theorem pair_of_corresponds (hgraded : Graded expected observed)
    (h : Corresponds expected observed) : pair expected observed = ([], []) := by
  induction expected generalizing observed with
  | nil =>
    obtain ⟨row, hrow, hmeets⟩ := h
    obtain rfl := List.forall₂_nil_left_iff.mp hmeets
    rw [List.nil_perm.mp hrow]
    rfl
  | cons e expected ih =>
    have hany : observed.any e.meets := by
      obtain ⟨_, hrow, hmeets⟩ := h
      cases hmeets with
      | @cons _ partner _ _ hpartner _ =>
        exact List.any_eq_true.mpr ⟨partner, hrow.mem_iff.mp (by simp), meets_iff.mpr hpartner⟩
    obtain ⟨taken, htaken, hperm⟩ := exists_taken hany
    obtain ⟨hfirst, hlater⟩ := List.pairwise_cons.mp hgraded
    rw [pair_of_any hany]
    apply ih
    · exact Graded.subset hlater List.eraseP_subset
    · refine h.of_taken hperm fun later hin hmeets => ?_
      exact hfirst later hin ⟨taken, hperm.mem_iff.mpr (by simp), htaken, hmeets⟩

/-! ## Checking a text -/

theorem check_eq_ok_iff {annotated : String} (h : expectations annotated = .ok expected)
    (observed : List Observed) :
    check annotated observed = .ok () ↔ pair expected observed = ([], []) := by
  unfold check
  rw [h]
  cases hpair : pair expected observed with
  | mk missing unexpected =>
    cases missing with
    | nil => cases unexpected <;> simp [hpair]
    | cons e missing => simp [hpair]

theorem exists_expectations {annotated : String} (h : ¬ Floats (Text.rows annotated.toList)) :
    ∃ expected, expectations annotated = .ok expected := by
  cases hexp : expectations annotated with
  | error failure => exact absurd ((expectations_error_iff annotated).mp ⟨failure, hexp⟩) h
  | ok expected => exact ⟨expected, rfl⟩

/-- Where every annotation has a line above it, the check succeeds for some order of the errors just
if annotations and errors correspond one to one. If annotations that share an error stand in order
from strict to lenient, this holds of every order. -/
theorem check_up_to_order {annotated : String} (h : ¬ Floats (Text.rows annotated.toList)) :
    ∃ expected, expectations annotated = .ok expected ∧ ∀ observed,
      ((∃ order, order.Perm observed ∧ check annotated order = .ok ()) ↔
        Corresponds expected observed) ∧
      (Graded expected observed → ∀ order, order.Perm observed →
        (check annotated order = .ok () ↔ Corresponds expected observed)) := by
  obtain ⟨expected, hexp⟩ := exists_expectations h
  refine ⟨expected, hexp, fun observed => ?_⟩
  simp only [check_eq_ok_iff hexp]
  have hsound : ∀ order, order.Perm observed → pair expected order = ([], []) →
      Corresponds expected observed := by
    intro order hperm hpair
    exact (corresponds_of_pair hpair).perm hperm
  constructor
  · constructor
    · rintro ⟨order, hperm, hpair⟩
      exact hsound order hperm hpair
    · rintro ⟨row, hrow, hmeets⟩
      exact ⟨row, hrow, pair_of_forall₂ hmeets⟩
  · intro hgraded order hperm
    refine ⟨hsound order hperm, fun hcorr => ?_⟩
    exact pair_of_corresponds (hgraded.subset hperm.subset) (hcorr.perm hperm.symm)

/-- The stricter label stands first, so the errors may come in either order. -/
theorem check_strict_label_first :
    ¬ Floats (Text.rows "foo\n^^^ ab\n^^^ a\n".toList) ∧
      check "foo\n^^^ ab\n^^^ a\n"
        [⟨⟨⟨0, 0⟩, ⟨0, 3⟩⟩, "a"⟩, ⟨⟨⟨0, 0⟩, ⟨0, 3⟩⟩, "ab"⟩] = .ok () := by
  let strict : Expectation := ⟨⟨⟨0, 0⟩, ⟨0, 3⟩⟩, "ab"⟩
  let lenient : Expectation := ⟨⟨⟨0, 0⟩, ⟨0, 3⟩⟩, "a"⟩
  let short : Observed := ⟨⟨⟨0, 0⟩, ⟨0, 3⟩⟩, "a"⟩
  let long : Observed := ⟨⟨⟨0, 0⟩, ⟨0, 3⟩⟩, "ab"⟩
  have hexp : expectations "foo\n^^^ ab\n^^^ a\n" = .ok [strict, lenient] := by decide +kernel
  have hfloats : ¬ Floats (Text.rows "foo\n^^^ ab\n^^^ a\n".toList) := by
    rw [← expectations_error_iff, hexp]
    simp
  have hlabel : lenient.label.toList <:+: strict.label.toList := ⟨[], ['b'], by decide⟩
  have hgraded : Graded [strict, lenient] [long, short] := by
    apply List.pairwise_pair.mpr
    intro _ o _ hmeets
    exact ⟨hmeets.1, hlabel.trans hmeets.2⟩
  have hcorr : Corresponds [strict, lenient] [long, short] := by
    refine ⟨_, .refl _, .cons ?_ (.cons ?_ .nil)⟩
    · exact meets_iff.mp (by decide +kernel)
    · exact meets_iff.mp (by decide +kernel)
  obtain ⟨expected, hexp', hcheck⟩ := check_up_to_order hfloats
  obtain rfl : [strict, lenient] = expected := Except.ok.inj (hexp.symm.trans hexp')
  exact ⟨hfloats, ((hcheck _).2 hgraded _ (.swap ..)).mpr hcorr⟩

/-- With the more lenient label first, a correspondence is missed in one order of the errors and
found in the other. -/
theorem check_misses_correspondence :
    ¬ ∀ (annotated : String) (expected : List Expectation) (observed : List Observed),
      ¬ Floats (Text.rows annotated.toList) → expectations annotated = .ok expected →
        (check annotated observed = .ok () ↔ Corresponds expected observed) := by
  intro h
  let lenient : Expectation := ⟨⟨⟨0, 0⟩, ⟨0, 3⟩⟩, "a"⟩
  let strict : Expectation := ⟨⟨⟨0, 0⟩, ⟨0, 3⟩⟩, "ab"⟩
  let short : Observed := ⟨⟨⟨0, 0⟩, ⟨0, 3⟩⟩, "a"⟩
  let long : Observed := ⟨⟨⟨0, 0⟩, ⟨0, 3⟩⟩, "ab"⟩
  have hexp : expectations "foo\n^^^ a\n^^^ ab\n" = .ok [lenient, strict] := by decide +kernel
  have hfloats : ¬ Floats (Text.rows "foo\n^^^ a\n^^^ ab\n".toList) := by
    rw [← expectations_error_iff, hexp]
    simp
  have hfound : Corresponds [lenient, strict] [short, long] :=
    corresponds_of_pair (by decide +kernel)
  have hmissed : ¬ pair [lenient, strict] [long, short] = ([], []) := by decide +kernel
  have hiff := h _ _ [long, short] hfloats hexp
  rw [check_eq_ok_iff hexp] at hiff
  exact hmissed (hiff.mpr (hfound.perm (.swap ..)))

end Caret

end Caddyfile
