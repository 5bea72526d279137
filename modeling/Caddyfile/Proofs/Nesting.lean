import Caddyfile.Document.Reading
import Caddyfile.Proofs.Grouping

/-!
# Blocks nest line by line

The lines of a directive lie between those of the directive around it, and siblings follow one
another: one ends no later than the line where the next one starts. This is `Stacked`, and every
document that is read has it (`stacked_read`, `stacked_globals`).
-/

namespace Caddyfile

/-! ## Rows of lines -/

section
variable {α : Type} (first last : α → Nat)

/-- Things that follow one another from line `lo` to line `hi`. -/
def Row (hi : Nat) : Nat → List α → Prop
  | lo, [] => lo ≤ hi
  | lo, a :: as => lo ≤ first a ∧ first a ≤ last a ∧ Row hi (last a) as

variable {first last}

theorem Row.le {hi : Nat} : ∀ {lo : Nat} {as : List α}, Row first last hi lo as → lo ≤ hi
  | _, [], h => h
  | _, _ :: _, ⟨h₁, h₂, h₃⟩ => Nat.le_trans (Nat.le_trans h₁ h₂) h₃.le

theorem Row.weaken {lo lo' hi : Nat} {as : List α} (hl : lo' ≤ lo) (h : Row first last hi lo as) :
    Row first last hi lo' as := by
  cases as with
  | nil => exact Nat.le_trans hl h
  | cons a as => exact ⟨Nat.le_trans hl h.1, h.2⟩

theorem Row.append {mid hi : Nat} : ∀ {lo : Nat} {as bs : List α}, Row first last mid lo as →
    Row first last hi mid bs → Row first last hi lo (as ++ bs)
  | _, [], _, h, hb => hb.weaken h
  | _, _ :: _, _, ⟨h₁, h₂, h₃⟩, hb => ⟨h₁, h₂, h₃.append hb⟩

theorem Row.le_first {hi : Nat} : ∀ {lo : Nat} {as : List α}, Row first last hi lo as →
    ∀ a ∈ as, lo ≤ first a
  | _, b :: as, ⟨h₁, h₂, h₃⟩, a, ha => by
    rcases List.mem_cons.mp ha with rfl | ha
    · exact h₁
    · exact Nat.le_trans (Nat.le_trans h₁ h₂) (h₃.le_first a ha)

theorem Row.find?_of_mem {hi line : Nat} {a : α} (hlt : first a < line) (hgt : line < last a) :
    ∀ {lo : Nat} {as : List α}, Row first last hi lo as → a ∈ as →
    as.find? (fun b => first b < line && line < last b) = some a
  | _, b :: as, ⟨_, _, h⟩, ha => by
    rcases List.mem_cons.mp ha with rfl | ha
    · simp [hlt, hgt]
    · -- what comes before `a` has ended on the line where `a` starts
      have hb : last b ≤ first a := h.le_first a ha
      rw [List.find?_cons_of_neg (by simp; omega)]
      exact h.find?_of_mem hlt hgt ha

theorem Row.find?_eq_none {hi line : Nat} {a : α} (hline : first a = line) :
    ∀ {lo : Nat} {as : List α}, Row first last hi lo as → a ∈ as →
    as.find? (fun b => first b < line && line < last b) = none
  | _, b :: as, ⟨_, hb, h⟩, ha => by
    rcases List.mem_cons.mp ha with rfl | ha
    · rw [List.find?_cons_of_neg (by simp; omega), List.find?_eq_none]
      intro c hc
      have : last a ≤ first c := h.le_first c hc
      simp; omega
    · have hba : last b ≤ first a := h.le_first a ha
      rw [List.find?_cons_of_neg (by simp; omega)]
      exact h.find?_eq_none hline ha

theorem Row.first_le_last {lo hi : Nat} {as : List α} (h : Row first last hi lo as) :
    ∀ a ∈ as, first a ≤ last a := by
  induction as generalizing lo with
  | nil => simp
  | cons b as ih => exact List.forall_mem_cons.mpr ⟨h.2.1, ih h.2.2⟩

theorem Row.last_le {lo hi : Nat} {as : List α} (h : Row first last hi lo as) :
    ∀ a ∈ as, last a ≤ hi := by
  induction as generalizing lo with
  | nil => simp
  | cons b as ih => exact List.forall_mem_cons.mpr ⟨h.2.2.le, ih h.2.2⟩

theorem Row.pairwise {lo hi : Nat} {as : List α} (h : Row first last hi lo as) :
    as.Pairwise fun a b => last a ≤ first b := by
  induction as generalizing lo with
  | nil => exact .nil
  | cons b as ih => exact .cons h.2.2.le_first (ih h.2.2)

theorem Row.length_filter_le {lo hi : Nat} {as : List α} (h : Row first last hi lo as)
    (line : Nat) : (as.filter fun a => first a < line && line < last a).length ≤ 1 := by
  induction as generalizing lo with
  | nil => simp
  | cons a as ih =>
    obtain ⟨_, _, hrest⟩ := h
    by_cases ha : first a < line ∧ line < last a
    · have hnone : as.filter (fun b => first b < line && line < last b) = [] := by
        refine List.filter_eq_nil_iff.mpr fun b hb => ?_
        have hle : last a ≤ first b := hrest.le_first b hb
        simp only [Bool.and_eq_true, decide_eq_true_eq]
        omega
      simp [ha, hnone]
    · rw [List.filter_cons_of_neg (by simpa using ha)]
      exact ih hrest

end

/-! ## Stacked directives -/

/-- The words of a directive stand on its first line, and only a block takes it to another. -/
structure Directive.Formed (d : Directive) : Prop where
  name : d.name.isWord
  args : ∀ a ∈ d.args, a.isWord ∧ a.line = d.firstLine
  plain : d.opener = none → d.body = [] ∧ d.lastLine = d.firstLine
  block : ∀ o ∈ d.opener, o.kind = .opening ∧ d.firstLine ≤ o.line ∧ o.line ≤ d.lastLine

/-- Directives that follow one another from line `lo` to line `hi`, and so on inside their blocks. -/
inductive Stacked : Nat → Nat → List Directive → Prop where
  | mk {lo hi : Nat} {ds : List Directive}
    (row : Row Directive.firstLine Directive.lastLine hi lo ds)
    (formed : ∀ d ∈ ds, d.Formed)
    (inside : ∀ d ∈ ds, Stacked d.firstLine d.lastLine d.body) : Stacked lo hi ds

namespace Stacked

theorem row {lo hi : Nat} {ds : List Directive} : Stacked lo hi ds →
    Row Directive.firstLine Directive.lastLine hi lo ds
  | ⟨h, _, _⟩ => h

theorem formed {lo hi : Nat} {ds : List Directive} : Stacked lo hi ds → ∀ d ∈ ds, d.Formed
  | ⟨_, h, _⟩ => h

theorem inside {lo hi : Nat} {ds : List Directive} : Stacked lo hi ds →
    ∀ d ∈ ds, Stacked d.firstLine d.lastLine d.body
  | ⟨_, _, h⟩ => h

theorem nil {lo hi : Nat} (h : lo ≤ hi) : Stacked lo hi [] :=
  ⟨h, by simp, by simp⟩

theorem weaken {lo lo' hi : Nat} {ds : List Directive} (hl : lo' ≤ lo) (h : Stacked lo hi ds) :
    Stacked lo' hi ds :=
  ⟨h.row.weaken hl, h.formed, h.inside⟩

theorem append {lo mid hi : Nat} {ds es : List Directive} (hd : Stacked lo mid ds)
    (he : Stacked mid hi es) : Stacked lo hi (ds ++ es) :=
  ⟨hd.row.append he.row, List.forall_mem_append.mpr ⟨hd.formed, he.formed⟩,
    List.forall_mem_append.mpr ⟨hd.inside, he.inside⟩⟩

theorem cons {hi : Nat} {d : Directive} {ds : List Directive} (hf : d.Formed)
    (hl : d.firstLine ≤ d.lastLine) (hb : Stacked d.firstLine d.lastLine d.body)
    (hs : Stacked d.lastLine hi ds) : Stacked d.firstLine hi (d :: ds) :=
  ⟨⟨Nat.le_refl _, hl, hs.row⟩, List.forall_mem_cons.mpr ⟨hf, hs.formed⟩,
    List.forall_mem_cons.mpr ⟨hb, hs.inside⟩⟩

end Stacked

/-! ## Tokens between two lines -/

/-- The tokens of a forest lie from line `lo` to line `hi`. If a block is left open, `hi` is the
last line of the text. -/
structure Forest.Between (finish lo hi : Nat) (f : Forest) : Prop where
  sorted : f.tokens.Pairwise fun t u => t.line ≤ u.line
  low : ∀ t ∈ f.tokens, lo ≤ t.line
  high : ∀ t ∈ f.tokens, t.line ≤ hi
  le : lo ≤ hi
  last : f.Closed ∨ hi = finish

namespace Forest.Between

variable {finish lo hi : Nat}

theorem weaken {lo' : Nat} {f : Forest} (hl : lo' ≤ lo) (h : f.Between finish lo hi) :
    f.Between finish lo' hi :=
  ⟨h.sorted, fun t ht => Nat.le_trans hl (h.low t ht), h.high, Nat.le_trans hl h.le, h.last⟩

theorem of_word {t : Token} {rest : Forest} (h : (word t rest).Between finish lo hi) :
    lo ≤ t.line ∧ rest.Between finish t.line hi := by
  obtain ⟨ht, hs⟩ := List.pairwise_cons.mp h.sorted
  refine ⟨h.low t (by simp [tokens]), hs, ht, fun u hu => h.high u (by simp [tokens, hu]),
    h.high t (by simp [tokens]), ?_⟩
  exact h.last.imp (·.2) id

open Document in
theorem of_block {opener : Token} {inside rest : Forest} {closer : Option Token}
    (hf : (block opener inside closer rest).Grouped)
    (h : (block opener inside closer rest).Between finish lo hi) :
    lo ≤ opener.line ∧ inside.Between finish opener.line (closingLine finish closer) ∧
      rest.Between finish (closingLine finish closer) hi := by
  obtain ⟨ho, hs⟩ := List.pairwise_cons.mp h.sorted
  obtain ⟨hsi, hsr, hir⟩ := List.pairwise_append.mp hs
  have hlo := h.low opener (by simp [tokens])
  have hoi : ∀ t ∈ inside.tokens, opener.line ≤ t.line := fun t ht => ho t (by simp [ht])
  cases closer with
  | none =>
    obtain ⟨_, _, rfl⟩ := hf
    obtain rfl : hi = finish := h.last.resolve_left id
    refine ⟨hlo, ⟨hsi, hoi, ?_, h.high opener (by simp [tokens]), .inr rfl⟩, ?_⟩
    · exact fun t ht => h.high t (by simp [tokens, ht])
    · exact ⟨.nil, by simp [tokens], by simp [tokens], Nat.le_refl _, .inl trivial⟩
  | some closer =>
    obtain ⟨_, hi', _, _⟩ := hf
    obtain ⟨hcr, hsr⟩ := List.pairwise_cons.mp hsr
    refine ⟨hlo, ⟨hsi, hoi, ?_, ho closer (by simp), .inl hi'⟩, hsr, hcr, ?_, ?_, ?_⟩
    · exact fun t ht => hir t ht closer (by simp)
    · exact fun t ht => h.high t (by simp [tokens, ht])
    · exact h.high closer (by simp [tokens])
    · exact h.last.imp (·.2.2.2) id

/-- What stands before the first stray closing brace lies no lower than all that comes after it. -/
theorem of_split {f : Forest} {later : List (Token × Forest)} (hf : Split.GroupedFrom f later)
    (hle : lo ≤ finish)
    (hs : (Split.tokens ⟨f, later⟩).Pairwise fun t u => t.line ≤ u.line)
    (hb : ∀ t ∈ Split.tokens ⟨f, later⟩, lo ≤ t.line ∧ t.line ≤ finish) :
    ∃ mid, f.Between finish lo mid ∧ mid ≤ finish ∧
      ∀ p ∈ later, ∀ t ∈ p.1 :: p.2.tokens, mid ≤ t.line := by
  have hlow : ∀ t ∈ f.tokens, lo ≤ t.line ∧ t.line ≤ finish :=
    fun t ht => hb t (List.mem_append_left _ ht)
  cases later with
  | nil =>
    simp only [Split.tokens, List.flatMap_nil, List.append_nil] at hs
    exact ⟨finish, ⟨hs, fun t ht => (hlow t ht).1, fun t ht => (hlow t ht).2, hle, .inr rfl⟩,
      Nat.le_refl _, by simp⟩
  | cons p later =>
    obtain ⟨c, g⟩ := p
    obtain ⟨hsf, hsl, hcross⟩ := List.pairwise_append.mp hs
    obtain ⟨hcl, _⟩ := List.pairwise_cons.mp hsl
    have hc := hb c (by simp [Split.tokens])
    refine ⟨c.line, ⟨hsf, fun t ht => (hlow t ht).1, ?_, hc.1, .inl hf.1⟩, hc.2, ?_⟩
    · exact fun t ht => hcross t ht c (by simp)
    · intro q hq t ht
      have ht' : t ∈ ((c, g) :: later).flatMap fun p => p.1 :: p.2.tokens :=
        List.mem_flatMap.mpr ⟨q, hq, ht⟩
      rcases List.mem_cons.mp ht' with rfl | ht'
      · exact Nat.le_refl _
      · exact hcl t ht'

end Forest.Between

namespace Document

open Forest

/-! ## What is read is stacked -/

theorem stacked_settle {depth lo hi : Nat} {opener : Token} {closer : Option Token}
    {unclosed : Fault.Cause} {inside : Contents} (h : Stacked lo hi inside.directives) :
    Stacked lo hi (settle depth opener closer unclosed inside).directives := by
  unfold settle
  split
  · cases closer <;> exact h
  · exact .nil h.row.le

namespace Header

theorem formed_start {t : Token} (ht : t.isWord) : (plain ⟨t, []⟩).Formed :=
  ⟨ht, by simp [plain], fun _ => ⟨rfl, rfl⟩, by simp [plain]⟩

theorem formed_push {h : Header} {t : Token} (hh : h.plain.Formed) (ht : t.isWord)
    (ha : h.accepts t) : (h.push t).plain.Formed := by
  refine ⟨hh.name, List.forall_mem_append.mpr ⟨hh.args, ?_⟩, fun _ => ⟨rfl, rfl⟩, by simp [plain]⟩
  exact List.forall_mem_singleton.mpr ⟨ht, of_decide_eq_true ha⟩

theorem formed_withBlock {h : Header} {opener : Token} {last : Nat} (ds : List Directive)
    (hh : h.plain.Formed) (ho : opener.kind = .opening) (hlo : h.name.line ≤ opener.line)
    (hhi : opener.line ≤ last) : (h.withBlock opener ds last).Formed := by
  refine ⟨hh.name, hh.args, by simp [withBlock], ?_⟩
  intro o hmem
  obtain rfl : opener = o := Option.some.inj hmem
  exact ⟨ho, hlo, hhi⟩

end Header

theorem stacked_contents (finish depth : Nat) (pending : Option Header) (f : Forest) (lo hi : Nat)
    (hf : f.Grouped) (hb : f.Between finish lo hi)
    (hp : ∀ h ∈ pending, h.plain.Formed ∧ h.name.line = lo) :
    Stacked lo hi (contents finish depth pending f).directives := by
  fun_induction contents finish depth pending f generalizing lo hi with
  | case1 depth => exact .nil hb.le
  | case2 depth h =>
    obtain ⟨hh, rfl⟩ := hp h rfl
    exact .cons hh (Nat.le_refl _) (.nil (Nat.le_refl _)) (.nil hb.le)
  | case3 depth t rest ih =>
    obtain ⟨hlo, hrest⟩ := hb.of_word
    exact (ih t.line hi hf.2 hrest (by simp [Header.formed_start hf.1])).weaken hlo
  | case4 depth h t rest ha ih =>
    obtain ⟨hh, hline⟩ := hp h rfl
    obtain ⟨hlo, hrest⟩ := hb.of_word
    refine ih lo hi hf.2 (hrest.weaken hlo) ?_
    intro k hk
    obtain rfl := Option.some.inj hk
    exact ⟨Header.formed_push hh hf.1 ha, hline⟩
  | case5 depth h t rest ha ih =>
    obtain ⟨hh, rfl⟩ := hp h rfl
    obtain ⟨hlo, hrest⟩ := hb.of_word
    have := ih t.line hi hf.2 hrest (by simp [Header.formed_start hf.1])
    exact .cons hh (Nat.le_refl _) (.nil (Nat.le_refl _)) (this.weaken hlo)
  | case6 depth opener inside closer rest own stray ihi ihr =>
    obtain ⟨hlo, hin, hrest⟩ := hb.of_block hf
    have hown : Stacked _ _ own.directives :=
      stacked_settle (ihi _ _ hf.of_inside hin (by simp))
    exact (hown.weaken hlo).append (ihr _ _ hf.of_rest hrest (by simp))
  | case7 depth h opener inside closer rest own d ihi ihr =>
    obtain ⟨hh, rfl⟩ := hp h rfl
    obtain ⟨hlo, hin, hrest⟩ := hb.of_block hf
    have hown : Stacked _ _ own.directives :=
      stacked_settle (ihi _ _ hf.of_inside hin (by simp))
    have hd : d.Formed := Header.formed_withBlock own.directives hh hf.of_opener hlo hin.le
    exact .cons hd (Nat.le_trans hlo hin.le) (hown.weaken hlo) (ihr _ _ hf.of_rest hrest (by simp))

theorem stacked_topBlock {finish lo hi : Nat} {inside : Forest} (opener : Token)
    (closer : Option Token) (unclosed : Fault.Cause) (hf : inside.Grouped)
    (hb : inside.Between finish lo hi) :
    Stacked lo hi (topBlock finish opener inside closer unclosed).directives :=
  stacked_settle (stacked_contents finish 1 none inside lo hi hf hb (by simp))

structure SitesStacked (lo hi : Nat) (ss : List Site) : Prop where
  row : Row Site.firstLine Site.lastLine hi lo ss
  inside : ∀ s ∈ ss, Stacked s.firstLine s.lastLine s.directives

namespace SitesStacked

variable {lo mid hi : Nat}

theorem weaken {lo' : Nat} {ss : List Site} (hl : lo' ≤ lo) (h : SitesStacked lo hi ss) :
    SitesStacked lo' hi ss :=
  ⟨h.row.weaken hl, h.inside⟩

theorem append {ss us : List Site} (hs : SitesStacked lo mid ss) (hu : SitesStacked mid hi us) :
    SitesStacked lo hi (ss ++ us) := by
  refine ⟨hs.row.append hu.row, fun s h => ?_⟩
  rcases List.mem_append.mp h with h | h
  · exact hs.inside s h
  · exact hu.inside s h

theorem nil (h : lo ≤ hi) : SitesStacked lo hi [] :=
  ⟨h, by simp⟩

theorem singleton {address : Token} (others : List Token) {ds : List Directive}
    (hl : address.line ≤ hi) (hb : Stacked address.line hi ds) :
    SitesStacked address.line hi [⟨address, others, ds, hi⟩] :=
  ⟨⟨Nat.le_refl _, hl, Nat.le_refl _⟩, List.forall_mem_singleton.mpr hb⟩

theorem plain (h : Heading) : SitesStacked h.first.line h.first.line h.plain.sites :=
  singleton h.others (Nat.le_refl _) (.nil (Nat.le_refl _))

end SitesStacked

theorem stacked_stretch (finish : Nat) (pending : Option Heading) (f : Forest) (lo hi : Nat)
    (hf : f.Grouped) (hb : f.Between finish lo hi) (hp : ∀ h ∈ pending, h.first.line = lo) :
    SitesStacked lo hi (stretch finish pending f).sites := by
  fun_induction stretch finish pending f generalizing lo hi with
  | case1 => exact .nil hb.le
  | case2 h =>
    obtain rfl := hp h rfl
    exact (SitesStacked.plain h).append (.nil hb.le)
  | case3 t rest ih =>
    obtain ⟨hlo, hrest⟩ := hb.of_word
    exact (ih t.line hi hf.2 hrest (by simp [Heading.start])).weaken hlo
  | case4 h t rest ha ih =>
    obtain ⟨hlo, hrest⟩ := hb.of_word
    have hh := hp h rfl
    exact ih lo hi hf.2 (hrest.weaken hlo) (by simpa [Heading.push] using hh)
  | case5 h t rest ha ih =>
    obtain rfl := hp h rfl
    obtain ⟨hlo, hrest⟩ := hb.of_word
    have := ih t.line hi hf.2 hrest (by simp [Heading.start])
    exact (SitesStacked.plain h).append (this.weaken hlo)
  | case6 opener inside closer rest body ih =>
    obtain ⟨hlo, hin, hrest⟩ := hb.of_block hf
    exact (ih _ _ hf.of_rest hrest (by simp)).weaken (Nat.le_trans hlo hin.le)
  | case7 h opener inside closer rest body ih =>
    obtain rfl := hp h rfl
    obtain ⟨hlo, hin, hrest⟩ := hb.of_block hf
    have hbody : Stacked _ _ body.directives := stacked_topBlock _ _ _ hf.of_inside hin
    have hsite := SitesStacked.singleton h.others (Nat.le_trans hlo hin.le) (hbody.weaken hlo)
    exact hsite.append (ih _ _ hf.of_rest hrest (by simp))

theorem stacked_split (finish : Nat) : ∀ {lo : Nat} {f : Forest} {later : List (Token × Forest)},
    Split.GroupedFrom f later → lo ≤ finish →
    ((Split.tokens ⟨f, later⟩).Pairwise fun t u => t.line ≤ u.line) →
    (∀ t ∈ Split.tokens ⟨f, later⟩, lo ≤ t.line ∧ t.line ≤ finish) →
    SitesStacked lo finish
      ((stretch finish none f).sites ++ (laterStretches finish later).sites)
  | lo, f, [], hf, hle, hs, hb => by
    obtain ⟨mid, hbetween, hmid, _⟩ := Between.of_split hf hle hs hb
    exact (stacked_stretch finish none f lo mid hf hbetween (by simp)).append (.nil hmid)
  | lo, f, (c, g) :: later, hf, hle, hs, hb => by
    obtain ⟨mid, hbetween, hmid, hlow⟩ := Between.of_split hf hle hs hb
    have hsub : (Split.tokens ⟨g, later⟩).Sublist (Split.tokens ⟨f, (c, g) :: later⟩) :=
      (List.sublist_cons_self c _).trans (List.sublist_append_right _ _)
    have hlater := stacked_split finish hf.2.2 hmid (hs.sublist hsub) fun t ht => by
      refine ⟨?_, (hb t (hsub.subset ht)).2⟩
      rcases List.mem_append.mp ht with ht | ht
      · exact hlow (c, g) (by simp) t (List.mem_cons_of_mem c ht)
      · obtain ⟨p, hp, ht⟩ := List.mem_flatMap.mp ht
        exact hlow p (List.mem_cons_of_mem _ hp) t ht
    exact (stacked_stretch finish none f lo mid hf.grouped hbetween (by simp)).append hlater

/-- The sites start where the global options end. -/
theorem stacked_afterGlobals (finish : Nat) {opener : Token} {inside rest : Forest}
    {closer : Option Token} {later : List (Token × Forest)}
    (hf : Split.GroupedFrom (block opener inside closer rest) later)
    (hs : (Split.tokens ⟨block opener inside closer rest, later⟩).Pairwise
      fun t u => t.line ≤ u.line)
    (hb : ∀ t ∈ Split.tokens ⟨block opener inside closer rest, later⟩, t.line ≤ finish) :
    inside.Between finish opener.line (closingLine finish closer) ∧
      SitesStacked (closingLine finish closer) finish
        ((stretch finish none rest).sites ++ (laterStretches finish later).sites) := by
  obtain ⟨mid, hbetween, hmid, hlow⟩ :=
    Between.of_split hf (Nat.zero_le finish) hs fun t ht => ⟨Nat.zero_le _, hb t ht⟩
  obtain ⟨_, hin, hrest⟩ := hbetween.of_block hf.grouped
  have hsub : (Split.tokens ⟨rest, later⟩).Sublist
      (Split.tokens ⟨block opener inside closer rest, later⟩) := by
    refine List.Sublist.append ?_ (List.Sublist.refl _)
    exact ((List.sublist_append_right _ _).trans (List.sublist_append_right _ _)).cons _
  refine ⟨hin, ?_⟩
  refine stacked_split finish hf.of_rest (Nat.le_trans hrest.le hmid) (hs.sublist hsub) ?_
  intro t ht
  refine ⟨?_, hb t (hsub.subset ht)⟩
  rcases List.mem_append.mp ht with ht | ht
  · exact hrest.low t ht
  · obtain ⟨p, hp, ht⟩ := List.mem_flatMap.mp ht
    exact Nat.le_trans hrest.le (hlow p hp t ht)

section
variable {finish : Nat} {s : Split} (hs : s.Grouped)
  (hsort : s.tokens.Pairwise fun t u => t.line ≤ u.line) (hfin : ∀ t ∈ s.tokens, t.line ≤ finish)
include hs hsort hfin

theorem stacked_ofForest : SitesStacked 0 finish (ofForest finish s).document.sites := by
  obtain ⟨first, later⟩ := s
  cases first with
  | nil | word t rest =>
    exact stacked_split finish hs (Nat.zero_le _) hsort fun t ht => ⟨Nat.zero_le _, hfin t ht⟩
  | block opener inside closer rest =>
    exact (stacked_afterGlobals finish hs hsort hfin).2.weaken (Nat.zero_le _)

theorem stacked_globals_ofForest : ∀ g ∈ (ofForest finish s).document.globals,
    Stacked g.firstLine g.lastLine g.directives ∧
      SitesStacked g.lastLine finish (ofForest finish s).document.sites := by
  obtain ⟨first, later⟩ := s
  cases first with
  | nil | word t rest => simp [ofForest]
  | block opener inside closer rest =>
    intro g hg
    obtain rfl := Option.some.inj hg
    obtain ⟨hin, hsites⟩ := stacked_afterGlobals finish hs hsort hfin
    exact ⟨stacked_topBlock _ _ _ (Split.GroupedFrom.grouped hs).of_inside hin, hsites⟩

end

theorem exists_read_eq (source : String) : ∃ finish s, read source = ofForest finish s ∧ s.Grouped ∧
    (s.tokens.Pairwise fun t u => t.line ≤ u.line) ∧ (∀ t ∈ s.tokens, t.line ≤ finish) ∧
    finish ≤ source.toList.count '\n' := by
  obtain ⟨ws, e, hts, _, hgroup, hws⟩ := exists_ofTokens source
  have hlines : (tokens source).Pairwise fun t u => t.line ≤ u.line :=
    (tokens_pairwise source).imp fun h =>
      Position.line_le_of_le (Position.le_trans (Position.le_after _ _) h)
  rw [hts] at hlines
  obtain ⟨hsort, _, hlast⟩ := List.pairwise_append.mp hlines
  have hfinish : (tokens source).getLast?.elim 0 Token.line = e.line := by simp [hts]
  refine ⟨e.line, Forest.ofTokens ws, ?_, grouped_ofTokens ws, ?_, ?_, ?_⟩
  · rw [read, ofTokens, hfinish, hgroup]
  · rwa [hws]
  · rw [hws]
    exact fun t ht => hlast t ht e (by simp)
  · exact line_le_feeds (by simp [hts])

theorem stacked_read (source : String) :
    ∃ last, SitesStacked 0 last (read source).document.sites := by
  obtain ⟨finish, s, hread, hs, hsort, hfin, _⟩ := exists_read_eq source
  rw [hread]
  exact ⟨finish, stacked_ofForest hs hsort hfin⟩

theorem lastLine_le_feeds {source : String} {s : Site} (hs : s ∈ (read source).document.sites) :
    s.lastLine ≤ source.toList.count '\n' := by
  obtain ⟨finish, split, hread, hsplit, hsort, hfin, hend⟩ := exists_read_eq source
  rw [hread] at hs
  exact Nat.le_trans ((stacked_ofForest hsplit hsort hfin).row.last_le s hs) hend

theorem stacked_globals (source : String) : ∀ g ∈ (read source).document.globals,
    Stacked g.firstLine g.lastLine g.directives ∧
      ∃ last, SitesStacked g.lastLine last (read source).document.sites := by
  obtain ⟨finish, s, hread, hs, hsort, hfin, _⟩ := exists_read_eq source
  rw [hread]
  intro g hg
  obtain ⟨hown, hsites⟩ := stacked_globals_ofForest hs hsort hfin g hg
  exact ⟨hown, finish, hsites⟩

end Document

end Caddyfile
