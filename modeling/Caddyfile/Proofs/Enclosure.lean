import Caddyfile.Proofs.Braces
import Caddyfile.Proofs.Paths

/-!
# Words and the braces around them

The stack of open braces tells what becomes of a word. It is left out of the document if a block
around it was reported as too deep, or if the outermost one was reported as stray; every other word
is kept, in the order of the text. Braces reported as stray further in do not count: a word belongs
to the directives whose braces are left once those are taken away (`words_read_eq`).
-/

namespace Caddyfile

namespace Directive

mutual

/-- The words of a directive, each with the braces of the directives around it, innermost first. -/
def placed (around : List Token) : Directive → List (List Token × Token)
  | ⟨name, args, opener, body, _⟩ =>
    (name :: args).map (around, ·) ++ placedOf (opener.toList ++ around) body

def placedOf (around : List Token) : List Directive → List (List Token × Token)
  | [] => []
  | d :: ds => placed around d ++ placedOf around ds

end

theorem placed_eq (around : List Token) (d : Directive) : d.placed around =
    (d.name :: d.args).map (around, ·) ++ placedOf (d.opener.toList ++ around) d.body := by
  cases d; rfl

theorem placedOf_append (around : List Token) : ∀ ds es : List Directive,
    placedOf around (ds ++ es) = placedOf around ds ++ placedOf around es
  | [], _ => rfl
  | d :: ds, es => by
    rw [List.cons_append, placedOf, placedOf_append around ds es, placedOf, List.append_assoc]

mutual

theorem map_snd_placed (around : List Token) : ∀ d : Directive,
    (d.placed around).map Prod.snd = d.words
  | ⟨name, args, opener, body, lastLine⟩ => by
    have hbody := map_snd_placedOf (opener.toList ++ around) body
    simp [placed, words, hbody, Function.comp_def]

theorem map_snd_placedOf (around : List Token) : ∀ ds : List Directive,
    (placedOf around ds).map Prod.snd = wordsOf ds
  | [] => rfl
  | d :: ds => by
    rw [placedOf, List.map_append, map_snd_placed around d, map_snd_placedOf around ds, wordsOf]

end

end Directive

def Site.placed (s : Site) : List (List Token × Token) :=
  s.addresses.map ([], ·) ++ Directive.placedOf [] s.directives

/-- The words of a document in order, each with the braces of the directives around it. -/
def Document.placed (d : Document) : List (List Token × Token) :=
  d.globals.elim [] (fun g => Directive.placedOf [] g.directives) ++ d.sites.flatMap Site.placed

theorem Site.map_snd_placed (s : Site) : s.placed.map Prod.snd = s.words := by
  simp [placed, words, Directive.map_snd_placedOf, Function.comp_def]

theorem Document.map_snd_placed (d : Document) : d.placed.map Prod.snd = d.words := by
  have hsites : (d.sites.flatMap Site.placed).map Prod.snd = d.sites.flatMap Site.words := by
    simp [List.map_flatMap, Site.map_snd_placed]
  rw [placed, words, List.map_append, hsites]
  cases d.globals with
  | none => rfl
  | some g => simp [Directive.map_snd_placedOf]

namespace Stack

/-! ## Tokens with the stack in front of them -/

def along : List Token → List Token → List (List Token × Token)
  | _, [] => []
  | stack, t :: ts => (stack, t) :: along (push stack t) ts

theorem along_append : ∀ stack ts us : List Token,
    along stack (ts ++ us) = along stack ts ++ along (after stack ts) us
  | _, [], _ => rfl
  | stack, t :: ts, us => by
    rw [List.cons_append, along, along_append _ ts us, along, List.cons_append]
    rfl

theorem select_eq_along (p : List Token → Token → Bool) : ∀ stack ts : List Token,
    select p stack ts = ((along stack ts).filter fun x => p x.1 x.2).map Prod.snd
  | _, [] => rfl
  | stack, t :: ts => by
    rw [select, select_eq_along p _ ts, along]
    by_cases h : p stack t
    · simp [h]
    · simp [h]

/-! ## What the faults say about a stack -/

/-- The faults tell that the blocks do not count: the outermost one is stray, or one is too deep. -/
def isLeftOut (faults : List Fault) (stack : List Token) : Bool :=
  stack.getLast?.any (fun o => ⟨.strayOpen, o.span⟩ ∈ faults) ||
    stack.any fun o => ⟨.tooDeep, o.span⟩ ∈ faults

/-- The braces of directives, innermost first: those that are not stray, without the outermost one,
which belongs to a site or to the global options. -/
def owners (faults : List Fault) (stack : List Token) : List Token :=
  (stack.filter fun o => ⟨.strayOpen, o.span⟩ ∉ faults).dropLast

/-- The words of a row that the faults do not leave out, each with the braces of its directives. -/
def keptWords (faults : List Fault) (stack ts : List Token) : List (List Token × Token) :=
  ((along stack ts).filter fun x => x.2.isWord && !isLeftOut faults x.1).map
    fun x => (owners faults x.1, x.2)

section
variable {faults : List Fault} {stack : List Token} {o : Token}

theorem isLeftOut_of_tooDeep (ho : ⟨.tooDeep, o.span⟩ ∈ faults) {above : List Token}
    (h : o :: stack <:+ above) : isLeftOut faults above := by
  have hmem : o ∈ above := h.subset (List.mem_cons_self ..)
  simp only [isLeftOut, Bool.or_eq_true, List.any_eq_true]
  exact .inr ⟨o, hmem, by simpa using ho⟩

theorem isLeftOut_of_stray (ho : ⟨.strayOpen, o.span⟩ ∈ faults) {above : List Token}
    (h : [o] <:+ above) : isLeftOut faults above := by
  obtain ⟨inner, rfl⟩ := h
  simp [isLeftOut, ho]

theorem isLeftOut_cons (hne : stack ≠ []) (ho : ⟨.tooDeep, o.span⟩ ∉ faults) :
    isLeftOut faults (o :: stack) = isLeftOut faults stack := by
  have hlast : (o :: stack).getLast? = stack.getLast? := by
    cases stack with
    | nil => exact absurd rfl hne
    | cons u stack => simp
  simp [isLeftOut, hlast, ho]

theorem owners_stray (ho : ⟨.strayOpen, o.span⟩ ∈ faults) :
    owners faults (o :: stack) = owners faults stack := by
  simp [owners, ho]

theorem owners_cons (ho : ⟨.strayOpen, o.span⟩ ∉ faults) (hne : stack ≠ [])
    (hkept : isLeftOut faults stack = false) :
    owners faults (o :: stack) = o :: owners faults stack := by
  -- The outermost brace is not stray, so there is one left to drop.
  have hlast : stack.getLast hne ∈ stack.filter fun u => ⟨.strayOpen, u.span⟩ ∉ faults := by
    rw [List.mem_filter]
    refine ⟨List.getLast_mem hne, ?_⟩
    simp only [isLeftOut, Bool.or_eq_false_iff, List.getLast?_eq_some_getLast hne] at hkept
    simpa using hkept.1
  unfold owners
  rw [List.filter_cons_of_pos (by simpa using ho), List.dropLast_cons_of_ne_nil]
  exact List.ne_nil_of_mem hlast

end

end Stack

/-! ## Kept words of a forest -/

namespace Forest

open Stack

theorem along_word {t : Token} {rest : Forest} (h : (word t rest).Grouped) (stack : List Token) :
    along stack (word t rest).tokens = (stack, t) :: along stack rest.tokens := by
  rw [tokens, along, push_word h.1]

theorem along_block {opener : Token} {inside : Forest} {closer : Option Token} {rest : Forest}
    (h : (block opener inside closer rest).Grouped) (stack : List Token) :
    along stack (block opener inside closer rest).tokens =
      (stack, opener) :: (along (opener :: stack) inside.tokens ++
        (closer.toList.map (opener :: stack, ·) ++ along stack rest.tokens)) := by
  rw [tokens, along, push_opening h.of_opener, along_append, after_tokens h.of_inside]
  cases closer with
  | none =>
    obtain ⟨_, _, rfl⟩ := h
    rfl
  | some closer =>
    obtain ⟨_, hi, hc, _⟩ := h
    rw [hi.unclosed, Option.toList_some, List.singleton_append, List.nil_append, along,
      push_closing hc]
    rfl

theorem suffix_along {f : Forest} (h : f.Grouped) (stack : List Token) :
    ∀ x ∈ along stack f.tokens, stack <:+ x.1 := by
  induction f generalizing stack with
  | nil => simp [tokens, along]
  | word t rest ih =>
    rw [along_word h]
    exact List.forall_mem_cons.mpr ⟨List.suffix_rfl, ih h.2 stack⟩
  | block opener inside closer rest ihi ihr =>
    have hcons : stack <:+ opener :: stack := List.suffix_cons opener stack
    rw [along_block h]
    refine List.forall_mem_cons.mpr ⟨List.suffix_rfl, fun x hx => ?_⟩
    rcases List.mem_append.mp hx with hx | hx
    · exact hcons.trans (ihi h.of_inside _ x hx)
    rcases List.mem_append.mp hx with hx | hx
    · obtain ⟨_, _, rfl⟩ := List.mem_map.mp hx
      exact hcons
    · exact ihr h.of_rest stack x hx

section
variable {faults : List Fault} {stack : List Token}

theorem keptWords_word {t : Token} {rest : Forest} (h : (word t rest).Grouped)
    (hkept : isLeftOut faults stack = false) : keptWords faults stack (word t rest).tokens =
      (owners faults stack, t) :: keptWords faults stack rest.tokens := by
  have ht : t.isWord = true := h.1
  simp [keptWords, along_word h, ht, hkept]

theorem keptWords_block {opener : Token} {inside : Forest} {closer : Option Token} {rest : Forest}
    (h : (block opener inside closer rest).Grouped) :
    keptWords faults stack (block opener inside closer rest).tokens =
      keptWords faults (opener :: stack) inside.tokens ++ keptWords faults stack rest.tokens := by
  have ho : opener.isWord = false := by rw [Token.isWord, h.of_opener]; rfl
  have hc : ∀ c ∈ closer.toList, c.isWord = false := by
    intro c hc
    obtain rfl := Option.mem_toList.mp hc
    rw [Token.isWord, h.2.2.1]; rfl
  have hclosers : (closer.toList.map (opener :: stack, ·)).filter
      (fun x => x.2.isWord && !isLeftOut faults x.1) = [] := by
    refine List.filter_eq_nil_iff.mpr fun x hx => ?_
    obtain ⟨c, hmem, rfl⟩ := List.mem_map.mp hx
    simp [hc c hmem]
  simp [keptWords, along_block h, ho, hclosers]

theorem keptWords_eq_nil {f : Forest} (h : f.Grouped)
    (hout : ∀ above, stack <:+ above → isLeftOut faults above) :
    keptWords faults stack f.tokens = [] := by
  refine List.map_eq_nil_iff.mpr (List.filter_eq_nil_iff.mpr fun x hx => ?_)
  simp [hout x.1 (suffix_along h stack x hx)]

end

end Forest

/-! ## Faults on the tokens of a row -/

namespace Fault

def LieOn (fs : List Fault) (ts : List Token) : Prop :=
  ∀ f ∈ fs, ∃ t ∈ ts, f.span = t.span

/-- On the tokens of a row, `faults` has the faults `fs` and no others, missing blocks apart. -/
def Agree (faults fs : List Fault) (ts : List Token) : Prop :=
  ∀ t ∈ ts, ∀ cause ≠ .missingBlock, (⟨cause, t.span⟩ : Fault) ∈ faults ↔ ⟨cause, t.span⟩ ∈ fs

namespace Agree

variable {faults fs gs : List Fault} {ts us : List Token}

theorem mono (h : Agree faults fs ts) (hsub : us ⊆ ts) : Agree faults fs us :=
  fun t ht => h t (hsub ht)

theorem left (h : Agree faults (fs ++ gs) (ts ++ us)) (hd : Distinct (ts ++ us))
    (hg : LieOn gs us) : Agree faults fs ts := by
  intro t ht cause hc
  rw [h t (List.mem_append_left us ht) cause hc, List.mem_append]
  refine or_iff_left fun hmem => ?_
  obtain ⟨u, hu, heq⟩ := hg _ hmem
  exact hd.ne ht hu heq

theorem right (h : Agree faults (fs ++ gs) (ts ++ us)) (hd : Distinct (ts ++ us))
    (hf : LieOn fs ts) : Agree faults gs us := by
  intro u hu cause hc
  rw [h u (List.mem_append_right ts hu) cause hc, List.mem_append]
  refine or_iff_right fun hmem => ?_
  obtain ⟨t, ht, heq⟩ := hf _ hmem
  exact hd.ne ht hu heq.symm

end Agree

end Fault

namespace Document

open Stack Fault Directive

theorem mem_settle {depth : Nat} {opener : Token} {closer : Option Token} {unclosed cause : Cause}
    {inside : Contents} (hu : unclosed.isUnclosed) (hc : cause.isUnclosed = false)
    (hin : ⟨cause, opener.span⟩ ∉ inside.faults) :
    ⟨cause, opener.span⟩ ∈ (settle depth opener closer unclosed inside).faults ↔
      cause = .tooDeep ∧ ¬ depth < maxDepth := by
  have hne : cause ≠ unclosed := by rintro rfl; simp [hu] at hc
  by_cases hlt : depth < maxDepth
  · rw [faults_settle_of_lt hlt]
    cases closer <;> simp [hlt, hin, hne]
  · rw [faults_settle_of_not_lt hlt]
    simp [hlt]

/-- What the faults say of a block and of the tokens behind it. The faults `stray` come before those
of the block, and `later` after them. -/
structure BlockAgrees (faults stray later : List Fault) (finish depth : Nat) (opener : Token)
    (inside rest : Forest) : Prop where
  strayOpen : ⟨.strayOpen, opener.span⟩ ∈ faults ↔ stray ≠ []
  tooDeep : ⟨.tooDeep, opener.span⟩ ∈ faults ↔ ¬ depth < maxDepth
  inside : depth < maxDepth →
    Agree faults (contents finish (depth + 1) none inside).faults inside.tokens
  rest : Agree faults later rest.tokens

theorem agree_block (stray : List Fault) {faults later : List Fault} {finish depth : Nat}
    {opener : Token} {inside rest : Forest} {closer : Option Token} {unclosed : Cause}
    (hu : unclosed.isUnclosed)
    (hf : (Forest.block opener inside closer rest).Grouped)
    (hd : Distinct (Forest.block opener inside closer rest).tokens)
    (hstray : ∀ f ∈ stray, f = ⟨.strayOpen, opener.span⟩) (hlater : LieOn later rest.tokens)
    (h : Agree faults
      (stray ++ (settle depth opener closer unclosed
        (contents finish (depth + 1) none inside)).faults ++ later)
      (Forest.block opener inside closer rest).tokens) :
    BlockAgrees faults stray later finish depth opener inside rest := by
  have hin := orderly_contents finish (depth + 1) none inside hf.of_inside
  have hown : LieOn (stray ++ (settle depth opener closer unclosed
      (contents finish (depth + 1) none inside)).faults) (opener :: inside.tokens) := by
    intro f hf
    rcases List.mem_append.mp hf with hf | hf
    · exact ⟨opener, by simp, by rw [hstray f hf]⟩
    · exact (hin.settle hu).within f hf
  have hbehind : LieOn later (closer.toList ++ rest.tokens) := by
    intro f hf
    obtain ⟨t, ht, heq⟩ := hlater f hf
    exact ⟨t, List.mem_append_right _ ht, heq⟩
  rw [Forest.tokens, ← List.cons_append] at h hd
  have hblock := h.left hd hbehind
  obtain ⟨hne, _⟩ := List.pairwise_cons.mp (List.pairwise_append.mp hd).1
  have hnot : ∀ cause, (⟨cause, opener.span⟩ : Fault) ∉
      (contents finish (depth + 1) none inside).faults := by
    intro cause hmem
    obtain ⟨t, ht, heq⟩ := hin.within _ hmem
    exact hne t ht heq
  refine ⟨?_, ?_, fun hlt t ht cause hc => ?_, (h.right hd hown).mono (List.subset_append_right _ _)⟩
  · rw [hblock opener (by simp) _ (by simp), List.mem_append, mem_settle hu rfl (hnot _)]
    cases stray with
    | nil => simp
    | cons f stray => simp [(hstray f (by simp)).symm]
  · have hdeep : (⟨.tooDeep, opener.span⟩ : Fault) ∉ stray := fun hmem => by
      cases hstray _ hmem
    rw [hblock opener (by simp) _ (by simp), List.mem_append, mem_settle hu rfl (hnot _)]
    simp [hdeep]
  · -- Neither a stray opener nor an open end is a fault of `t`.
    have hother : (⟨cause, t.span⟩ : Fault) ∉ stray := fun hmem =>
      hne t ht (congrArg Fault.span (hstray _ hmem)).symm
    have hspan : t.span ≠ opener.span := fun heq => hne t ht heq.symm
    rw [hblock t (List.mem_cons_of_mem _ ht) cause hc, List.mem_append, faults_settle_of_lt hlt]
    cases closer <;> simp [hother, hspan]

theorem distinct_block {opener : Token} {inside rest : Forest} {closer : Option Token}
    (h : Distinct (Forest.block opener inside closer rest).tokens) :
    Distinct inside.tokens ∧ Distinct rest.tokens := by
  obtain ⟨_, h⟩ := List.pairwise_cons.mp h
  obtain ⟨hinside, hrest, _⟩ := List.pairwise_append.mp h
  exact ⟨hinside, (List.pairwise_append.mp hrest).2.1⟩

/-! ## Reading keeps words in their places -/

section
variable {faults : List Fault}

theorem placedOf_settle {depth : Nat} {opener : Token} {closer : Option Token} {unclosed : Cause}
    {inside : Contents} {f : Forest} {stack around : List Token} (hf : f.Grouped)
    (hdeep : ⟨.tooDeep, opener.span⟩ ∈ faults ↔ ¬ depth < maxDepth)
    (hin : depth < maxDepth → placedOf around inside.directives =
      keptWords faults (opener :: stack) f.tokens) :
    placedOf around (settle depth opener closer unclosed inside).directives =
      keptWords faults (opener :: stack) f.tokens := by
  by_cases hlt : depth < maxDepth
  · rw [← hin hlt]
    cases closer <;> simp [settle, hlt]
  · rw [Forest.keptWords_eq_nil hf fun _ => isLeftOut_of_tooDeep (hdeep.mpr hlt)]
    simp [settle, hlt, placedOf]

theorem placedOf_contents (finish depth : Nat) (pending : Option Header) (f : Forest)
    (stack : List Token) (hf : f.Grouped) (hd : Distinct f.tokens)
    (hagree : Agree faults (contents finish depth pending f).faults f.tokens) (hne : stack ≠ [])
    (hkept : isLeftOut faults stack = false) :
    placedOf (owners faults stack) (contents finish depth pending f).directives =
      (pendingWords pending).map (owners faults stack, ·) ++ keptWords faults stack f.tokens := by
  fun_induction contents finish depth pending f generalizing stack with
  | case1 => rfl
  | case2 depth h =>
    simp [placedOf, placed_eq, Header.plain, pendingWords, Forest.tokens, keptWords, along]
  | case3 depth t rest ih =>
    have hrest := ih stack hf.2 (List.pairwise_cons.mp hd).2
      (hagree.mono (List.subset_cons_self ..)) hne hkept
    rw [hrest, Forest.keptWords_word hf hkept]
    rfl
  | case4 depth h t rest ha ih =>
    have hrest := ih stack hf.2 (List.pairwise_cons.mp hd).2
      (hagree.mono (List.subset_cons_self ..)) hne hkept
    rw [hrest, Forest.keptWords_word hf hkept]
    simp [pendingWords, Header.push]
  | case5 depth h t rest ha ih =>
    have hrest := ih stack hf.2 (List.pairwise_cons.mp hd).2
      (hagree.mono (List.subset_cons_self ..)) hne hkept
    rw [Contents.cons, placedOf, hrest, Forest.keptWords_word hf hkept]
    simp [pendingWords, placed_eq, Header.plain, placedOf]
  | case6 depth opener inside closer rest own stray ihi ihr =>
    have hb := agree_block stray.faults rfl hf hd (by simp [stray])
      (orderly_contents finish depth none rest hf.of_rest).within hagree
    obtain ⟨hdi, hdr⟩ := distinct_block hd
    have hown : placedOf (owners faults stack) own.directives =
        keptWords faults (opener :: stack) inside.tokens := by
      refine placedOf_settle hf.of_inside hb.tooDeep fun hlt => ?_
      have hnot : ⟨.tooDeep, opener.span⟩ ∉ faults := mt hb.tooDeep.mp (not_not_intro hlt)
      have hin := ihi (opener :: stack) hf.of_inside hdi (hb.inside hlt) (by simp)
        (by rw [isLeftOut_cons hne hnot, hkept])
      -- A stray brace is no brace of a directive.
      rwa [owners_stray (hb.strayOpen.mpr (by simp [stray]))] at hin
    have hrest := ihr stack hf.of_rest hdr hb.rest hne hkept
    rw [Forest.keptWords_block hf, Contents.append, Contents.append, placedOf_append,
      placedOf_append, hown, hrest]
    rfl
  | case7 depth h opener inside closer rest own d ihi ihr =>
    have hb := agree_block [] rfl hf hd (by simp)
      (orderly_contents finish depth none rest hf.of_rest).within hagree
    obtain ⟨hdi, hdr⟩ := distinct_block hd
    have hown : placedOf (opener :: owners faults stack) own.directives =
        keptWords faults (opener :: stack) inside.tokens := by
      refine placedOf_settle hf.of_inside hb.tooDeep fun hlt => ?_
      have hnot : ⟨.tooDeep, opener.span⟩ ∉ faults := mt hb.tooDeep.mp (not_not_intro hlt)
      have hin := ihi (opener :: stack) hf.of_inside hdi (hb.inside hlt) (by simp)
        (by rw [isLeftOut_cons hne hnot, hkept])
      rwa [owners_cons (mt hb.strayOpen.mp (by simp)) hne hkept] at hin
    have hrest := ihr stack hf.of_rest hdr hb.rest hne hkept
    have hplaced : d.placed (owners faults stack) =
        (h.name :: h.args).map (owners faults stack, ·) ++
          placedOf (opener :: owners faults stack) own.directives := placed_eq _ d
    rw [Forest.keptWords_block hf, Contents.append, placedOf_append, hrest, placedOf, hplaced, hown]
    simp [placedOf, pendingWords]

/-- The block of a site or of the global options. -/
theorem placedOf_topBlock {finish : Nat} {opener : Token} {inside rest : Forest}
    {later : List Fault} (closer : Option Token) (unclosed : Cause) (hf : inside.Grouped)
    (hd : Distinct inside.tokens)
    (hb : BlockAgrees faults [] later finish 0 opener inside rest) :
    placedOf [] (topBlock finish opener inside closer unclosed).directives =
      keptWords faults [opener] inside.tokens := by
  have hstray : ⟨.strayOpen, opener.span⟩ ∉ faults := mt hb.strayOpen.mp (by simp)
  refine placedOf_settle hf hb.tooDeep fun hlt => ?_
  have hdeep : ⟨.tooDeep, opener.span⟩ ∉ faults := mt hb.tooDeep.mp (not_not_intro hlt)
  have hin := placedOf_contents finish 1 none inside [opener] hf hd (hb.inside hlt) (by simp)
    (by simp [isLeftOut, hstray, hdeep])
  rwa [show owners faults [opener] = [] by simp [owners, hstray]] at hin

theorem placed_stretch (finish : Nat) (pending : Option Heading) (f : Forest) (hf : f.Grouped)
    (hd : Distinct f.tokens) (hagree : Agree faults (stretch finish pending f).faults f.tokens) :
    (stretch finish pending f).sites.flatMap Site.placed =
      (pendingAddresses pending).map ([], ·) ++ keptWords faults [] f.tokens := by
  fun_induction stretch finish pending f with
  | case1 => rfl
  | case2 h =>
    simp [Heading.plain, Site.placed, Site.addresses, placedOf, pendingAddresses, Forest.tokens,
      keptWords, along]
  | case3 t rest ih =>
    have hrest := ih hf.2 (List.pairwise_cons.mp hd).2 (hagree.mono (List.subset_cons_self ..))
    rw [hrest, Forest.keptWords_word hf rfl]
    rfl
  | case4 h t rest ha ih =>
    have hrest := ih hf.2 (List.pairwise_cons.mp hd).2 (hagree.mono (List.subset_cons_self ..))
    rw [hrest, Forest.keptWords_word hf rfl]
    simp [pendingAddresses, Heading.push, owners]
  | case5 h t rest ha ih =>
    have htail : Agree faults (stretch finish (some (.start t)) rest).faults rest.tokens := by
      intro u hu cause hc
      rw [hagree u (List.mem_cons_of_mem _ hu) cause hc]
      simp [Stretch.append, Heading.plain, hc]
    have hrest := ih hf.2 (List.pairwise_cons.mp hd).2 htail
    rw [Stretch.append, List.flatMap_append, hrest, Forest.keptWords_word hf rfl]
    simp [Heading.plain, Site.placed, Site.addresses, placedOf, pendingAddresses, Heading.start,
      owners]
  | case6 opener inside closer rest body ih =>
    have hb := agree_block [⟨.strayOpen, opener.span⟩] rfl hf hd (by simp)
      (orderly_stretch finish none rest hf.of_rest).within hagree
    have hrest := ih hf.of_rest (distinct_block hd).2 hb.rest
    have hin : keptWords faults [opener] inside.tokens = [] :=
      Forest.keptWords_eq_nil hf.of_inside fun _ => isLeftOut_of_stray (hb.strayOpen.mpr (by simp))
    rw [Forest.keptWords_block hf, hin, Stretch.append, List.nil_append, hrest]
    rfl
  | case7 h opener inside closer rest body ih =>
    have hb := agree_block [] rfl hf hd (by simp)
      (orderly_stretch finish none rest hf.of_rest).within hagree
    obtain ⟨hdi, hdr⟩ := distinct_block hd
    have hbody : placedOf [] body.directives = keptWords faults [opener] inside.tokens :=
      placedOf_topBlock closer _ hf.of_inside hdi hb
    have hrest := ih hf.of_rest hdr hb.rest
    rw [Forest.keptWords_block hf, Stretch.append, List.flatMap_append, hrest]
    simp [Heading.withBlock, Site.placed, Site.addresses, hbody, pendingAddresses]

/-- Behind tokens that leave nothing open, a stray closing brace changes nothing. -/
theorem keptWords_stray {f : Forest} (hf : f.Closed) {c : Token} (hc : c.kind = .closing)
    (us : List Token) :
    keptWords faults [] (f.tokens ++ c :: us) =
      keptWords faults [] f.tokens ++ keptWords faults [] us := by
  have hword : c.isWord = false := by rw [Token.isWord, hc]; rfl
  unfold keptWords
  rw [along_append, Forest.after_tokens hf.grouped, hf.unclosed, List.append_nil, along,
    push_closing hc, List.filter_append, List.filter_cons_of_neg (by simp [hword]), List.map_append]
  rfl

theorem placed_later (finish : Nat) : ∀ {f : Forest} {fs : List Fault}
    {later : List (Token × Forest)}, Forest.Split.GroupedFrom f later → LieOn fs f.tokens →
    Distinct (Forest.Split.tokens ⟨f, later⟩) →
    Agree faults (fs ++ (laterStretches finish later).faults) (Forest.Split.tokens ⟨f, later⟩) →
    Agree faults fs f.tokens ∧ keptWords faults [] (Forest.Split.tokens ⟨f, later⟩) =
      keptWords faults [] f.tokens ++ (laterStretches finish later).sites.flatMap Site.placed
  | f, fs, [], _, _, _, hagree => by
    simpa [Forest.Split.tokens, laterStretches] using hagree
  | f, fs, (c, g) :: later, ⟨hf, hc, hg⟩, hfs, hd, hagree => by
    have htokens : Forest.Split.tokens ⟨f, (c, g) :: later⟩ =
        f.tokens ++ ([c] ++ Forest.Split.tokens ⟨g, later⟩) := by simp [Forest.Split.tokens]
    have hfaults : fs ++ (laterStretches finish ((c, g) :: later)).faults =
        fs ++ ([⟨.strayClose, c.span⟩] ++
          ((stretch finish none g).faults ++ (laterStretches finish later).faults)) := by
      simp [laterStretches, Stretch.append]
    rw [htokens] at hd hagree
    rw [hfaults] at hagree
    have hbehind := (reported_later finish (reported_stretch finish hg.grouped) hg).orderly
    have hother : LieOn ([⟨.strayClose, c.span⟩] ++
        ((stretch finish none g).faults ++ (laterStretches finish later).faults))
        ([c] ++ Forest.Split.tokens ⟨g, later⟩) :=
      ((hbehind.mono (List.sublist_cons_self c _)).cons rfl).within
    have hdbehind := (List.pairwise_append.mp hd).2.1
    have hnext := (hagree.right hd hfs).right hdbehind (by simp [LieOn])
    obtain ⟨hag, hkept⟩ := placed_later finish hg
      (orderly_stretch finish none g hg.grouped).within (List.pairwise_append.mp hdbehind).2.1 hnext
    have hplaced := placed_stretch finish none g hg.grouped
      (hdbehind.sublist (by simp [Forest.Split.tokens])) hag
    refine ⟨hagree.left hd hother, ?_⟩
    rw [htokens, List.singleton_append, keptWords_stray hf hc, hkept, laterStretches, Stretch.append,
      List.flatMap_append, hplaced]
    rfl

theorem placed_ofForest (finish : Nat) {s : Forest.Split} (hs : s.Grouped) (hd : Distinct s.tokens)
    (hagree : Agree faults (ofForest finish s).faults s.tokens) :
    (ofForest finish s).document.placed = keptWords faults [] s.tokens := by
  obtain ⟨first, later⟩ := s
  have hf : first.Grouped := hs.grouped
  have hdf : Distinct first.tokens := (List.pairwise_append.mp hd).1
  cases first with
  | nil | word t rest =>
    obtain ⟨hag, hkept⟩ := placed_later finish hs (orderly_stretch finish none _ hf).within hd hagree
    rw [hkept, ofForest, Document.placed]
    simp [Stretch.append, placed_stretch finish none _ hf hdf hag, pendingAddresses]
  | block opener inside closer rest =>
    have hfaults : (ofForest finish ⟨.block opener inside closer rest, later⟩).faults =
        (topBlock finish opener inside closer .unclosedGlobals).faults ++
          (stretch finish none rest).faults ++ (laterStretches finish later).faults := by
      simp [ofForest, Stretch.append]
    rw [hfaults] at hagree
    obtain ⟨hag, hkept⟩ :=
      placed_later finish hs (reported_globals finish hf).orderly.within hd hagree
    have hb := agree_block [] rfl hf hdf (by simp)
      (orderly_stretch finish none rest hf.of_rest).within hag
    obtain ⟨hdi, hdr⟩ := distinct_block hdf
    have hbody := placedOf_topBlock closer .unclosedGlobals hf.of_inside hdi hb
    have hsites := placed_stretch finish none rest hf.of_rest hdr hb.rest
    rw [hkept, Forest.keptWords_block hf, ofForest, Document.placed]
    simp [Stretch.append, hbody, hsites, pendingAddresses]

end

theorem placed_read (source : String) :
    (read source).document.placed = keptWords (read source).faults [] (tokens source) := by
  obtain ⟨ws, e, hts, he, hgroup, hws⟩ := Forest.exists_ofTokens source
  have hd : Distinct ws := by
    have := Distinct.of_lt (dropLast_tokens_pairwise source)
    rwa [hts, List.dropLast_concat] at this
  have hagree : Agree (read source).faults
      (ofForest ((tokens source).getLast?.elim 0 Token.line) (Forest.ofTokens ws)).faults
      (Forest.ofTokens ws).tokens := by
    intro t _ cause _
    rw [read, ofTokens, hgroup]
  have h := placed_ofForest _ (Forest.grouped_ofTokens ws) (by rwa [hws]) hagree
  rw [hws, ← hgroup] at h
  have hend : e.isWord = false := by rw [Token.isWord, he]; rfl
  have hrow : keptWords (read source).faults [] (tokens source) =
      keptWords (read source).faults [] ws := by
    rw [hts]
    simp [keptWords, along_append, along, hend]
  rw [hrow]
  exact h

end Document

/-! ## Main result -/

/-- Reading neither loses nor repeats nor moves a word. The words of a document are the words of its
text, in order and just as they stand there, less those that the faults leave out; and each of them
is in the blocks of those directives whose braces are open there, braces of stray blocks apart. -/
theorem words_read_eq (source : String) :
    (Document.read source).document.words =
      Stack.select (fun stack t => t.isWord && !Stack.isLeftOut (Document.read source).faults stack) []
        (tokens source) ∧
    (Document.read source).document.placed =
      ((Stack.along [] (tokens source)).filter fun x =>
          x.2.isWord && !Stack.isLeftOut (Document.read source).faults x.1).map
        fun x => (Stack.owners (Document.read source).faults x.1, x.2) := by
  have h := Document.placed_read source
  refine ⟨?_, h⟩
  rw [← Document.map_snd_placed, h, Stack.select_eq_along, Stack.keptWords, List.map_map]
  rfl

end Caddyfile
