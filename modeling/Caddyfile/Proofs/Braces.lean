import Caddyfile.Document.Reading
import Caddyfile.Proofs.Grouping

/-!
# Faults of braces and the stack of open ones

`push` is plain bracket matching: an opening brace goes on the stack and a closing brace takes one
off. The faults of a reading are what this stack would report (`brace_faults`), with the blocks that
are left open at the end after all others.
-/

namespace Caddyfile

/-! ## The stack -/

namespace Stack

/-- The open braces, innermost first, after one more token. -/
def push (stack : List Token) (t : Token) : List Token :=
  match t.kind with
  | .opening => t :: stack
  | .closing => stack.tail
  | .bare | .quoted | .finish => stack

def after (stack ts : List Token) : List Token :=
  ts.foldl push stack

/-- The tokens that `p` picks, given the stack in front of each. -/
def select (p : List Token → Token → Bool) : List Token → List Token → List Token
  | _, [] => []
  | stack, t :: ts => (if p stack t then [t] else []) ++ select p (push stack t) ts

def isUnmatched (stack : List Token) (t : Token) : Bool :=
  t.kind = .closing && stack.isEmpty

def isTooDeep (stack : List Token) (t : Token) : Bool :=
  t.kind = .opening && stack.length = maxDepth

/-- The last `n` of the stack, which were opened first. -/
def outermost (n : Nat) (stack : List Token) : List Token :=
  (stack.reverse.take n).reverse

theorem after_cons (stack : List Token) (t : Token) (ts : List Token) :
    after stack (t :: ts) = after (push stack t) ts := rfl

theorem after_append (stack ts us : List Token) :
    after stack (ts ++ us) = after (after stack ts) us := by
  simp [after]

theorem select_append (p : List Token → Token → Bool) : ∀ stack ts us : List Token,
    select p stack (ts ++ us) = select p stack ts ++ select p (after stack ts) us
  | _, [], _ => rfl
  | stack, t :: ts, us => by
    rw [List.cons_append, select, select_append p _ ts us, select, List.append_assoc]
    rfl

@[simp] theorem outermost_nil (n : Nat) : outermost n [] = [] := by
  simp [outermost]

@[simp] theorem outermost_zero (stack : List Token) : outermost 0 stack = [] := by
  simp [outermost]

theorem outermost_snoc (n : Nat) (stack : List Token) (t : Token) :
    outermost (n + 1) (stack ++ [t]) = outermost n stack ++ [t] := by
  simp [outermost]

theorem kind_of_isWord {t : Token} (ht : t.isWord) : t.kind = .bare ∨ t.kind = .quoted := by
  unfold Token.isWord at ht
  cases hk : t.kind <;> simp [hk, Token.Kind.isWord] at ht ⊢

theorem push_word {t : Token} (ht : t.isWord) (stack : List Token) : push stack t = stack := by
  rcases kind_of_isWord ht with hk | hk
  · rw [push, hk]
  · rw [push, hk]

theorem push_opening {t : Token} (ht : t.kind = .opening) (stack : List Token) :
    push stack t = t :: stack := by
  rw [push, ht]

theorem push_closing {t : Token} (ht : t.kind = .closing) (stack : List Token) :
    push stack t = stack.tail := by
  rw [push, ht]

end Stack

/-! ## The stack along a forest -/

namespace Forest

/-- The openers of the blocks left open, innermost first. -/
def unclosed : Forest → List Token
  | nil => []
  | word _ rest => rest.unclosed
  | block opener inside none _ => inside.unclosed ++ [opener]
  | block _ _ (some _) rest => rest.unclosed

theorem Closed.unclosed : ∀ {f : Forest}, f.Closed → f.unclosed = []
  | nil, _ => rfl
  | word _ _, ⟨_, hr⟩ => hr.unclosed
  | block _ _ (some _) _, ⟨_, _, _, hr⟩ => hr.unclosed

open Stack

theorem after_tokens {f : Forest} (h : f.Grouped) (stack : List Token) :
    after stack f.tokens = f.unclosed ++ stack := by
  induction f generalizing stack with
  | nil => rfl
  | word t rest ih => rw [tokens, after_cons, push_word h.1, ih h.2, unclosed]
  | block opener inside closer rest ihi ihr =>
    cases closer with
    | none =>
      obtain ⟨ho, hi, rfl⟩ := h
      rw [tokens, after_cons, push_opening ho, after_append, ihi hi, unclosed, List.append_assoc]
      rfl
    | some closer =>
      obtain ⟨ho, hi, hc, hr⟩ := h
      rw [tokens, after_cons, push_opening ho, after_append, ihi hi.grouped, hi.unclosed,
        Option.toList_some, List.singleton_append, List.nil_append, after_cons, push_closing hc,
        List.tail_cons, ihr hr, unclosed]

section
variable {p : List Token → Token → Bool}
  (hw : ∀ stack t, t.isWord → p stack t = false)
  (hc : ∀ stack o t, t.kind = .closing → p (o :: stack) t = false)

include hw in
theorem select_word {t : Token} {rest : Forest} (h : (word t rest).Grouped) (stack : List Token) :
    select p stack (word t rest).tokens = select p stack rest.tokens := by
  rw [tokens, select, push_word h.1, hw stack t h.1]
  rfl

include hc in
theorem select_block {opener : Token} {inside : Forest} {closer : Option Token} {rest : Forest}
    (h : (block opener inside closer rest).Grouped) (stack : List Token) :
    select p stack (block opener inside closer rest).tokens =
      (if p stack opener then [opener] else []) ++
        (select p (opener :: stack) inside.tokens ++ select p stack rest.tokens) := by
  cases closer with
  | none =>
    obtain ⟨ho, _, rfl⟩ := h
    simp [tokens, select, push_opening ho]
  | some closer =>
    obtain ⟨ho, hi, hk, _⟩ := h
    -- Behind the inside the opener is on top again, so `p` does not pick the closing brace.
    rw [tokens, select, push_opening ho, select_append, after_tokens hi.grouped, hi.unclosed,
      Option.toList_some, List.singleton_append, List.nil_append, select, hc stack opener closer hk,
      push_closing hk]
    rfl

end

theorem isUnmatched_word (stack : List Token) (t : Token) (h : t.isWord) :
    isUnmatched stack t = false := by
  rcases kind_of_isWord h with hk | hk
  · simp [isUnmatched, hk]
  · simp [isUnmatched, hk]

theorem isTooDeep_word (stack : List Token) (t : Token) (h : t.isWord) :
    isTooDeep stack t = false := by
  rcases kind_of_isWord h with hk | hk
  · simp [isTooDeep, hk]
  · simp [isTooDeep, hk]

theorem isTooDeep_closing (stack : List Token) (o t : Token) (h : t.kind = .closing) :
    isTooDeep (o :: stack) t = false := by
  simp [isTooDeep, h]

theorem select_isUnmatched {f : Forest} (h : f.Grouped) (stack : List Token) :
    select isUnmatched stack f.tokens = [] := by
  induction f generalizing stack with
  | nil => rfl
  | word t rest ih => rw [select_word isUnmatched_word h, ih h.2]
  | block opener inside closer rest ihi ihr =>
    rw [select_block (fun _ _ _ _ => by simp [isUnmatched]) h, ihi h.of_inside, ihr h.of_rest]
    simp [isUnmatched, h.of_opener]

theorem select_isTooDeep_eq_nil {f : Forest} (h : f.Grouped) {stack : List Token}
    (hs : maxDepth < stack.length) : select isTooDeep stack f.tokens = [] := by
  induction f generalizing stack with
  | nil => rfl
  | word t rest ih => rw [select_word isTooDeep_word h, ih h.2 hs]
  | block opener inside closer rest ihi ihr =>
    have hne : isTooDeep stack opener = false := by
      simp [isTooDeep, Nat.ne_of_gt hs]
    have hin : maxDepth < (opener :: stack).length := Nat.lt_succ_of_lt hs
    rw [select_block isTooDeep_closing h, hne, ihi h.of_inside hin, ihr h.of_rest hs]
    rfl

end Forest

/-! ## Faults by their cause -/

def Fault.Cause.isUnclosed : Fault.Cause → Bool
  | unclosedGlobals | unclosedSite _ | unclosedDirective _ | unclosedBlock => true
  | strayClose | strayOpen | missingBlock | tooDeep => false

namespace Fault

def isUnclosed (f : Fault) : Bool :=
  f.cause.isUnclosed

def withCause (cause : Cause) (fs : List Fault) : List Fault :=
  fs.filter (·.cause = cause)

@[simp] theorem withCause_nil (cause : Cause) : withCause cause [] = [] := rfl

@[simp] theorem withCause_append (cause : Cause) (fs gs : List Fault) :
    withCause cause (fs ++ gs) = withCause cause fs ++ withCause cause gs :=
  List.filter_append ..

theorem withCause_cons (cause : Cause) (f : Fault) (fs : List Fault) : withCause cause (f :: fs) =
    if f.cause = cause then f :: withCause cause fs else withCause cause fs := by
  simp [withCause, List.filter_cons]

def unclosedSpans (fs : List Fault) : List Span :=
  (fs.filter isUnclosed).map Fault.span

@[simp] theorem unclosedSpans_nil : unclosedSpans [] = [] := rfl

@[simp] theorem unclosedSpans_append (fs gs : List Fault) :
    unclosedSpans (fs ++ gs) = unclosedSpans fs ++ unclosedSpans gs := by
  simp [unclosedSpans]

theorem unclosedSpans_cons (f : Fault) (fs : List Fault) : unclosedSpans (f :: fs) =
    if f.isUnclosed then f.span :: unclosedSpans fs else unclosedSpans fs := by
  by_cases h : f.isUnclosed <;> simp [unclosedSpans, h]

end Fault

namespace Document

open Stack Fault

theorem faults_settle_of_lt {depth : Nat} (h : depth < maxDepth) (opener : Token)
    (closer : Option Token) (unclosed : Cause) (inside : Contents) :
    (settle depth opener closer unclosed inside).faults =
      inside.faults ++ if closer.isSome then [] else [⟨unclosed, opener.span⟩] := by
  cases closer <;> simp [settle, h]

theorem faults_settle_of_not_lt {depth : Nat} (h : ¬ depth < maxDepth) (opener : Token)
    (closer : Option Token) (unclosed : Cause) (inside : Contents) :
    (settle depth opener closer unclosed inside).faults = [⟨.tooDeep, opener.span⟩] := by
  simp [settle, h]

/-! ### Blocks inside too many others -/

theorem withCause_tooDeep_settle {depth : Nat} {opener : Token} {closer : Option Token}
    {unclosed : Cause} {inside : Contents} {f : Forest} {stack : List Token}
    (hu : unclosed.isUnclosed) (ho : opener.kind = .opening) (hf : f.Grouped)
    (hs : stack.length = depth) (hd : depth ≤ maxDepth)
    (hin : depth + 1 ≤ maxDepth → withCause .tooDeep inside.faults =
      (select isTooDeep (opener :: stack) f.tokens).map fun t => ⟨.tooDeep, t.span⟩) :
    withCause .tooDeep (settle depth opener closer unclosed inside).faults =
      ((if isTooDeep stack opener then [opener] else []) ++
        select isTooDeep (opener :: stack) f.tokens).map fun t => ⟨.tooDeep, t.span⟩ := by
  have hne : unclosed ≠ .tooDeep := by rintro rfl; cases hu
  by_cases hlt : depth < maxDepth
  · have hnot : isTooDeep stack opener = false := by simp [isTooDeep, hs, Nat.ne_of_lt hlt]
    rw [faults_settle_of_lt hlt, withCause_append, hin hlt, hnot]
    cases closer <;> simp [withCause_cons, hne]
  · -- The block is skipped, and all inside it is deeper than the limit.
    have heq : stack.length = maxDepth := by omega
    have hdeep : isTooDeep stack opener = true := by simp [isTooDeep, ho, heq]
    rw [faults_settle_of_not_lt hlt, hdeep, Forest.select_isTooDeep_eq_nil hf (by simp [heq])]
    rfl

theorem withCause_tooDeep_contents (finish depth : Nat) (pending : Option Header) (f : Forest)
    (stack : List Token) (hf : f.Grouped) (hs : stack.length = depth) (hd : depth ≤ maxDepth) :
    withCause .tooDeep (contents finish depth pending f).faults =
      (select isTooDeep stack f.tokens).map fun t => ⟨.tooDeep, t.span⟩ := by
  fun_induction contents finish depth pending f generalizing stack with
  | case1 | case2 => rfl
  | case3 depth t rest ih | case4 depth h t rest ha ih | case5 depth h t rest ha ih =>
    rw [Forest.select_word Forest.isTooDeep_word hf]
    exact ih stack hf.2 hs hd
  | case6 depth opener inside closer rest own stray ihi ihr
  | case7 depth h opener inside closer rest own d ihi ihr =>
    have hown : withCause .tooDeep own.faults = _ :=
      withCause_tooDeep_settle rfl hf.of_opener hf.of_inside hs hd
        (ihi (opener :: stack) hf.of_inside (by simp [hs]))
    have hrest := ihr stack hf.of_rest hs hd
    rw [Forest.select_block Forest.isTooDeep_closing hf, ← List.append_assoc, List.map_append,
      ← hown, ← hrest, ← withCause_append]
    rfl

theorem withCause_tooDeep_topBlock (finish : Nat) {opener : Token} {inside rest : Forest}
    {closer : Option Token} {unclosed : Cause} (hu : unclosed.isUnclosed)
    (hf : (Forest.block opener inside closer rest).Grouped) :
    withCause .tooDeep (topBlock finish opener inside closer unclosed).faults ++
      ((select isTooDeep [] rest.tokens).map fun t => ⟨.tooDeep, t.span⟩) =
    (select isTooDeep [] (Forest.block opener inside closer rest).tokens).map
      fun t => ⟨.tooDeep, t.span⟩ := by
  have h := withCause_tooDeep_contents finish 1 none inside [opener] hf.of_inside rfl (by decide)
  have hown : withCause .tooDeep (topBlock finish opener inside closer unclosed).faults = _ :=
    withCause_tooDeep_settle hu hf.of_opener hf.of_inside List.length_nil (by decide) fun _ => h
  rw [hown, Forest.select_block Forest.isTooDeep_closing hf, ← List.map_append, List.append_assoc]

theorem withCause_tooDeep_stretch (finish : Nat) (pending : Option Heading) (f : Forest)
    (hf : f.Grouped) : withCause .tooDeep (stretch finish pending f).faults =
      (select isTooDeep [] f.tokens).map fun t => ⟨.tooDeep, t.span⟩ := by
  fun_induction stretch finish pending f with
  | case1 | case2 => rfl
  | case3 t rest ih | case4 h t rest ha ih | case5 h t rest ha ih =>
    rw [Forest.select_word Forest.isTooDeep_word hf]
    exact ih hf.2
  | case6 opener inside closer rest body ih | case7 h opener inside closer rest body ih =>
    have hbody : withCause .tooDeep body.faults ++ _ = _ := withCause_tooDeep_topBlock finish rfl hf
    rw [← hbody, ← ih hf.of_rest, ← withCause_append]
    rfl

/-! ### Blocks left open -/

theorem unclosedSpans_settle {depth : Nat} {opener : Token} {closer : Option Token}
    {unclosed : Cause} {inside : Contents} {stack : List Token} (hu : unclosed.isUnclosed)
    (hc : closer.isSome → stack = [])
    (hin : unclosedSpans inside.faults =
      (outermost (maxDepth - (depth + 1)) stack).map Token.span) :
    unclosedSpans (settle depth opener closer unclosed inside).faults =
      (outermost (maxDepth - depth) (if closer.isSome then [] else stack ++ [opener])).map
        Token.span := by
  by_cases hlt : depth < maxDepth
  · rw [faults_settle_of_lt hlt, unclosedSpans_append, hin]
    cases closer with
    | some _ => simp [hc rfl]
    | none =>
      rw [show maxDepth - depth = maxDepth - (depth + 1) + 1 by omega]
      simp [outermost_snoc, unclosedSpans_cons, isUnclosed, hu]
  · rw [faults_settle_of_not_lt hlt, show maxDepth - depth = 0 by omega]
    simp [unclosedSpans_cons, isUnclosed, Cause.isUnclosed]

theorem unclosedSpans_block (depth : Nat) {opener : Token} {inside rest : Forest}
    {closer : Option Token} {unclosed : Cause} {own : Contents} {later : List Fault}
    (hu : unclosed.isUnclosed) (hf : (Forest.block opener inside closer rest).Grouped)
    (hin : unclosedSpans own.faults =
      (outermost (maxDepth - (depth + 1)) inside.unclosed).map Token.span)
    (hrest : unclosedSpans later = (outermost (maxDepth - depth) rest.unclosed).map Token.span) :
    unclosedSpans ((settle depth opener closer unclosed own).faults ++ later) =
      (outermost (maxDepth - depth) (Forest.block opener inside closer rest).unclosed).map
        Token.span := by
  -- Nothing follows a block that is left open, and in one that is closed nothing is left open.
  cases closer with
  | none =>
    obtain ⟨_, _, rfl⟩ := hf
    rw [unclosedSpans_append, unclosedSpans_settle hu (by simp) hin, hrest]
    simp [Forest.unclosed]
  | some closer =>
    obtain ⟨_, hi, _, _⟩ := hf
    rw [unclosedSpans_append, unclosedSpans_settle hu (fun _ => hi.unclosed) hin, hrest]
    simp [Forest.unclosed]

theorem unclosedSpans_contents (finish depth : Nat) (pending : Option Header) (f : Forest)
    (hf : f.Grouped) : unclosedSpans (contents finish depth pending f).faults =
      (outermost (maxDepth - depth) f.unclosed).map Token.span := by
  fun_induction contents finish depth pending f with
  | case1 | case2 => simp [Forest.unclosed]
  | case3 depth t rest ih | case4 depth h t rest ha ih | case5 depth h t rest ha ih =>
    exact ih hf.2
  | case6 depth opener inside closer rest own stray ihi ihr
  | case7 depth h opener inside closer rest own d ihi ihr =>
    exact unclosedSpans_block depth rfl hf (ihi hf.of_inside) (ihr hf.of_rest)

theorem unclosedSpans_stretch (finish : Nat) (pending : Option Heading) (f : Forest)
    (hf : f.Grouped) : unclosedSpans (stretch finish pending f).faults =
      (outermost maxDepth f.unclosed).map Token.span := by
  fun_induction stretch finish pending f with
  | case1 => rfl
  | case2 h => rfl
  | case3 t rest ih | case4 h t rest ha ih | case5 h t rest ha ih => exact ih hf.2
  | case6 opener inside closer rest body ih | case7 h opener inside closer rest body ih =>
    have hin := unclosedSpans_contents finish 1 none inside hf.of_inside
    exact unclosedSpans_block 0 rfl hf hin (ih hf.of_rest)

/-! ### The order of faults -/

/-- Faults lie on tokens of a row. If the row is in order, so are they, but for blocks left open,
which come after all others. -/
structure Orderly (ts : List Token) (fs : List Fault) : Prop where
  within : ∀ f ∈ fs, ∃ t ∈ ts, f.span = t.span
  ordered : (ts.Pairwise fun t u => t.start ≤ u.start) → fs.Pairwise fun f g =>
    (f.isUnclosed → g.isUnclosed) ∧ (¬ g.isUnclosed → f.span.start ≤ g.span.start)

namespace Orderly

theorem nil (ts : List Token) : Orderly ts [] :=
  ⟨by simp, fun _ => .nil⟩

theorem singleton {ts : List Token} {t : Token} (h : t ∈ ts) (cause : Cause) :
    Orderly ts [⟨cause, t.span⟩] :=
  ⟨by simpa using ⟨t, h, rfl⟩, fun _ => List.pairwise_singleton _ _⟩

theorem mono {ts us : List Token} {fs : List Fault} (h : Orderly ts fs) (hs : ts.Sublist us) :
    Orderly us fs where
  within f hf := by
    obtain ⟨t, ht, e⟩ := h.within f hf
    exact ⟨t, hs.subset ht, e⟩
  ordered hp := h.ordered (hp.sublist hs)

theorem append {ts us : List Token} {fs gs : List Fault} (hf : Orderly ts fs) (hg : Orderly us gs)
    (hc : unclosedSpans fs = [] ∨ gs = []) : Orderly (ts ++ us) (fs ++ gs) where
  within f hmem := by
    rcases List.mem_append.mp hmem with hmem | hmem
    · exact (hf.mono (List.sublist_append_left ts us)).within f hmem
    · exact (hg.mono (List.sublist_append_right ts us)).within f hmem
  ordered hp := by
    obtain ⟨hts, hus, hcross⟩ := List.pairwise_append.mp hp
    refine List.pairwise_append.mpr ⟨hf.ordered hts, hg.ordered hus, ?_⟩
    intro f hfm g hgm
    rcases hc with hc | rfl
    · obtain ⟨t, ht, et⟩ := hf.within f hfm
      obtain ⟨u, hu, eu⟩ := hg.within g hgm
      have hclosed : ¬ f.isUnclosed := by
        have := List.map_eq_nil_iff.mp hc
        exact List.filter_eq_nil_iff.mp this f hfm
      refine ⟨fun h => absurd h hclosed, fun _ => ?_⟩
      rw [et, eu]
      exact hcross t ht u hu
    · cases hgm

theorem cons {t : Token} {ts : List Token} {fs : List Fault} {cause : Cause}
    (h : Orderly (t :: ts) fs) (hc : cause.isUnclosed = false) :
    Orderly (t :: ts) (⟨cause, t.span⟩ :: fs) where
  within := List.forall_mem_cons.mpr ⟨⟨t, by simp, rfl⟩, h.within⟩
  ordered hp := by
    refine List.pairwise_cons.mpr ⟨fun g hg => ⟨fun hu => ?_, fun _ => ?_⟩, h.ordered hp⟩
    · simp [isUnclosed, hc] at hu
    · obtain ⟨u, hu, eu⟩ := h.within g hg
      rw [eu]
      rcases List.mem_cons.mp hu with rfl | hu
      · exact Position.le_refl _
      · exact (List.pairwise_cons.mp hp).1 u hu

theorem snoc {ts : List Token} {fs : List Fault} {t : Token} {cause : Cause} (h : Orderly ts fs)
    (ht : t ∈ ts) (hc : cause.isUnclosed) : Orderly ts (fs ++ [⟨cause, t.span⟩]) where
  within f hf := by
    rcases List.mem_append.mp hf with hf | hf
    · exact h.within f hf
    · exact ⟨t, ht, by rw [List.mem_singleton.mp hf]⟩
  ordered hp := by
    refine List.pairwise_append.mpr ⟨h.ordered hp, List.pairwise_singleton _ _, ?_⟩
    intro f _ g hg
    obtain rfl := List.mem_singleton.mp hg
    exact ⟨fun _ => hc, fun hn => absurd hc hn⟩

theorem settle {depth : Nat} {opener : Token} {closer : Option Token} {unclosed : Cause}
    {inside : Contents} {ts : List Token} (hu : unclosed.isUnclosed)
    (h : Orderly ts inside.faults) :
    Orderly (opener :: ts) (settle depth opener closer unclosed inside).faults := by
  by_cases hlt : depth < maxDepth
  · rw [faults_settle_of_lt hlt]
    have h' := h.mono (List.sublist_cons_self opener ts)
    cases closer with
    | some _ => simpa using h'
    | none => exact h'.snoc (by simp) hu
  · rw [faults_settle_of_not_lt hlt]
    exact .singleton (by simp) _

theorem block {opener : Token} {inside rest : Forest} {closer : Option Token}
    {own later : List Fault} (hown : Orderly (opener :: inside.tokens) own)
    (hlater : Orderly rest.tokens later) (hc : unclosedSpans own = [] ∨ later = []) :
    Orderly (Forest.block opener inside closer rest).tokens (own ++ later) := by
  have h := hown.append (hlater.mono (List.sublist_append_right closer.toList rest.tokens)) hc
  simpa [Forest.tokens] using h

end Orderly

theorem closed_or_last (finish depth : Nat) {opener : Token} {inside rest : Forest}
    {closer : Option Token} {unclosed : Cause} (hu : unclosed.isUnclosed)
    (hf : (Forest.block opener inside closer rest).Grouped) :
    unclosedSpans
      (settle depth opener closer unclosed (contents finish (depth + 1) none inside)).faults = [] ∨
    rest = .nil := by
  cases closer with
  | none => exact .inr hf.2.2
  | some closer =>
    have hin := unclosedSpans_contents finish (depth + 1) none inside hf.of_inside
    rw [unclosedSpans_settle hu (fun _ => hf.2.1.unclosed) hin]
    simp

theorem orderly_contents (finish depth : Nat) (pending : Option Header) (f : Forest)
    (hf : f.Grouped) : Orderly f.tokens (contents finish depth pending f).faults := by
  fun_induction contents finish depth pending f with
  | case1 | case2 => exact .nil _
  | case3 depth t rest ih | case4 depth h t rest ha ih | case5 depth h t rest ha ih =>
    exact (ih hf.2).mono (List.sublist_cons_self t rest.tokens)
  | case6 depth opener inside closer rest own stray ihi ihr =>
    have hown : Orderly (opener :: inside.tokens) own.faults := (ihi hf.of_inside).settle rfl
    refine (hown.cons rfl).block (ihr hf.of_rest) ?_
    exact (closed_or_last finish depth rfl hf).imp id fun h => by rw [h]; rfl
  | case7 depth h opener inside closer rest own d ihi ihr =>
    have hown : Orderly (opener :: inside.tokens) own.faults := (ihi hf.of_inside).settle rfl
    refine hown.block (ihr hf.of_rest) ?_
    exact (closed_or_last finish depth rfl hf).imp id fun h => by rw [h]; rfl

theorem orderly_topBlock (finish : Nat) {opener : Token} {inside rest : Forest}
    {closer : Option Token} {unclosed : Cause} (hu : unclosed.isUnclosed)
    (hf : (Forest.block opener inside closer rest).Grouped) :
    Orderly (opener :: inside.tokens) (topBlock finish opener inside closer unclosed).faults :=
  (orderly_contents finish 1 none inside hf.of_inside).settle hu

/-- The addresses that wait for a block may be reported too. -/
def lastAddress : Option Heading → List Token
  | none => []
  | some h => [h.last]

theorem orderly_stretch (finish : Nat) (pending : Option Heading) (f : Forest) (hf : f.Grouped) :
    Orderly (lastAddress pending ++ f.tokens) (stretch finish pending f).faults := by
  fun_induction stretch finish pending f with
  | case1 => exact .nil _
  | case2 h => exact .singleton (by simp [lastAddress]) _
  | case3 t rest ih => exact ih hf.2
  | case4 h t rest ha ih => exact (ih hf.2).mono (List.sublist_cons_self _ _)
  | case5 h t rest ha ih =>
    have hown : Orderly [h.last] h.plain.faults := .singleton (by simp) _
    exact hown.append (ih hf.2) (.inl rfl)
  | case6 opener inside closer rest body ih =>
    have hown : Orderly _ body.faults := orderly_topBlock finish rfl hf
    refine (hown.cons rfl).block (ih hf.of_rest) ?_
    exact (closed_or_last finish 0 rfl hf).imp id fun h => by rw [h]; rfl
  | case7 h opener inside closer rest body ih =>
    have hown : Orderly _ body.faults := orderly_topBlock finish rfl hf
    refine (hown.block (ih hf.of_rest) ?_).mono (List.sublist_cons_self _ _)
    exact (closed_or_last finish 0 rfl hf).imp id fun h => by rw [h]; rfl

/-! ### Faults outside of all blocks -/

theorem withCause_settle_eq_nil {cause : Cause} (hc : cause = .strayClose ∨ cause = .missingBlock)
    {depth : Nat} {opener : Token} {closer : Option Token} {unclosed : Cause} {inside : Contents}
    (hu : unclosed.isUnclosed) (hin : withCause cause inside.faults = []) :
    withCause cause (settle depth opener closer unclosed inside).faults = [] := by
  have hcause : cause.isUnclosed = false ∧ Cause.tooDeep ≠ cause := by
    rcases hc with rfl | rfl <;> simp [Cause.isUnclosed]
  have hne : unclosed ≠ cause := by
    rintro rfl
    simp [hu] at hcause
  by_cases hlt : depth < maxDepth
  · rw [faults_settle_of_lt hlt, withCause_append, hin]
    cases closer <;> simp [withCause_cons, hne]
  · rw [faults_settle_of_not_lt hlt]
    simp [withCause_cons, hcause]

theorem withCause_contents_eq_nil {cause : Cause} (hc : cause = .strayClose ∨ cause = .missingBlock)
    (finish depth : Nat) (pending : Option Header) (f : Forest) :
    withCause cause (contents finish depth pending f).faults = [] := by
  have hstray : Cause.strayOpen ≠ cause := by
    rcases hc with rfl | rfl <;> simp
  fun_induction contents finish depth pending f with
  | case1 | case2 => rfl
  | case3 depth t rest ih | case4 depth h t rest ha ih | case5 depth h t rest ha ih => exact ih
  | case6 depth opener inside closer rest own stray ihi ihr =>
    have hown : withCause cause own.faults = [] := withCause_settle_eq_nil hc rfl ihi
    simp [Contents.append, withCause_cons, stray, hstray, hown, ihr]
  | case7 depth h opener inside closer rest own d ihi ihr =>
    have hown : withCause cause own.faults = [] := withCause_settle_eq_nil hc rfl ihi
    simp [Contents.append, hown, ihr]

theorem withCause_topBlock_eq_nil {cause : Cause} (hc : cause = .strayClose ∨ cause = .missingBlock)
    (finish : Nat) {opener : Token} {inside : Forest} {closer : Option Token} {unclosed : Cause}
    (hu : unclosed.isUnclosed) :
    withCause cause (topBlock finish opener inside closer unclosed).faults = [] :=
  withCause_settle_eq_nil hc hu (withCause_contents_eq_nil hc finish 1 none inside)

theorem withCause_strayClose_stretch (finish : Nat) (pending : Option Heading) (f : Forest) :
    withCause .strayClose (stretch finish pending f).faults = [] := by
  fun_induction stretch finish pending f with
  | case1 | case2 => rfl
  | case3 t rest ih | case4 h t rest ha ih | case5 h t rest ha ih => exact ih
  | case6 opener inside closer rest body ih | case7 h opener inside closer rest body ih =>
    have hbody : withCause .strayClose body.faults = [] :=
      withCause_topBlock_eq_nil (.inl rfl) finish rfl
    rw [Stretch.append, withCause_append, ih, List.append_nil]
    exact hbody

/-! ## A row of tokens and its faults -/

/-- The faults `fs` are what the stack reports of the row `ts`. -/
structure Reported (ts : List Token) (fs : List Fault) : Prop where
  unmatched : withCause .strayClose fs =
    (select isUnmatched [] ts).map fun t => ⟨.strayClose, t.span⟩
  tooDeep : withCause .tooDeep fs = (select isTooDeep [] ts).map fun t => ⟨.tooDeep, t.span⟩
  unclosed : unclosedSpans fs = (outermost maxDepth (after [] ts)).map Token.span
  orderly : Orderly ts fs

/-- Behind a row that leaves nothing open, a closing brace is stray and the stack starts anew. -/
theorem Reported.join {ts us : List Token} {fs gs : List Fault} {c : Token} (hf : Reported ts fs)
    (hg : Reported us gs) (hc : c.kind = .closing) (hempty : after [] ts = []) :
    Reported (ts ++ c :: us) (fs ++ ⟨.strayClose, c.span⟩ :: gs) where
  unmatched := by
    rw [select_append, hempty, select, push_closing hc, withCause_append, hf.unmatched,
      withCause_cons, hg.unmatched]
    simp [isUnmatched, hc]
  tooDeep := by
    rw [select_append, hempty, select, push_closing hc, withCause_append, hf.tooDeep,
      withCause_cons, hg.tooDeep]
    simp [isTooDeep, hc]
  unclosed := by
    have hfs : unclosedSpans fs = [] := by rw [hf.unclosed, hempty]; rfl
    rw [after_append, hempty, after_cons, push_closing hc, unclosedSpans_append, hfs]
    exact hg.unclosed
  orderly := by
    have hfs : unclosedSpans fs = [] := by rw [hf.unclosed, hempty]; rfl
    exact hf.orderly.append ((hg.orderly.mono (List.sublist_cons_self c us)).cons rfl) (.inl hfs)

theorem Reported.finish {ts : List Token} {fs : List Fault} {e : Token} (h : Reported ts fs)
    (he : e.kind = .finish) : Reported (ts ++ [e]) fs where
  unmatched := by rw [h.unmatched, select_append]; simp [select, isUnmatched, he]
  tooDeep := by rw [h.tooDeep, select_append]; simp [select, isTooDeep, he]
  unclosed := by rw [h.unclosed, after_append]; simp [after, push, he]
  orderly := h.orderly.mono (List.sublist_append_left ts [e])

theorem reported_stretch (finish : Nat) {f : Forest} (hf : f.Grouped) :
    Reported f.tokens (stretch finish none f).faults where
  unmatched := by rw [withCause_strayClose_stretch, Forest.select_isUnmatched hf]; rfl
  tooDeep := withCause_tooDeep_stretch finish none f hf
  unclosed := by rw [unclosedSpans_stretch _ _ _ hf, Forest.after_tokens hf, List.append_nil]
  orderly := orderly_stretch finish none f hf

theorem reported_globals (finish : Nat) {opener : Token} {inside rest : Forest}
    {closer : Option Token} (hf : (Forest.block opener inside closer rest).Grouped) :
    Reported (Forest.block opener inside closer rest).tokens
      ((topBlock finish opener inside closer .unclosedGlobals).faults ++
        (stretch finish none rest).faults) where
  unmatched := by
    rw [withCause_append, withCause_topBlock_eq_nil (.inl rfl) finish rfl,
      withCause_strayClose_stretch, Forest.select_isUnmatched hf]
    rfl
  tooDeep := by
    rw [withCause_append, withCause_tooDeep_stretch finish none rest hf.of_rest,
      withCause_tooDeep_topBlock finish rfl hf]
  unclosed := by
    have hin := unclosedSpans_contents finish 1 none inside hf.of_inside
    rw [Forest.after_tokens hf, List.append_nil]
    exact unclosedSpans_block 0 rfl hf hin (unclosedSpans_stretch finish none rest hf.of_rest)
  orderly := by
    refine (orderly_topBlock finish rfl hf).block (orderly_stretch finish none rest hf.of_rest) ?_
    exact (closed_or_last finish 0 rfl hf).imp id fun h => by rw [h]; rfl

theorem reported_later (finish : Nat) : ∀ {f : Forest} {fs : List Fault}
    {later : List (Token × Forest)}, Reported f.tokens fs → Forest.Split.GroupedFrom f later →
    Reported (Forest.Split.tokens ⟨f, later⟩) (fs ++ (laterStretches finish later).faults)
  | f, fs, [], h, _ => by simpa [Forest.Split.tokens, laterStretches] using h
  | f, fs, (c, g) :: later, h, ⟨hf, hc, hg⟩ => by
    have hempty : after [] f.tokens = [] := by
      rw [Forest.after_tokens hf.grouped, hf.unclosed]; rfl
    have hlater := reported_later finish (reported_stretch finish hg.grouped) hg
    have := h.join hlater hc hempty
    simpa [Forest.Split.tokens, laterStretches, Stretch.append] using this

theorem reported_ofForest (finish : Nat) {s : Forest.Split} (hs : s.Grouped) :
    Reported s.tokens (ofForest finish s).faults := by
  obtain ⟨first, later⟩ := s
  have hf : first.Grouped := hs.grouped
  cases first with
  | nil | word _ _ => exact reported_later finish (reported_stretch finish hf) hs
  | block opener inside closer rest =>
    have := reported_later finish (reported_globals finish hf) hs
    rwa [List.append_assoc] at this

theorem reported_dropLast (source : String) :
    Reported (tokens source).dropLast (read source).faults := by
  obtain ⟨ws, e, hts, _, hgroup, hws⟩ := Forest.exists_ofTokens source
  have h := reported_ofForest ((tokens source).getLast?.elim 0 Token.line)
    (Forest.grouped_ofTokens ws)
  rw [hws, ← hgroup] at h
  rwa [hts, List.dropLast_concat]

theorem reported_read (source : String) : Reported (tokens source) (read source).faults := by
  obtain ⟨ws, e, hts, he, _, _⟩ := tokens_finish_last source
  have h := reported_dropLast source
  rw [hts, List.dropLast_concat] at h
  rw [hts]
  exact h.finish he

end Document

/-! ## Main result -/

/-- The stack of open braces decides on the faults of braces. Stray closing braces are those that
meet an empty stack, blocks are too deep if they meet a full one, and of the blocks left on the
stack the outermost are reported, from the inside out. These come after all other faults, which
follow the text. -/
theorem brace_faults (source : String) :
    Fault.withCause .strayClose (Document.read source).faults =
      ((Stack.select Stack.isUnmatched [] (tokens source)).map fun t => ⟨.strayClose, t.span⟩) ∧
    Fault.withCause .tooDeep (Document.read source).faults =
      ((Stack.select Stack.isTooDeep [] (tokens source)).map fun t => ⟨.tooDeep, t.span⟩) ∧
    ((Document.read source).faults.filter Fault.isUnclosed).map Fault.span =
      (Stack.outermost maxDepth (Stack.after [] (tokens source))).map Token.span ∧
    ((Document.read source).faults.Pairwise fun f g => f.isUnclosed → g.isUnclosed) ∧
    ((Document.read source).faults.filter fun f => !f.isUnclosed).Pairwise
      fun f g => f.span.start ≤ g.span.start := by
  have h := Document.reported_read source
  have hstarts : (tokens source).Pairwise fun t u => t.start ≤ u.start :=
    (tokens_pairwise source).imp fun hle => Position.le_trans (Position.le_after _ _) hle
  have hpair := h.orderly.ordered hstarts
  refine ⟨h.unmatched, h.tooDeep, h.unclosed, hpair.imp fun hr => hr.1, ?_⟩
  refine List.pairwise_filter.mpr (hpair.imp fun hr _ hg => hr.2 ?_)
  simpa using hg

end Caddyfile
