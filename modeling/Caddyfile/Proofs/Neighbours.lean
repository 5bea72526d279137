import Caddyfile.Proofs.Braces

/-!
# Faults that the neighbours of a token decide

Whether an opening brace is stray, and whether addresses lack a block, can be told from the token in
front, the token behind and the stack of open braces (`faults_by_neighbours`). The reader does not
look back: it carries the words read so far along, and they are there exactly if the last token was
a word.
-/

namespace Caddyfile

namespace Stack

/-! ## Tokens and their neighbours -/

/-- The tokens that `p` picks, given the token before each, the stack in front of it and the token
after it. The row stands between `before` and `next`. -/
def pick (p : Option Token → List Token → Token → Option Token → Bool) :
    Option Token → List Token → List Token → Option Token → List Token
  | _, _, [], _ => []
  | before, stack, t :: ts, next =>
    (if p before stack t (ts.head?.or next) then [t] else []) ++
      pick p (some t) (push stack t) ts next

/-- An opening brace with a token in front of it that is no word, where blocks still count. -/
def isStray (before : Option Token) (stack : List Token) (t : Token) (_next : Option Token) :
    Bool :=
  t.kind = .opening && stack.length ≤ maxDepth && before.any (!·.isWord)

/-- Addresses go on from `t` to `u`: along the line where `t` ends, and over line ends after a
comma. -/
def continues (t u : Token) : Bool :=
  u.isWord && (u.line = t.stop.line || t.value.toList.getLast? = some ',')

/-- A word outside of all blocks that neither a block nor another address follows. -/
def isHeadless (_before : Option Token) (stack : List Token) (t : Token) (next : Option Token) :
    Bool :=
  t.isWord && stack.isEmpty && !next.any fun u => u.kind = .opening || continues t u

theorem pick_append (p : Option Token → List Token → Token → Option Token → Bool)
    (before : Option Token) (stack ts us : List Token) (next : Option Token) :
    pick p before stack (ts ++ us) next =
      pick p before stack ts (us.head?.or next) ++
        pick p (ts.getLast?.or before) (after stack ts) us next := by
  induction ts generalizing before stack with
  | nil => rfl
  | cons t ts ih =>
    have hlast : ts.getLast?.or (some t) = (t :: ts).getLast?.or before := by
      simp [List.getLast?_cons, Option.or_some]
    have hnext : (ts ++ us).head?.or next = ts.head?.or (us.head?.or next) := by
      rw [List.head?_append, Option.or_assoc]
    rw [List.cons_append, pick, ih, pick, hnext, hlast, List.append_assoc]
    rfl

end Stack

/-! ## Neighbours in a forest -/

namespace Forest

open Stack

section
variable {p : Option Token → List Token → Token → Option Token → Bool}
  (hw : ∀ before stack t next, t.isWord → p before stack t next = false)
  (hc : ∀ before stack t next, t.kind = .closing → p before stack t next = false)

include hw in
theorem pick_word {t : Token} {rest : Forest} (h : (word t rest).Grouped) (before : Option Token)
    (stack : List Token) (next : Option Token) :
    pick p before stack (word t rest).tokens next = pick p (some t) stack rest.tokens next := by
  rw [tokens, pick, push_word h.1, hw _ _ _ _ h.1]
  rfl

include hc in
/-- In front of what follows a block stands its closing brace. Nothing follows one without. -/
theorem pick_block {opener : Token} {inside : Forest} {closer : Option Token} {rest : Forest}
    (h : (block opener inside closer rest).Grouped) (before : Option Token) (stack : List Token)
    (next : Option Token) :
    pick p before stack (block opener inside closer rest).tokens next =
      (if p before stack opener ((inside.tokens ++ (closer.toList ++ rest.tokens)).head?.or next)
        then [opener] else []) ++
      (pick p (some opener) (opener :: stack) inside.tokens (closer.or next) ++
        pick p (some (closer.getD opener)) stack rest.tokens next) := by
  rw [tokens, pick, push_opening h.of_opener, pick_append]
  cases closer with
  | none =>
    obtain ⟨_, _, rfl⟩ := h
    simp [tokens, pick]
  | some closer =>
    obtain ⟨_, hi, hk, _⟩ := h
    rw [after_tokens hi.grouped, hi.unclosed, Option.toList_some, List.singleton_append,
      List.nil_append, pick, hc _ _ _ _ hk, push_closing hk]
    rfl

end

section
variable {opener : Token} {inside : Forest} {closer : Option Token} {rest : Forest}
  (h : (block opener inside closer rest).Grouped)
include h

theorem isWord_opener : opener.isWord = false := by
  rw [Token.isWord, h.of_opener]
  rfl

theorem isWord_behind : (closer.getD opener).isWord = false := by
  cases closer with
  | none => exact isWord_opener h
  | some closer => rw [Option.getD_some, Token.isWord, h.2.2.1]; rfl

end

theorem isStray_word (before : Option Token) (stack : List Token) (t : Token) (next : Option Token)
    (h : t.isWord) : isStray before stack t next = false := by
  rcases kind_of_isWord h with hk | hk
  · simp [isStray, hk]
  · simp [isStray, hk]

theorem isStray_closing (before : Option Token) (stack : List Token) (t : Token)
    (next : Option Token) (h : t.kind = .closing) : isStray before stack t next = false := by
  simp [isStray, h]

theorem isHeadless_closing (before : Option Token) (stack : List Token) (t : Token)
    (next : Option Token) (h : t.kind = .closing) : isHeadless before stack t next = false := by
  simp [isHeadless, Token.isWord, h, Token.Kind.isWord]

theorem pick_isStray_eq_nil {f : Forest} (h : f.Grouped) {stack : List Token}
    (hs : maxDepth < stack.length) (before next : Option Token) :
    pick isStray before stack f.tokens next = [] := by
  induction f generalizing before stack next with
  | nil => rfl
  | word t rest ih => rw [pick_word isStray_word h, ih h.2 hs]
  | block opener inside closer rest ihi ihr =>
    have hopen : ∀ next, isStray before stack opener next = false := by
      intro next
      simp [isStray, Nat.not_le_of_lt hs]
    have hin : maxDepth < (opener :: stack).length := Nat.lt_succ_of_lt hs
    rw [pick_block isStray_closing h, hopen, ihi h.of_inside hin, ihr h.of_rest hs]
    rfl

theorem pick_isHeadless_eq_nil {f : Forest} (h : f.Grouped) {stack : List Token}
    (hs : stack ≠ []) (before next : Option Token) :
    pick isHeadless before stack f.tokens next = [] := by
  have hnot : ∀ before t next, isHeadless before stack t next = false := by
    intro before t next
    simp [isHeadless, hs]
  induction f generalizing before stack next with
  | nil => rfl
  | word t rest ih =>
    rw [tokens, pick, push_word h.1, hnot, ih h.2 hs _ _ hnot]
    rfl
  | block opener inside closer rest ihi ihr =>
    rw [pick_block isHeadless_closing h, hnot, ihr h.of_rest hs _ _ hnot,
      ihi h.of_inside (by simp) _ _ (by simp [isHeadless])]
    rfl

/-- Of a block and what follows it, only what follows can lack a block. -/
theorem pick_isHeadless_block {opener : Token} {inside : Forest} {closer : Option Token}
    {rest : Forest} (h : (block opener inside closer rest).Grouped) (before next : Option Token) :
    pick isHeadless before [] (block opener inside closer rest).tokens next =
      pick isHeadless (some (closer.getD opener)) [] rest.tokens next := by
  have hopener : ∀ next, isHeadless before [] opener next = false := by
    intro next
    simp [isHeadless, isWord_opener h]
  rw [pick_block isHeadless_closing h, hopener, pick_isHeadless_eq_nil h.of_inside (by simp)]
  rfl

theorem pick_isHeadless_word {t : Token} (ht : t.isWord) (before : Option Token) (ts : List Token)
    (next : Option Token) : pick isHeadless before [] (t :: ts) next =
      (if (ts.head?.or next).any fun u => u.kind = .opening || continues t u then [] else [t]) ++
        pick isHeadless (some t) [] ts next := by
  rw [pick, push_word ht]
  by_cases hgoes : (ts.head?.or next).any fun u => u.kind = .opening || continues t u
  · simp [isHeadless, ht, hgoes]
  · simp [isHeadless, ht, hgoes]

end Forest

namespace Document

open Stack Fault

/-! ## Stray opening braces -/

theorem withCause_strayOpen_settle {depth : Nat} {opener : Token} {closer : Option Token}
    {unclosed : Cause} {inside : Contents} {f : Forest} {stack : List Token} {next : Option Token}
    (hu : unclosed.isUnclosed) (hf : f.Grouped) (hs : stack.length = depth)
    (hin : depth + 1 ≤ maxDepth → withCause .strayOpen inside.faults =
      (pick isStray (some opener) (opener :: stack) f.tokens next).map
        fun t => ⟨.strayOpen, t.span⟩) :
    withCause .strayOpen (settle depth opener closer unclosed inside).faults =
      (pick isStray (some opener) (opener :: stack) f.tokens next).map
        fun t => ⟨.strayOpen, t.span⟩ := by
  have hne : unclosed ≠ .strayOpen := by rintro rfl; cases hu
  by_cases hlt : depth < maxDepth
  · rw [faults_settle_of_lt hlt, withCause_append, hin hlt]
    cases closer <;> simp [withCause_cons, hne]
  · rw [faults_settle_of_not_lt hlt, Forest.pick_isStray_eq_nil hf (by simp; omega)]
    rfl

/-- Words wait for a block exactly if the token in front is one of them. -/
theorem withCause_strayOpen_contents (finish depth : Nat) (pending : Option Header) (f : Forest)
    (stack : List Token) (before : Token) (next : Option Token) (hf : f.Grouped)
    (hs : stack.length = depth) (hd : depth ≤ maxDepth) (hb : before.isWord = pending.isSome) :
    withCause .strayOpen (contents finish depth pending f).faults =
      (pick isStray (some before) stack f.tokens next).map fun t => ⟨.strayOpen, t.span⟩ := by
  fun_induction contents finish depth pending f generalizing stack before next with
  | case1 | case2 => rfl
  | case3 depth t rest ih | case4 depth h t rest ha ih | case5 depth h t rest ha ih =>
    rw [Forest.pick_word Forest.isStray_word hf]
    exact ih stack t next hf.2 hs hd hf.1
  | case6 depth opener inside closer rest own stray ihi ihr =>
    have hown : withCause .strayOpen own.faults = _ :=
      withCause_strayOpen_settle rfl hf.of_inside hs fun hlt =>
        ihi (opener :: stack) opener (closer.or next) hf.of_inside (by simp [hs]) hlt
          (Forest.isWord_opener hf)
    have hrest := ihr stack (closer.getD opener) next hf.of_rest hs hd (Forest.isWord_behind hf)
    have hpick : ∀ next, isStray (some before) stack opener next := by
      intro next
      simp [isStray, hf.of_opener, hs, hd, hb]
    rw [Forest.pick_block Forest.isStray_closing hf, hpick, List.map_append, List.map_append,
      ← hown, ← hrest]
    simp [Contents.append, stray, withCause_cons]
  | case7 depth h opener inside closer rest own d ihi ihr =>
    have hown : withCause .strayOpen own.faults = _ :=
      withCause_strayOpen_settle rfl hf.of_inside hs fun hlt =>
        ihi (opener :: stack) opener (closer.or next) hf.of_inside (by simp [hs]) hlt
          (Forest.isWord_opener hf)
    have hrest := ihr stack (closer.getD opener) next hf.of_rest hs hd (Forest.isWord_behind hf)
    have hpick : ∀ next, isStray (some before) stack opener next = false := by
      intro next
      simp [isStray, hb]
    rw [Forest.pick_block Forest.isStray_closing hf, hpick, List.map_append, List.map_append,
      ← hown, ← hrest]
    simp [Contents.append]

theorem withCause_strayOpen_topBlock (finish : Nat) {opener : Token} {inside rest : Forest}
    {closer : Option Token} {unclosed : Cause} (hu : unclosed.isUnclosed)
    (hf : (Forest.block opener inside closer rest).Grouped) (next : Option Token) :
    withCause .strayOpen (topBlock finish opener inside closer unclosed).faults =
      (pick isStray (some opener) [opener] inside.tokens next).map
        fun t => ⟨.strayOpen, t.span⟩ := by
  refine withCause_strayOpen_settle hu hf.of_inside List.length_nil fun hlt => ?_
  exact withCause_strayOpen_contents finish 1 none inside [opener] opener next hf.of_inside rfl hlt
    (Forest.isWord_opener hf)

theorem withCause_strayOpen_stretch (finish : Nat) (pending : Option Heading) (f : Forest)
    (before : Token) (next : Option Token) (hf : f.Grouped)
    (hb : before.isWord = pending.isSome) :
    withCause .strayOpen (stretch finish pending f).faults =
      (pick isStray (some before) [] f.tokens next).map fun t => ⟨.strayOpen, t.span⟩ := by
  fun_induction stretch finish pending f generalizing before with
  | case1 | case2 => rfl
  | case3 t rest ih | case4 h t rest ha ih | case5 h t rest ha ih =>
    rw [Forest.pick_word Forest.isStray_word hf]
    exact ih t hf.2 hf.1
  | case6 opener inside closer rest body ih =>
    have hbody : withCause .strayOpen body.faults = _ :=
      withCause_strayOpen_topBlock finish rfl hf (closer.or next)
    have hrest := ih (closer.getD opener) hf.of_rest (Forest.isWord_behind hf)
    have hpick : ∀ next, isStray (some before) [] opener next := by
      intro next
      simp [isStray, hf.of_opener, hb]
    rw [Forest.pick_block Forest.isStray_closing hf, hpick, List.map_append, List.map_append,
      ← hbody, ← hrest]
    simp [Stretch.append, withCause_cons]
  | case7 h opener inside closer rest body ih =>
    have hbody : withCause .strayOpen body.faults = _ :=
      withCause_strayOpen_topBlock finish rfl hf (closer.or next)
    have hrest := ih (closer.getD opener) hf.of_rest (Forest.isWord_behind hf)
    have hpick : ∀ next, isStray (some before) [] opener next = false := by
      intro next
      simp [isStray, hb]
    rw [Forest.pick_block Forest.isStray_closing hf, hpick, List.map_append, List.map_append,
      ← hbody, ← hrest]
    simp [Stretch.append, Heading.withBlock]

/-! ## Addresses without a block -/

/-- The last of the addresses read so far is settled by the token behind it. -/
theorem withCause_missingBlock_stretch (finish : Nat) (pending : Option Heading) (f : Forest)
    (before next : Option Token) (hf : f.Grouped) (hp : ∀ h ∈ pending, h.last.isWord)
    (hn : ∀ u ∈ next, u.kind ≠ .opening ∧ u.isWord = false) :
    withCause .missingBlock (stretch finish pending f).faults =
      (pick isHeadless before [] (lastAddress pending ++ f.tokens) next).map
        fun t => ⟨.missingBlock, t.span⟩ := by
  fun_induction stretch finish pending f generalizing before with
  | case1 => rfl
  | case2 h =>
    have hnext : (next.any fun u => u.kind = .opening || continues h.last u) = false := by
      cases next with
      | none => rfl
      | some u => simp [hn u rfl, continues]
    rw [lastAddress, List.singleton_append, Forest.pick_isHeadless_word (hp h rfl)]
    simp [Forest.tokens, hnext, pick, Heading.plain, withCause_cons]
  | case3 t rest ih => exact ih before hf.2 (by simp [Heading.start, hf.1])
  | case4 h t rest ha ih =>
    have hgoes : continues h.last t := by simpa [continues, hf.1, Heading.accepts] using ha
    have hrest := ih (some h.last) hf.2 (by simp [Heading.push, hf.1])
    rw [lastAddress, List.singleton_append, Forest.pick_isHeadless_word (hp h rfl), hrest]
    simp [Forest.tokens, hgoes, lastAddress, Heading.push]
  | case5 h t rest ha ih =>
    have hends : continues h.last t = false := by simpa [continues, hf.1, Heading.accepts] using ha
    have hword : t.kind ≠ .opening := by
      rcases kind_of_isWord hf.1 with hk | hk <;> simp [hk]
    have hrest := ih (some h.last) hf.2 (by simp [Heading.start, hf.1])
    rw [lastAddress, List.singleton_append, Forest.pick_isHeadless_word (hp h rfl), Stretch.append,
      withCause_append, hrest]
    simp [Forest.tokens, hends, hword, lastAddress, Heading.start, Heading.plain, withCause_cons]
  | case6 opener inside closer rest body ih =>
    have hbody : withCause .missingBlock body.faults = [] :=
      withCause_topBlock_eq_nil (.inr rfl) finish rfl
    have hrest := ih (some (closer.getD opener)) hf.of_rest (by simp)
    rw [lastAddress, List.nil_append, Forest.pick_isHeadless_block hf]
    simpa [Stretch.append, withCause_cons, hbody, lastAddress] using hrest
  | case7 h opener inside closer rest body ih =>
    have hbody : withCause .missingBlock body.faults = [] :=
      withCause_topBlock_eq_nil (.inr rfl) finish rfl
    have hrest := ih (some (closer.getD opener)) hf.of_rest (by simp)
    have hopens : (Forest.block opener inside closer rest).tokens.head? = some opener := rfl
    rw [lastAddress, List.singleton_append, Forest.pick_isHeadless_word (hp h rfl), hopens,
      Forest.pick_isHeadless_block hf]
    simpa [Stretch.append, Heading.withBlock, hf.of_opener, hbody, lastAddress] using hrest

/-! ## A row of tokens and its faults -/

/-- The faults `fs` are what the neighbours in the row `ts` tell. -/
structure Told (before : Option Token) (ts : List Token) (next : Option Token) (fs : List Fault) :
    Prop where
  strayOpen : withCause .strayOpen fs =
    (pick isStray before [] ts next).map fun t => ⟨.strayOpen, t.span⟩
  missingBlock : withCause .missingBlock fs =
    (pick isHeadless before [] ts next).map fun t => ⟨.missingBlock, t.span⟩

section
variable {next : Option Token} (hn : ∀ u ∈ next, u.kind ≠ .opening ∧ u.isWord = false)
include hn

theorem told_stretch (finish : Nat) {f : Forest} (hf : f.Grouped) {before : Token}
    (hb : before.isWord = false) :
    Told (some before) f.tokens next (stretch finish none f).faults :=
  ⟨withCause_strayOpen_stretch finish none f before next hf hb,
    withCause_missingBlock_stretch finish none f (some before) next hf (by simp) hn⟩

/-- With nothing in front, a word comes first or nothing does. -/
theorem told_word (finish : Nat) {t : Token} {rest : Forest} (hf : (Forest.word t rest).Grouped) :
    Told none (Forest.word t rest).tokens next
      (stretch finish none (Forest.word t rest)).faults where
  strayOpen := by
    rw [Forest.pick_word Forest.isStray_word hf]
    exact withCause_strayOpen_stretch finish (some (.start t)) rest t next hf.2 hf.1
  missingBlock := withCause_missingBlock_stretch finish none _ none next hf (by simp) hn

theorem told_globals (finish : Nat) {opener : Token} {inside rest : Forest}
    {closer : Option Token} (hf : (Forest.block opener inside closer rest).Grouped) :
    Told none (Forest.block opener inside closer rest).tokens next
      ((topBlock finish opener inside closer .unclosedGlobals).faults ++
        (stretch finish none rest).faults) := by
  have hrest := told_stretch hn finish hf.of_rest (Forest.isWord_behind hf)
  constructor
  · have hpick : ∀ next, isStray none [] opener next = false := by
      intro next
      simp [isStray]
    rw [withCause_append, hrest.strayOpen,
      withCause_strayOpen_topBlock finish rfl hf (closer.or next),
      Forest.pick_block Forest.isStray_closing hf, hpick, ← List.map_append]
    rfl
  · rw [withCause_append, hrest.missingBlock, withCause_topBlock_eq_nil (.inr rfl) finish rfl,
      Forest.pick_isHeadless_block hf]
    rfl

end

/-- A stray closing brace is a neighbour on both sides. -/
theorem Told.join {before next : Option Token} {ts us : List Token} {fs gs : List Fault} {c : Token}
    (hf : Told before ts (some c) fs) (hg : Told (some c) us next gs) (hc : c.kind = .closing)
    (hempty : after [] ts = []) :
    Told before (ts ++ c :: us) next (fs ++ ⟨.strayClose, c.span⟩ :: gs) where
  strayOpen := by
    rw [pick_append, hempty, pick, Forest.isStray_closing _ _ _ _ hc, push_closing hc,
      withCause_append, hf.strayOpen, withCause_cons, hg.strayOpen]
    simp
  missingBlock := by
    rw [pick_append, hempty, pick, Forest.isHeadless_closing _ _ _ _ hc, push_closing hc,
      withCause_append, hf.missingBlock, withCause_cons, hg.missingBlock]
    simp

theorem told_later (finish : Nat) {before next : Option Token} {f : Forest} {fs : List Fault}
    {later : List (Token × Forest)} (hn : ∀ u ∈ next, u.kind ≠ .opening ∧ u.isWord = false)
    (hf : Forest.Split.GroupedFrom f later)
    (h : ∀ next : Option Token, (∀ u ∈ next, u.kind ≠ .opening ∧ u.isWord = false) →
      Told before f.tokens next fs) :
    Told before (Forest.Split.tokens ⟨f, later⟩) next
      (fs ++ (laterStretches finish later).faults) := by
  induction later generalizing before f fs with
  | nil => simpa [Forest.Split.tokens, laterStretches] using h next hn
  | cons p later ih =>
    obtain ⟨c, g⟩ := p
    obtain ⟨hclosed, hc, hg⟩ := hf
    have hword : c.isWord = false := by rw [Token.isWord, hc]; rfl
    have hempty : after [] f.tokens = [] := by
      rw [Forest.after_tokens hclosed.grouped, hclosed.unclosed]; rfl
    have hown := h (some c) (by simp [hc, hword])
    have hlater := ih hg fun next hn => told_stretch hn finish hg.grouped hword
    have := hown.join hlater hc hempty
    simpa [Forest.Split.tokens, laterStretches, Stretch.append] using this

theorem told_ofForest (finish : Nat) {s : Forest.Split} (hs : s.Grouped) {next : Option Token}
    (hn : ∀ u ∈ next, u.kind ≠ .opening ∧ u.isWord = false) :
    Told none s.tokens next (ofForest finish s).faults := by
  obtain ⟨first, later⟩ := s
  have hf : first.Grouped := hs.grouped
  cases first with
  | nil => exact told_later finish hn hs fun _ _ => ⟨rfl, rfl⟩
  | word t rest => exact told_later finish hn hs fun _ hn => told_word hn finish hf
  | block opener inside closer rest =>
    have := told_later finish hn hs fun _ hn => told_globals hn finish hf
    rwa [List.append_assoc] at this

end Document

/-- An opening brace is stray if and only if it is not the first token, no word stands right in
front of it, and at most `maxDepth` blocks are open there. Addresses lack a block if and only if the
last of them, outside of all blocks, has neither an opening brace nor one more address right behind
it. -/
theorem faults_by_neighbours (source : String) :
    Fault.withCause .strayOpen (Document.read source).faults =
      ((Stack.pick Stack.isStray none [] (tokens source) none).map
        fun t => ⟨.strayOpen, t.span⟩) ∧
    Fault.withCause .missingBlock (Document.read source).faults =
      (Stack.pick Stack.isHeadless none [] (tokens source) none).map
        fun t => ⟨.missingBlock, t.span⟩ := by
  obtain ⟨ws, e, hts, he, hgroup, hws⟩ := Forest.exists_ofTokens source
  have hend : ∀ u ∈ some e, u.kind ≠ .opening ∧ u.isWord = false := by
    simp [Token.isWord, he, Token.Kind.isWord]
  have h := Document.told_ofForest ((tokens source).getLast?.elim 0 Token.line)
    (Forest.grouped_ofTokens ws) hend
  rw [hws, ← hgroup] at h
  have hstray : ∀ before stack, Stack.pick Stack.isStray before stack [e] none = [] := by
    simp [Stack.pick, Stack.isStray, he]
  have hheadless : ∀ before stack, Stack.pick Stack.isHeadless before stack [e] none = [] := by
    simp [Stack.pick, Stack.isHeadless, hend]
  constructor
  · rw [hts, Stack.pick_append, hstray, List.append_nil]
    exact h.strayOpen
  · rw [hts, Stack.pick_append, hheadless, List.append_nil]
    exact h.missingBlock

end Caddyfile
