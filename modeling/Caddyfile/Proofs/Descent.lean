import Caddyfile.Proofs.Braces

/-!
# Reading in one pass

`step` is one move of a reader that takes the tokens from left to right. It keeps the blocks that it
is in on a stack, and a counter beside it that says whether one more may be entered. A block that
may not is passed over, with a count of its own for the braces in it. The reader always comes to an
end, with the document and the faults that are read from the grouped tokens (`reaches_done`).
-/

namespace Caddyfile

namespace Descent

open Document

/-- What a block is read for. -/
inductive Purpose where
  | globals
  | site (heading : Heading)
  /-- A stray block outside of all others: its directives are left out. -/
  | outside
  | directive (header : Header)
  /-- A stray block inside of another: its directives go to the other. -/
  | inside
deriving DecidableEq, Repr

/-- The fault of such a block if it is left open. -/
def Purpose.unclosed : Purpose → Fault.Cause
  | globals => .unclosedGlobals
  | site h => .unclosedSite h.first.value
  | directive h => .unclosedDirective h.name.value
  | outside | inside => .unclosedBlock

/-- A block that is being read, with its directives so far. -/
structure Frame where
  purpose : Purpose
  opener : Token
  directives : List Directive
deriving DecidableEq, Repr

def Frame.add (f : Frame) (ds : List Directive) : Frame :=
  { f with directives := f.directives ++ ds }

/-- What the reader is about to do. -/
inductive Control where
  | start
  /-- The head of the loop outside of all blocks. -/
  | head
  | addresses (heading : Heading)
  /-- In front of the test whether one more block may be entered. -/
  | enter (purpose : Purpose) (opener : Token)
  /-- The head of the loop in the innermost block. -/
  | block
  | arguments (header : Header)
  /-- In a block that is passed over; `count` braces are to be closed. -/
  | skip (purpose : Purpose) (opener : Token) (count : Nat)
  /-- Behind a block, with what was read of it. -/
  | leave (purpose : Purpose) (opener : Token) (directives : List Directive) (lastLine : Nat)
  | done
deriving DecidableEq, Repr

structure State where
  control : Control
  rest : List Token
  depth : Nat
  frames : List Frame
  document : Document
  faults : List Fault
deriving DecidableEq, Repr

namespace State

def ofTokens (ts : List Token) : State :=
  ⟨.start, ts, 0, [], ⟨none, []⟩, []⟩

def goTo (s : State) (control : Control) (rest : List Token) : State :=
  { s with control, rest }

def report (s : State) (fs : List Fault) : State :=
  { s with faults := s.faults ++ fs }

def addSites (s : State) (sites : List Site) : State :=
  { s with document := ⟨s.document.globals, s.document.sites ++ sites⟩ }

def setGlobals (s : State) (g : Globals) : State :=
  { s with document := ⟨some g, s.document.sites⟩ }

/-- Goes into a block. -/
def push (s : State) (purpose : Purpose) (opener : Token) : State :=
  { s with depth := s.depth + 1, frames := ⟨purpose, opener, []⟩ :: s.frames }

/-- Adds directives to the innermost block. -/
def add (s : State) (ds : List Directive) : State :=
  { s with frames := s.frames.modifyHead (·.add ds) }

/-- Reports that the innermost block is left open. -/
def reportUnclosed (s : State) : State :=
  s.report ((s.frames.head?.map fun f => ⟨f.purpose.unclosed, f.opener.span⟩).toList)

/-- Comes out of the innermost block, which ends on `lastLine`. -/
def leave (s : State) (lastLine : Nat) (rest : List Token) : State :=
  match s.frames with
  | [] => s
  | f :: frames =>
    { s with control := .leave f.purpose f.opener f.directives lastLine, rest,
             depth := s.depth - 1, frames }

/-- Enters a block, or passes it over. -/
def enter (s : State) (purpose : Purpose) (opener : Token) : State :=
  if s.depth < maxDepth then (s.push purpose opener).goTo .block s.rest
  else (s.report [⟨.tooDeep, opener.span⟩]).goTo (.skip purpose opener 1) s.rest

/-- Goes on behind a block. -/
def resume (s : State) (opener : Token) (ds : List Directive) (lastLine : Nat) : Purpose → State
  | .globals => (s.setGlobals ⟨opener, ds, lastLine⟩).goTo .head s.rest
  | .site h => (s.addSites [⟨h.first, h.others, ds, lastLine⟩]).goTo .head s.rest
  | .outside => s.goTo .head s.rest
  | .directive h => (s.add [h.withBlock opener ds lastLine]).goTo .block s.rest
  | .inside => (s.add ds).goTo .block s.rest

/-- Looks at the next token `t`, and takes it unless it is the end token. -/
def look (s : State) (t : Token) (ts : List Token) : State :=
  match s.control with
  | .start => if t.kind = .opening then s.goTo (.enter .globals t) ts else s.goTo .head (t :: ts)
  | .head =>
    match t.kind with
    | .finish => s.goTo .done (t :: ts)
    | .closing => (s.report [⟨.strayClose, t.span⟩]).goTo .head ts
    | .opening => (s.report [⟨.strayOpen, t.span⟩]).goTo (.enter .outside t) ts
    | .bare | .quoted => s.goTo (.addresses (.start t)) ts
  | .addresses h =>
    if t.isWord && h.accepts t then s.goTo (.addresses (h.push t)) ts
    else if t.kind = .opening then s.goTo (.enter (.site h) t) ts
    else ((s.addSites h.plain.sites).report h.plain.faults).goTo .head (t :: ts)
  | .block =>
    match t.kind with
    | .finish => s.reportUnclosed.leave t.line (t :: ts)
    | .closing => s.leave t.line ts
    | .opening => (s.report [⟨.strayOpen, t.span⟩]).goTo (.enter .inside t) ts
    | .bare | .quoted => s.goTo (.arguments ⟨t, []⟩) ts
  | .arguments h =>
    if t.isWord && h.accepts t then s.goTo (.arguments (h.push t)) ts
    else if t.kind = .opening then s.goTo (.enter (.directive h) t) ts
    else (s.add [h.plain]).goTo .block (t :: ts)
  | .skip purpose opener count =>
    match t.kind with
    | .finish => s.goTo (.leave purpose opener [] t.line) (t :: ts)
    | .closing =>
      if count = 1 then s.goTo (.leave purpose opener [] t.line) ts
      else s.goTo (.skip purpose opener (count - 1)) ts
    | .opening => s.goTo (.skip purpose opener (count + 1)) ts
    | .bare | .quoted => s.goTo (.skip purpose opener count) ts
  | .enter _ _ | .leave _ _ _ _ | .done => s

end State

/-- One move. -/
def step (s : State) : State :=
  match s.control, s.rest with
  | .enter purpose opener, _ => s.enter purpose opener
  | .leave purpose opener ds lastLine, _ => s.resume opener ds lastLine purpose
  | _, [] => s
  | _, t :: ts => s.look t ts

def run : Nat → State → State
  | 0, s => s
  | n + 1, s => run n (step s)

/-! ## Runs -/

def Reaches (s s' : State) : Prop :=
  ∃ n, run n s = s'

namespace Reaches

variable {s s' s'' : State}

theorem refl (s : State) : Reaches s s :=
  ⟨0, rfl⟩

theorem step (h : Reaches (step s) s') : Reaches s s' := by
  obtain ⟨n, hn⟩ := h
  exact ⟨n + 1, hn⟩

theorem one (h : Descent.step s = s') : Reaches s s' :=
  ⟨1, h⟩

theorem trans (h : Reaches s s') (h' : Reaches s' s'') : Reaches s s'' := by
  obtain ⟨n, hn⟩ := h
  induction n generalizing s with
  | zero =>
    obtain rfl : s = s' := hn
    exact h'
  | succ n ih => exact (ih hn).step

instance : Trans Reaches Reaches Reaches :=
  ⟨trans⟩

end Reaches

/-! ## Contents of a block -/

namespace State

/-- Adds contents to the innermost block. -/
def take (s : State) (inside : Contents) : State :=
  (s.add inside.directives).report inside.faults

theorem add_nil (s : State) : s.add [] = s := by
  obtain ⟨control, rest, depth, frames, document, faults⟩ := s
  cases frames with
  | nil => rfl
  | cons f frames => simp [add, Frame.add]

theorem add_add (s : State) (ds es : List Directive) : (s.add ds).add es = s.add (ds ++ es) := by
  obtain ⟨control, rest, depth, frames, document, faults⟩ := s
  cases frames with
  | nil => rfl
  | cons f frames => simp [add, Frame.add]

theorem report_nil (s : State) : s.report [] = s := by
  simp [report]

theorem report_report (s : State) (fs gs : List Fault) :
    (s.report fs).report gs = s.report (fs ++ gs) := by
  simp [report]

theorem take_nil (s : State) : s.take ⟨[], []⟩ = s := by
  rw [take, add_nil, report_nil]

theorem take_take (s : State) (a b : Contents) : (s.take a).take b = s.take (a.append b) := by
  have hcomm : ((s.add a.directives).report a.faults).add b.directives =
      ((s.add a.directives).add b.directives).report a.faults := rfl
  rw [take, take, hcomm, report_report, add_add]
  rfl

end State

/-! ## A block -/

section
variable (purpose : Purpose) (opener : Token)

theorem reaches_skip (s : State) {f : Forest} (hf : f.Grouped) {count : Nat} (hcount : 0 < count)
    (us : List Token) : Reaches (s.goTo (.skip purpose opener count) (f.tokens ++ us))
      (s.goTo (.skip purpose opener (count + f.unclosed.length)) us) := by
  induction f generalizing count us with
  | nil => exact .refl _
  | word t rest ih =>
    calc Reaches _ (s.goTo (.skip purpose opener count) (rest.tokens ++ us)) := by
          rcases Stack.kind_of_isWord hf.1 with hk | hk
          · exact .one (by simp [step, State.look, State.goTo, Forest.tokens, hk])
          · exact .one (by simp [step, State.look, State.goTo, Forest.tokens, hk])
      Reaches _ _ := ih hf.2 hcount us
  | block o inside closer rest ihi ihr =>
    have ho := hf.of_opener
    cases closer with
    | none =>
      obtain ⟨_, hi, rfl⟩ := hf
      calc Reaches _ (s.goTo (.skip purpose opener (count + 1)) (inside.tokens ++ us)) :=
            .one (by simp [step, State.look, State.goTo, Forest.tokens, ho])
        Reaches _ _ := by
            simpa [Forest.unclosed, Nat.add_comm 1, Nat.add_assoc] using
              ihi hi (Nat.succ_pos count) us
    | some c =>
      obtain ⟨_, hi, hc, hr⟩ := hf
      have hinside := ihi hi.grouped (Nat.succ_pos count) (c :: (rest.tokens ++ us))
      rw [hi.unclosed] at hinside
      have hne : count ≠ 0 := Nat.ne_of_gt hcount
      calc Reaches _ (s.goTo (.skip purpose opener (count + 1))
              (inside.tokens ++ c :: (rest.tokens ++ us))) :=
            .one (by simp [step, State.look, State.goTo, Forest.tokens, ho])
        Reaches _ (s.goTo (.skip purpose opener (count + 1)) (c :: (rest.tokens ++ us))) := hinside
        Reaches _ (s.goTo (.skip purpose opener count) (rest.tokens ++ us)) :=
            .one (by simp [step, State.look, State.goTo, hc, hne])
        Reaches _ _ := ihr hr hcount us

/-- Behind the tokens of a group a brace closes or the text ends. It ends there if a block of the
group is left open. -/
structure Behind (e : Token) (f : Forest) (us : List Token) : Prop where
  closes : ∃ u more, us = u :: more ∧ (u.kind = .closing ∨ u.kind = .finish)
  last : f.Closed ∨ us = [e]

/-- The reader takes a group, inside of a block, as the contents of the block are read. `pending` is
the directive whose arguments are being read. -/
def Reads (e : Token) (f : Forest) : Prop :=
  ∀ (s : State) (pending : Option Header) (us : List Token), Behind e f us →
    Reaches (s.goTo (pending.elim .block .arguments) (f.tokens ++ us))
      ((s.take (contents e.line s.depth pending f)).goTo .block us)

theorem reaches_leave (s : State) {e : Token} (he : e.kind = .finish) {inside rest : Forest}
    {closer : Option Token} (hf : (Forest.block opener inside closer rest).Grouped)
    (hin : Reads e inside) {us : List Token} (hus : closer = none → us = [e]) :
    let own := settle s.depth opener closer purpose.unclosed
      (contents e.line (s.depth + 1) none inside)
    Reaches (s.goTo (.enter purpose opener) (inside.tokens ++ (closer.toList ++ us)))
      ((s.report own.faults).goTo
        (.leave purpose opener own.directives (closingLine e.line closer)) us) := by
  intro own
  by_cases hlt : s.depth < maxDepth
  · have henter : ∀ ts, Reaches (s.goTo (.enter purpose opener) ts)
        ((s.push purpose opener).goTo .block ts) := fun ts => .one (if_pos hlt)
    have hread := hin (s.push purpose opener) none
    cases closer with
    | none =>
      obtain rfl := hus rfl
      calc Reaches _ ((s.push purpose opener).goTo .block (inside.tokens ++ [e])) := henter _
        Reaches _ (((s.push purpose opener).take (contents e.line (s.depth + 1) none inside)).goTo
            .block [e]) := hread [e] ⟨⟨e, [], rfl, .inr he⟩, .inr rfl⟩
        Reaches _ _ := .one ?_
      simp [step, State.look, he, own, settle, hlt, State.goTo, State.push, State.take, State.leave,
        State.reportUnclosed, State.add, State.report, Frame.add, closingLine]
    | some c =>
      obtain ⟨_, hi, hc, _⟩ := hf
      calc Reaches _ ((s.push purpose opener).goTo .block (inside.tokens ++ c :: us)) := henter _
        Reaches _ (((s.push purpose opener).take (contents e.line (s.depth + 1) none inside)).goTo
            .block (c :: us)) := hread (c :: us) ⟨⟨c, us, rfl, .inl hc⟩, .inl hi⟩
        Reaches _ _ := .one ?_
      simp [step, State.look, hc, own, settle, hlt, State.goTo, State.push, State.take, State.leave,
        State.add, State.report, Frame.add, closingLine]
  · have hown : own = ⟨[], [⟨.tooDeep, opener.span⟩]⟩ := if_neg hlt
    have hskip := reaches_skip purpose opener (s.report own.faults) hf.of_inside Nat.one_pos
      (closer.toList ++ us)
    rw [hown] at hskip ⊢
    refine .trans (.trans (.one (if_neg hlt)) hskip) (.one ?_)
    cases closer with
    | none =>
      obtain rfl := hus rfl
      simp [step, State.look, he, State.goTo, closingLine]
    | some c =>
      obtain ⟨_, hi, hc, _⟩ := hf
      simp [step, State.look, hc, hi.unclosed, State.goTo, closingLine]

end

namespace Behind

variable {e : Token} {us : List Token}

theorem not_word {f : Forest} (h : Behind e f us) :
    ∃ u more, us = u :: more ∧ u.isWord = false ∧ u.kind ≠ .opening := by
  obtain ⟨u, more, rfl, hu⟩ := h.closes
  refine ⟨u, more, rfl, ?_, ?_⟩
  · rcases hu with hu | hu <;> simp [Token.isWord, hu, Token.Kind.isWord]
  · rcases hu with hu | hu <;> simp [hu]

theorem of_word {t : Token} {rest : Forest} (h : Behind e (.word t rest) us) : Behind e rest us :=
  ⟨h.closes, h.last.imp_left And.right⟩

section
variable {opener : Token} {inside rest : Forest} {closer : Option Token}
  (h : Behind e (.block opener inside closer rest) us)
include h

theorem of_block : Behind e rest us := by
  refine ⟨h.closes, h.last.imp_left ?_⟩
  intro hclosed
  cases closer with
  | none => exact absurd hclosed id
  | some c => exact hclosed.2.2.2

theorem eq_of_open (hf : (Forest.block opener inside closer rest).Grouped) (hc : closer = none) :
    rest.tokens ++ us = [e] := by
  subst hc
  obtain ⟨_, _, rfl⟩ := hf
  exact h.last.resolve_left id

end

end Behind

theorem State.take_cons (s : State) (d : Directive) (inside : Contents) :
    (s.add [d]).take inside = s.take (inside.cons d) := by
  have hadd : s.add [d] = s.take ⟨[d], []⟩ := (report_nil _).symm
  rw [hadd, take_take]
  rfl

theorem isWord_of_opening {t : Token} (h : t.kind = .opening) : t.isWord = false := by
  simp [Token.isWord, h, Token.Kind.isWord]

theorem not_opening_of_isWord {t : Token} (h : t.isWord) : t.kind ≠ .opening := by
  intro hk
  simp [isWord_of_opening hk] at h

theorem tokens_block_append (opener : Token) (inside : Forest) (closer : Option Token)
    (rest : Forest) (us : List Token) :
    (Forest.block opener inside closer rest).tokens ++ us =
      opener :: (inside.tokens ++ (closer.toList ++ (rest.tokens ++ us))) := by
  simp [Forest.tokens]

theorem reaches_arguments {t : Token} (ht : t.isWord) (s : State) (ts : List Token) :
    Reaches (s.goTo .block (t :: ts)) (s.goTo (.arguments ⟨t, []⟩) ts) := by
  rcases Stack.kind_of_isWord ht with hk | hk
  · exact .one (by simp [step, State.look, State.goTo, hk])
  · exact .one (by simp [step, State.look, State.goTo, hk])

namespace Reads

variable {e : Token}

theorem nil : Reads e .nil := by
  intro s pending us hb
  cases pending with
  | none =>
    rw [contents, State.take_nil]
    exact .refl _
  | some h =>
    obtain ⟨u, more, rfl, hword, hopen⟩ := hb.not_word
    refine .one ?_
    simp [step, State.look, State.goTo, hword, hopen, Forest.tokens, contents, State.take,
      State.add, State.report]

theorem word {t : Token} (ht : t.isWord) {rest : Forest} (hr : Reads e rest) :
    Reads e (.word t rest) := by
  intro s pending us hb
  have hrest := fun s h => hr s (some h) us hb.of_word
  cases pending with
  | none => exact (reaches_arguments ht s _).trans (hrest s ⟨t, []⟩)
  | some h =>
    by_cases ha : h.accepts t
    · rw [contents, if_pos ha]
      refine .trans (.one ?_) (hrest s (h.push t))
      simp [step, State.look, State.goTo, ht, ha, Forest.tokens]
    · -- The directive ends in front of `t`, which is looked at once more as the start of the next.
      have hnext := (reaches_arguments ht (s.add [h.plain]) (rest.tokens ++ us)).trans
        (hrest (s.add [h.plain]) ⟨t, []⟩)
      rw [State.take_cons] at hnext
      rw [contents, if_neg ha]
      refine .trans (.one ?_) hnext
      simp [step, State.look, State.goTo, ha, not_opening_of_isWord ht, Forest.tokens, State.add]

theorem block (he : e.kind = .finish) {opener : Token} {inside rest : Forest}
    {closer : Option Token} (hf : (Forest.block opener inside closer rest).Grouped)
    (hin : Reads e inside) (hr : Reads e rest) : Reads e (.block opener inside closer rest) := by
  intro s pending us hb
  have ho := hf.of_opener
  rw [tokens_block_append]
  cases pending with
  | none =>
    let stray : Contents := ⟨[], [⟨.strayOpen, opener.span⟩]⟩
    let own := settle s.depth opener closer .unclosedBlock
      (contents e.line (s.depth + 1) none inside)
    have hrest := hr (s.take (stray.append own)) none us hb.of_block
    rw [State.take_take] at hrest
    calc Reaches _ ((s.report stray.faults).goTo (.enter .inside opener) _) :=
          .one (by simp [step, State.look, State.goTo, ho, State.report, stray])
      Reaches _ (((s.report stray.faults).report own.faults).goTo
          (.leave .inside opener own.directives _) _) :=
          reaches_leave .inside opener _ he hf hin (hb.eq_of_open hf)
      Reaches _ ((s.take (stray.append own)).goTo .block _) :=
          .one (by simp [step, State.resume, State.goTo, State.take, State.report, State.add,
            Contents.append, stray])
      Reaches _ _ := hrest
  | some h =>
    let own := settle s.depth opener closer (.unclosedDirective h.name.value)
      (contents e.line (s.depth + 1) none inside)
    let d := h.withBlock opener own.directives (closingLine e.line closer)
    have hrest := hr (s.take ⟨[d], own.faults⟩) none us hb.of_block
    rw [State.take_take] at hrest
    calc Reaches _ (s.goTo (.enter (.directive h) opener) _) :=
          .one (by simp [step, State.look, State.goTo, ho, isWord_of_opening ho])
      Reaches _ ((s.report own.faults).goTo (.leave (.directive h) opener own.directives _) _) :=
          reaches_leave (.directive h) opener s he hf hin (hb.eq_of_open hf)
      Reaches _ ((s.take ⟨[d], own.faults⟩).goTo .block _) := .one rfl
      Reaches _ _ := hrest

end Reads

theorem reads {e : Token} (he : e.kind = .finish) {f : Forest} (hf : f.Grouped) : Reads e f := by
  induction f with
  | nil => exact .nil
  | word t rest ih => exact .word hf.1 (ih hf.2)
  | block opener inside closer rest ihi ihr =>
    exact .block he hf (ihi hf.of_inside) (ihr hf.of_rest)

/-! ## Outside of all blocks -/

namespace State

/-- Adds the sites of a stretch of text. -/
def gather (s : State) (a : Stretch) : State :=
  (s.addSites a.sites).report a.faults

theorem gather_nil (s : State) : s.gather ⟨[], []⟩ = s := by
  simp [gather, addSites, report]

theorem gather_gather (s : State) (a b : Stretch) :
    (s.gather a).gather b = s.gather (a.append b) := by
  simp [gather, addSites, report, Stretch.append]

end State

theorem reaches_addresses {t : Token} (ht : t.isWord) (s : State) (ts : List Token) :
    Reaches (s.goTo .head (t :: ts)) (s.goTo (.addresses (.start t)) ts) := by
  rcases Stack.kind_of_isWord ht with hk | hk
  · exact .one (by simp [step, State.look, State.goTo, hk])
  · exact .one (by simp [step, State.look, State.goTo, hk])

section
variable {e : Token} (he : e.kind = .finish)
include he

theorem reaches_topBlock (purpose : Purpose) (s : State) (hs : s.depth = 0) {opener : Token}
    {inside rest : Forest} {closer : Option Token}
    (hf : (Forest.block opener inside closer rest).Grouped) {us : List Token}
    (hus : closer = none → us = [e]) :
    let body := topBlock e.line opener inside closer purpose.unclosed
    Reaches (s.goTo (.enter purpose opener) (inside.tokens ++ (closer.toList ++ us)))
      ((s.report body.faults).goTo
        (.leave purpose opener body.directives (closingLine e.line closer)) us) := by
  have hleave := reaches_leave purpose opener s he hf (reads he hf.of_inside) hus
  rw [hs] at hleave
  exact hleave

theorem reaches_stretch {f : Forest} (hf : f.Grouped) (s : State) (hs : s.depth = 0)
    (pending : Option Heading) {us : List Token} (hb : Behind e f us) :
    Reaches (s.goTo (pending.elim .head .addresses) (f.tokens ++ us))
      ((s.gather (stretch e.line pending f)).goTo .head us) := by
  induction f generalizing s pending with
  | nil =>
    cases pending with
    | none =>
      rw [stretch, State.gather_nil]
      exact .refl _
    | some h =>
      obtain ⟨u, more, rfl, hword, hopen⟩ := hb.not_word
      refine .one ?_
      simp [step, State.look, State.goTo, hword, hopen, Forest.tokens, stretch, State.gather,
        State.addSites, State.report]
  | word t rest ih =>
    obtain ⟨ht, hr⟩ := hf
    have hrest := fun s hs h => ih hr s hs (some h) hb.of_word
    cases pending with
    | none => exact (reaches_addresses ht s _).trans (hrest s hs (.start t))
    | some h =>
      by_cases ha : h.accepts t
      · rw [stretch, if_pos ha]
        refine .trans (.one ?_) (hrest s hs (h.push t))
        simp [step, State.look, State.goTo, ht, ha, Forest.tokens]
      · have hnext := (reaches_addresses ht (s.gather h.plain) (rest.tokens ++ us)).trans
          (hrest (s.gather h.plain) hs (.start t))
        rw [State.gather_gather] at hnext
        rw [stretch, if_neg ha]
        refine .trans (.one ?_) hnext
        simp [step, State.look, State.goTo, ha, not_opening_of_isWord ht, Forest.tokens,
          State.gather, State.addSites, State.report]
  | block opener inside closer rest _ ihr =>
    have ho := hf.of_opener
    rw [tokens_block_append]
    cases pending with
    | none =>
      let body := topBlock e.line opener inside closer .unclosedBlock
      let stray : Stretch := ⟨[], ⟨.strayOpen, opener.span⟩ :: body.faults⟩
      have hrest := ihr hf.of_rest (s.gather stray) hs none hb.of_block
      rw [State.gather_gather] at hrest
      calc Reaches _ ((s.report [⟨.strayOpen, opener.span⟩]).goTo (.enter .outside opener) _) :=
            .one (by simp [step, State.look, State.goTo, ho, State.report])
        Reaches _ (((s.report [⟨.strayOpen, opener.span⟩]).report body.faults).goTo
            (.leave .outside opener body.directives _) _) :=
            reaches_topBlock he .outside (s.report _) hs hf (hb.eq_of_open hf)
        Reaches _ ((s.gather stray).goTo .head _) :=
            .one (by simp [step, State.resume, State.goTo, State.gather, State.addSites,
              State.report, stray])
        Reaches _ _ := hrest
    | some h =>
      let body := topBlock e.line opener inside closer (.unclosedSite h.first.value)
      have hrest := ihr hf.of_rest (s.gather (h.withBlock body (closingLine e.line closer))) hs none
        hb.of_block
      rw [State.gather_gather] at hrest
      calc Reaches _ (s.goTo (.enter (.site h) opener) _) :=
            .one (by simp [step, State.look, State.goTo, ho, isWord_of_opening ho])
        Reaches _ ((s.report body.faults).goTo (.leave (.site h) opener body.directives _) _) :=
            reaches_topBlock he (.site h) s hs hf (hb.eq_of_open hf)
        Reaches _ ((s.gather (h.withBlock body _)).goTo .head _) := .one rfl
        Reaches _ _ := hrest

theorem reaches_later {f : Forest} {later : List (Token × Forest)}
    (h : Forest.Split.GroupedFrom f later) (s : State) (hs : s.depth = 0) :
    Reaches (s.goTo .head (Forest.Split.tokens ⟨f, later⟩ ++ [e]))
      ((s.gather ((stretch e.line none f).append (laterStretches e.line later))).goTo .head
        [e]) := by
  induction later generalizing f s with
  | nil =>
    have hstretch := reaches_stretch he h s hs none ⟨⟨e, [], rfl, .inr he⟩, .inr rfl⟩
    simpa [Forest.Split.tokens, laterStretches, Stretch.append] using hstretch
  | cons p later ih =>
    obtain ⟨c, g⟩ := p
    obtain ⟨hf, hc, hg⟩ := h
    let more := Forest.Split.tokens ⟨g, later⟩ ++ [e]
    have htokens : Forest.Split.tokens ⟨f, (c, g) :: later⟩ ++ [e] = f.tokens ++ c :: more := by
      simp [Forest.Split.tokens, more]
    let s' := (s.gather (stretch e.line none f)).report [⟨.strayClose, c.span⟩]
    calc Reaches _ (s.goTo .head (f.tokens ++ c :: more)) := htokens ▸ .refl _
      Reaches _ ((s.gather (stretch e.line none f)).goTo .head (c :: more)) :=
          reaches_stretch he hf.grouped s hs none ⟨⟨c, more, rfl, .inl hc⟩, .inl hf⟩
      Reaches _ (s'.goTo .head more) :=
          .one (by simp [step, State.look, State.goTo, hc, s', State.report])
      Reaches _ ((s'.gather ((stretch e.line none g).append (laterStretches e.line later))).goTo
          .head [e]) := ih hg s' hs
      Reaches _ _ := by
          simpa [s', laterStretches, State.gather, State.addSites, State.report, Stretch.append]
            using Reaches.refl _

theorem reaches_ofForest {groups : Forest.Split} (h : groups.Grouped) :
    Reaches (.ofTokens (groups.tokens ++ [e])) ⟨.done, [e], 0, [],
      (ofForest e.line groups).document, (ofForest e.line groups).faults⟩ := by
  obtain ⟨first, later⟩ := groups
  have hstart : ∀ t ts, t.kind ≠ .opening →
      Reaches (.ofTokens (t :: ts)) ((State.ofTokens []).goTo .head (t :: ts)) :=
    fun t ts ht => .one (if_neg ht)
  have hdone : ∀ s : State, Reaches (s.goTo .head [e]) (s.goTo .done [e]) :=
    fun s => .one (by simp [step, State.look, State.goTo, he])
  cases first with
  | nil =>
    have hlater := (reaches_later he h (State.ofTokens []) rfl).trans (hdone _)
    refine .trans ?_ hlater
    cases later with
    | nil => exact hstart e [] (by simp [he])
    | cons p later => exact hstart p.1 _ (by simp [h.2.1])
  | word t rest =>
    have hlater := (reaches_later he h (State.ofTokens []) rfl).trans (hdone _)
    exact .trans (hstart t _ (not_opening_of_isWord h.grouped.1)) hlater
  | block opener inside closer rest =>
    have hf : (Forest.block opener inside closer rest).Grouped := h.grouped
    let more := Forest.Split.tokens ⟨rest, later⟩ ++ [e]
    have htokens : Forest.Split.tokens ⟨.block opener inside closer rest, later⟩ ++ [e] =
        opener :: (inside.tokens ++ (closer.toList ++ more)) := by
      simp [Forest.Split.tokens, Forest.tokens, more]
    have hopen : closer = none → more = [e] := by
      rintro rfl
      obtain ⟨_, _, rfl⟩ := hf
      cases later with
      | nil => rfl
      | cons p later => exact absurd h.1 id
    let body := topBlock e.line opener inside closer .unclosedGlobals
    let s := ((State.ofTokens []).report body.faults).setGlobals
      ⟨opener, body.directives, closingLine e.line closer⟩
    rw [htokens]
    calc Reaches (.ofTokens (opener :: (inside.tokens ++ (closer.toList ++ more))))
          ((State.ofTokens []).goTo (.enter .globals opener)
            (inside.tokens ++ (closer.toList ++ more))) :=
          .one (if_pos hf.of_opener)
      Reaches _ (((State.ofTokens []).report body.faults).goTo
          (.leave .globals opener body.directives _) more) :=
          reaches_topBlock he .globals (State.ofTokens []) rfl hf hopen
      Reaches _ (s.goTo .head more) := .one rfl
      Reaches _ ((s.gather ((stretch e.line none rest).append (laterStretches e.line later))).goTo
          .head [e]) := reaches_later he h.of_rest s rfl
      Reaches _ _ := hdone _

end

/-- The reader comes to the end of a row of tokens with what is read from their groups. -/
theorem reaches_done {ts : List Token} {e : Token} (he : e.kind = .finish)
    (hts : ∀ t ∈ ts, t.kind ≠ .finish) :
    Reaches (.ofTokens (ts ++ [e])) ⟨.done, [e], 0, [],
      (Document.ofTokens (ts ++ [e])).document, (Document.ofTokens (ts ++ [e])).faults⟩ := by
  have hread : Document.ofTokens (ts ++ [e]) = ofForest e.line (Forest.ofTokens ts) := by
    rw [Document.ofTokens, Forest.ofTokens_finish he, List.getLast?_concat]
    rfl
  have hreach := reaches_ofForest he (Forest.grouped_ofTokens ts)
  rwa [Forest.tokens_ofTokens hts, ← hread] at hreach

end Descent

end Caddyfile
