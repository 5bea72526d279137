import Caddyfile.Proofs.Descent
import Caddyfile.Proofs.Paths

/-!
# How deep reading goes

A reader counts the blocks that it is in. The count is right at every move, it never exceeds the
limit, and it is back at zero whenever the reader is outside of all blocks: nothing is left over
from a block that was passed over or that the end of the text cut off. No directive of a document
lies inside too many others (`depth_bounded`).
-/

namespace Caddyfile

namespace Descent

open Document

/-- Whether such a block lies outside of all others. -/
def Purpose.isOuter : Purpose → Bool
  | globals | site _ | outside => true
  | directive _ | inside => false

/-- The outermost block, and no other, lies outside of all others. -/
def Rooted : List Frame → Prop
  | [] => True
  | f :: frames => (f.purpose.isOuter ↔ frames = []) ∧ Rooted frames

/-- The counter is the number of open blocks, and within the limit. -/
structure Counted (s : State) : Prop where
  depth_eq : s.depth = s.frames.length
  depth_le : s.depth ≤ maxDepth
  rooted : Rooted s.frames

/-- Which blocks may be open while the reader is about to do this. -/
def Control.Fits (frames : List Frame) : Control → Prop
  | start | head | addresses _ | done => frames = []
  | enter purpose _ | skip purpose _ _ | leave purpose _ _ _ => purpose.isOuter ↔ frames = []
  | block | arguments _ => frames ≠ []

structure Sound (s : State) : Prop where
  counted : Counted s
  fits : s.control.Fits s.frames

/-! ## What a move keeps -/

theorem rooted_modifyHead {frames : List Frame} (h : Rooted frames) (ds : List Directive) :
    Rooted (frames.modifyHead (·.add ds)) := by
  cases frames with
  | nil => trivial
  | cons f frames => exact h

theorem Counted.add {s : State} (h : Counted s) (ds : List Directive) : Counted (s.add ds) where
  depth_eq := by simpa [State.add] using h.depth_eq
  depth_le := h.depth_le
  rooted := rooted_modifyHead h.rooted ds

theorem Counted.push {s : State} (h : Counted s) (hlt : s.depth < maxDepth) {purpose : Purpose}
    (hp : purpose.isOuter ↔ s.frames = []) (opener : Token) : Counted (s.push purpose opener) where
  depth_eq := congrArg Nat.succ h.depth_eq
  depth_le := hlt
  rooted := ⟨hp, h.rooted⟩

namespace Sound

variable {s : State}

/-- A move that neither enters a block nor comes out of one. -/
theorem keep (h : Counted s) {s' : State} (hd : s'.depth = s.depth) (hf : s'.frames = s.frames)
    (hc : s'.control.Fits s.frames) : Sound s' := by
  refine ⟨⟨?_, ?_, ?_⟩, hf ▸ hc⟩
  · rw [hd, hf, h.depth_eq]
  · rw [hd]
    exact h.depth_le
  · rw [hf]
    exact h.rooted

theorem leave (h : Counted s) (hs : s.frames ≠ []) (lastLine : Nat) (rest : List Token) :
    Sound (s.leave lastLine rest) := by
  obtain ⟨control, tokens, depth, frames, document, faults⟩ := s
  cases frames with
  | nil => exact absurd rfl hs
  | cons f frames =>
    obtain ⟨hdepth, hle, houter, hrooted⟩ := h
    refine ⟨⟨?_, ?_, hrooted⟩, houter⟩
    · simp only [State.leave, List.length_cons] at hdepth ⊢
      omega
    · exact Nat.le_trans (Nat.sub_le _ _) hle

theorem add (h : Counted s) (hs : s.frames ≠ []) (ds : List Directive) (rest : List Token) :
    Sound ((s.add ds).goTo .block rest) := by
  refine keep (h.add ds) rfl rfl ?_
  cases hf : s.frames with
  | nil => exact absurd hf hs
  | cons f frames => simp [State.add, State.goTo, hf, Control.Fits]

theorem enter (h : Counted s) {purpose : Purpose} (hp : purpose.isOuter ↔ s.frames = [])
    (opener : Token) : Sound (s.enter purpose opener) := by
  unfold State.enter
  by_cases hlt : s.depth < maxDepth
  · rw [if_pos hlt]
    exact keep (h.push hlt hp opener) rfl rfl (List.cons_ne_nil _ _)
  · rw [if_neg hlt]
    exact keep h rfl rfl hp

theorem resume (h : Counted s) {purpose : Purpose} (hp : purpose.isOuter ↔ s.frames = [])
    (opener : Token) (ds : List Directive) (lastLine : Nat) :
    Sound (s.resume opener ds lastLine purpose) := by
  cases purpose with
  | globals | site | outside => exact keep h rfl rfl (hp.mp rfl)
  | directive | inside =>
    have hopen : s.frames ≠ [] := fun hnil => Bool.noConfusion (hp.mpr hnil)
    exact add h hopen _ _

theorem look (h : Sound s) (t : Token) (ts : List Token) : Sound (s.look t ts) := by
  obtain ⟨hcount, hfits⟩ := h
  cases hc : s.control with
  | enter | leave | done =>
    simp only [State.look, hc]
    exact ⟨hcount, hfits⟩
  | start =>
    rw [hc] at hfits
    simp only [State.look, hc]
    split
    · exact keep hcount rfl rfl (iff_of_true rfl hfits)
    · exact keep hcount rfl rfl hfits
  | head =>
    rw [hc] at hfits
    simp only [State.look, hc]
    cases t.kind with
    | opening => exact keep hcount rfl rfl (iff_of_true rfl hfits)
    | finish | closing | bare | quoted => exact keep hcount rfl rfl hfits
  | addresses h =>
    rw [hc] at hfits
    simp only [State.look, hc]
    split
    · exact keep hcount rfl rfl hfits
    split
    · exact keep hcount rfl rfl (iff_of_true rfl hfits)
    · exact keep hcount rfl rfl hfits
  | block =>
    rw [hc] at hfits
    simp only [State.look, hc]
    cases t.kind with
    | finish =>
      have hreported : Counted s.reportUnclosed :=
        ⟨hcount.depth_eq, hcount.depth_le, hcount.rooted⟩
      exact leave hreported hfits _ _
    | closing => exact leave hcount hfits _ _
    | opening => exact keep hcount rfl rfl (iff_of_false Bool.false_ne_true hfits)
    | bare | quoted => exact keep hcount rfl rfl hfits
  | arguments h =>
    rw [hc] at hfits
    simp only [State.look, hc]
    split
    · exact keep hcount rfl rfl hfits
    split
    · exact keep hcount rfl rfl (iff_of_false Bool.false_ne_true hfits)
    · exact add hcount hfits _ _
  | skip purpose opener count =>
    rw [hc] at hfits
    simp only [State.look, hc]
    cases t.kind with
    | closing =>
      by_cases hlast : count = 1
      · simp only [hlast, ↓reduceIte]
        exact keep hcount rfl rfl hfits
      · simp only [hlast, ↓reduceIte]
        exact keep hcount rfl rfl hfits
    | finish | opening | bare | quoted => exact keep hcount rfl rfl hfits

theorem step (h : Sound s) : Sound (step s) := by
  have hfits := h.fits
  cases hc : s.control with
  | enter purpose opener =>
    rw [hc] at hfits
    simp only [Descent.step, hc]
    exact enter h.counted hfits opener
  | leave purpose opener ds lastLine =>
    rw [hc] at hfits
    simp only [Descent.step, hc]
    exact resume h.counted hfits opener ds lastLine
  | start | head | addresses | block | arguments | skip | done =>
    cases hr : s.rest with
    | nil =>
      simp only [Descent.step, hc, hr]
      exact h
    | cons t ts =>
      simp only [Descent.step, hc, hr]
      exact look h t ts

theorem run (h : Sound s) (n : Nat) : Sound (run n s) := by
  induction n generalizing s with
  | zero => exact h
  | succ n ih => exact ih h.step

theorem reaches {s' : State} (h : Sound s) (hs : Reaches s s') : Sound s' := by
  obtain ⟨n, rfl⟩ := hs
  exact h.run n

theorem ofTokens (ts : List Token) : Sound (.ofTokens ts) :=
  ⟨⟨rfl, Nat.zero_le _, trivial⟩, rfl⟩

theorem depth_head (h : Sound s) (hc : s.control = .head) : s.depth = 0 := by
  have hfits := h.fits
  rw [hc] at hfits
  rw [h.counted.depth_eq, show s.frames = [] from hfits]
  rfl

end Sound

end Descent

/-! ## Directives inside others -/

open Directive

/-- No directive lies too deep if `ds` stand in a block that lies inside `depth` blocks, itself
included. -/
def Directive.Fit (depth : Nat) (ds : List Directive) : Prop :=
  ∀ as d, Within ds as d → as.length + depth ≤ maxDepth

namespace Directive.Fit

variable {depth : Nat}

theorem nil : Fit depth [] := by
  intro as d h
  cases h with
  | here h => exact absurd h List.not_mem_nil
  | inside h _ => exact absurd h List.not_mem_nil

theorem append {ds es : List Directive} (hd : Fit depth ds) (he : Fit depth es) :
    Fit depth (ds ++ es) := by
  intro as d h
  cases h with
  | here h =>
    rcases List.mem_append.mp h with h | h
    · exact hd [] d (.here h)
    · exact he [] d (.here h)
  | inside h hin =>
    rcases List.mem_append.mp h with h | h
    · exact hd _ d (.inside h hin)
    · exact he _ d (.inside h hin)

/-- The block of a directive lies inside one more. -/
theorem singleton {d : Directive} (hle : depth ≤ maxDepth) (h : Fit (depth + 1) d.body) :
    Fit depth [d] := by
  intro as e he
  cases he with
  | here _ => simpa using hle
  | @inside _ as a _ ha hin =>
    obtain rfl := List.mem_singleton.mp ha
    have := h as e hin
    simp only [List.length_cons]
    omega

theorem weaken {ds : List Directive} (h : Fit (depth + 1) ds) : Fit depth ds := by
  intro as d hd
  exact Nat.le_of_succ_le (h as d hd)

end Directive.Fit

namespace Document

/-- What is too deep does not count, so nothing need be known of it. -/
theorem fit_settle {depth : Nat} (opener : Token) (closer : Option Token) (unclosed : Fault.Cause)
    {inside : Contents} (h : depth < maxDepth → Fit (depth + 1) inside.directives) :
    Fit (depth + 1) (settle depth opener closer unclosed inside).directives := by
  unfold settle
  by_cases hlt : depth < maxDepth
  · rw [if_pos hlt]
    cases closer with
    | none => exact h hlt
    | some c => exact h hlt
  · rw [if_neg hlt]
    exact .nil

theorem fit_contents (finish depth : Nat) (pending : Option Header) (f : Forest)
    (hle : depth ≤ maxDepth) : Fit depth (contents finish depth pending f).directives := by
  fun_induction contents finish depth pending f with
  | case1 => exact .nil
  | case2 depth h => exact .singleton hle .nil
  | case3 depth t rest ih => exact ih hle
  | case4 depth h t rest ha ih => exact ih hle
  | case5 depth h t rest ha ih => exact .append (.singleton hle .nil) (ih hle)
  | case6 depth opener inside closer rest own stray ihi ihr =>
    have hown : Fit (depth + 1) own.directives := fit_settle _ _ _ fun hlt => ihi hlt
    exact hown.weaken.append (ihr hle)
  | case7 depth h opener inside closer rest own d ihi ihr =>
    have hown : Fit (depth + 1) own.directives := fit_settle _ _ _ fun hlt => ihi hlt
    exact .append (.singleton hle hown) (ihr hle)

theorem fit_topBlock (finish : Nat) (opener : Token) (inside : Forest) (closer : Option Token)
    (unclosed : Fault.Cause) : Fit 1 (topBlock finish opener inside closer unclosed).directives :=
  fit_settle opener closer unclosed fun hlt => fit_contents finish 1 none inside hlt

def FitAll (ss : List Site) : Prop :=
  ∀ s ∈ ss, Fit 1 s.directives

theorem FitAll.append {ss us : List Site} (hs : FitAll ss) (hu : FitAll us) : FitAll (ss ++ us) :=
  List.forall_mem_append.mpr ⟨hs, hu⟩

theorem fit_plain (h : Heading) : FitAll h.plain.sites :=
  List.forall_mem_singleton.mpr .nil

theorem fit_stretch (finish : Nat) (pending : Option Heading) (f : Forest) :
    FitAll (stretch finish pending f).sites := by
  fun_induction stretch finish pending f with
  | case1 => exact List.forall_mem_nil _
  | case2 h => exact fit_plain h
  | case3 t rest ih => exact ih
  | case4 h t rest ha ih => exact ih
  | case5 h t rest ha ih => exact (fit_plain h).append ih
  | case6 opener inside closer rest body ih => exact ih
  | case7 h opener inside closer rest body ih =>
    have hbody : Fit 1 body.directives := fit_topBlock finish opener inside closer _
    exact FitAll.append (List.forall_mem_singleton.mpr hbody) ih

theorem fit_laterStretches (finish : Nat) (later : List (Token × Forest)) :
    FitAll (laterStretches finish later).sites := by
  induction later with
  | nil => exact List.forall_mem_nil _
  | cons p later ih => exact (fit_stretch finish none p.2).append ih

theorem fit_ofForest (finish : Nat) (groups : Forest.Split) :
    (∀ g ∈ (ofForest finish groups).document.globals, Fit 1 g.directives) ∧
      FitAll (ofForest finish groups).document.sites := by
  obtain ⟨first, later⟩ := groups
  have hlater := fit_laterStretches finish later
  cases first with
  | nil => exact ⟨by simp [ofForest], (fit_stretch finish none _).append hlater⟩
  | word t rest => exact ⟨by simp [ofForest], (fit_stretch finish none _).append hlater⟩
  | block opener inside closer rest =>
    refine ⟨?_, (fit_stretch finish none rest).append hlater⟩
    intro g hg
    obtain rfl := Option.some.inj hg
    exact fit_topBlock finish opener inside closer _

end Document

/-! ## The limit -/

/-- A reader comes to the end of every text, with the document of the text. On its way the counter
is always the number of blocks that it is in, which is within the limit, and zero at the head of the
loop outside of all blocks. In the document every directive has fewer directives around it than the
limit. -/
theorem depth_bounded (source : String) :
    (∃ s, Descent.Reaches (.ofTokens (tokens source)) s ∧ s.control = .done ∧
      s.document = (Document.read source).document ∧ s.faults = (Document.read source).faults) ∧
    (∀ s, Descent.Reaches (.ofTokens (tokens source)) s →
      s.depth = s.frames.length ∧ s.frames.length ≤ 64 ∧ (s.control = .head → s.depth = 0)) ∧
    (∀ g ∈ (Document.read source).document.globals, ∀ as d, Within g.directives as d →
      as.length ≤ 63) ∧
    ∀ s ∈ (Document.read source).document.sites, ∀ as d, Within s.directives as d →
      as.length ≤ 63 := by
  refine ⟨?_, ?_, ?_, ?_⟩
  · obtain ⟨ts, e, hts, he, _, hne⟩ := tokens_finish_last source
    have hdone := Descent.reaches_done he hne
    rw [← hts] at hdone
    exact ⟨_, hdone, rfl, rfl, rfl⟩
  · intro s hs
    have hsound := (Descent.Sound.ofTokens (tokens source)).reaches hs
    have hdepth := hsound.counted.depth_eq
    exact ⟨hdepth, hdepth ▸ hsound.counted.depth_le, hsound.depth_head⟩
  · intro g hg as d hd
    exact Nat.le_of_succ_le_succ ((Document.fit_ofForest _ _).1 g hg as d hd)
  · intro s hs as d hd
    exact Nat.le_of_succ_le_succ ((Document.fit_ofForest _ _).2 s hs as d hd)

end Caddyfile
