import Caddyfile.Document.Reading
import Caddyfile.Proofs.Grouping

/-!
# Reading looks at kinds and lines only

A relabeling changes tokens and lines but keeps the kinds of tokens, which of them share a line, and
which values end in a comma. Nothing else decides how tokens are read: the reading of relabeled
tokens is the relabeled reading (`ofTokens_relabel`). What becomes of a value need be known only for
the tokens that the relabeling is made for.
-/

namespace Caddyfile

/-! ## Mapping documents -/

namespace Directive

variable (title word : Token → Token) (line : Nat → Nat)

mutual

/-- The directive with its name and its brace, its arguments, and its last line replaced, in its
block too. -/
def map : Directive → Directive
  | ⟨name, args, opener, body, lastLine⟩ =>
    ⟨title name, args.map word, opener.map title, mapAll body, line lastLine⟩

def mapAll : List Directive → List Directive
  | [] => []
  | d :: ds => map d :: mapAll ds

end

theorem mapAll_eq_map (ds : List Directive) :
    mapAll title word line ds = ds.map (map title word line) := by
  induction ds with
  | nil => rfl
  | cons d ds ih => rw [mapAll, ih, List.map_cons]

end Directive

section
variable (token : Token → Token) (line : Nat → Nat)

def Globals.map (g : Globals) : Globals :=
  ⟨token g.opener, g.directives.map (Directive.map token token line), line g.lastLine⟩

def Site.map (s : Site) : Site :=
  ⟨token s.address, s.others.map token, s.directives.map (Directive.map token token line),
    line s.lastLine⟩

def Document.map (d : Document) : Document :=
  ⟨d.globals.map (Globals.map token line), d.sites.map (Site.map token line)⟩

end

def Forest.map (token : Token → Token) : Forest → Forest
  | nil => nil
  | word t rest => word (token t) (rest.map token)
  | block opener inside closer rest =>
    block (token opener) (inside.map token) (closer.map token) (rest.map token)

theorem Forest.map_eq_block {token : Token → Token} {f : Forest} {opener : Token}
    {inside rest : Forest} {closer : Option Token} (h : f.map token = block opener inside closer rest) :
    ∃ opener inside closer rest, f = block opener inside closer rest := by
  cases f with
  | nil | word t rest => cases h
  | block opener inside closer rest => exact ⟨opener, inside, closer, rest, rfl⟩

def Forest.Split.map (token : Token → Token) (s : Split) : Split :=
  ⟨s.first.map token, s.later.map fun p => (token p.1, p.2.map token)⟩

/-! ## Relabelings -/

structure Relabeling where
  /-- The tokens that it is made for. -/
  fits : Token → Prop
  token : Token → Token
  line : Nat → Nat
  span : Span → Span
  value : String → String
  kind_token : ∀ t, (token t).kind = t.kind
  line_token : ∀ t, (token t).line = line t.line
  stop_token : ∀ t, (token t).stop.line = line t.stop.line
  span_token : ∀ t, (token t).span = span t.span
  value_token : ∀ t, fits t → (token t).value = value t.value
  line_inj : ∀ m n, line m = line n → m = n
  comma : ∀ v : String, (value v).toList.getLast? = some ',' ↔ v.toList.getLast? = some ','

namespace Fault

def Cause.relabel (value : String → String) : Cause → Cause
  | unclosedSite address => unclosedSite (value address)
  | unclosedDirective name => unclosedDirective (value name)
  | cause => cause

def relabel (r : Relabeling) (f : Fault) : Fault :=
  ⟨f.cause.relabel r.value, r.span f.span⟩

end Fault

/-- The reading with every token, line and fault replaced. -/
def Reading.relabel (r : Relabeling) (x : Reading) : Reading :=
  ⟨x.document.map r.token r.line, x.faults.map (Fault.relabel r)⟩

namespace Relabeling

variable (r : Relabeling)

theorem ofTokens_map (ts : List Token) :
    Forest.ofTokens (ts.map r.token) = (Forest.ofTokens ts).map r.token := by
  induction ts with
  | nil => rfl
  | cons t ts ih =>
    rw [List.map_cons, Forest.ofTokens_cons, ih, Forest.ofTokens_cons]
    obtain ⟨first, later⟩ := Forest.ofTokens ts
    unfold Forest.Split.cons
    rw [r.kind_token]
    cases t.kind with
    | bare | quoted | closing | finish => rfl
    | opening => cases later <;> rfl

end Relabeling

namespace Document

open Fault

variable (r : Relabeling)

def Header.map (token : Token → Token) (h : Header) : Header :=
  ⟨token h.name, h.args.map token⟩

def Heading.map (token : Token → Token) (h : Heading) : Heading :=
  ⟨token h.first, h.others.map token, token h.last⟩

def Contents.relabel (c : Contents) : Contents :=
  ⟨c.directives.map (Directive.map r.token r.token r.line), c.faults.map (Fault.relabel r)⟩

def Stretch.relabel (s : Stretch) : Stretch :=
  ⟨s.sites.map (Site.map r.token r.line), s.faults.map (Fault.relabel r)⟩

/-! ## What one step does to relabeled tokens -/

section
variable {r}

theorem Header.accepts_map (h : Header) (t : Token) :
    (h.map r.token).accepts (r.token t) = h.accepts t := by
  have hiff : r.line t.line = r.line h.name.line ↔ t.line = h.name.line :=
    ⟨r.line_inj _ _, congrArg r.line⟩
  simp [accepts, map, r.line_token, hiff]

theorem Header.push_map (h : Header) (t : Token) :
    (h.map r.token).push (r.token t) = (h.push t).map r.token := by
  simp [push, map]

theorem Header.plain_map (h : Header) :
    (h.map r.token).plain = h.plain.map r.token r.token r.line := by
  simp [plain, map, Directive.map, Directive.mapAll, r.line_token]

theorem Heading.accepts_map {h : Heading} (hlast : r.fits h.last) (t : Token) :
    (h.map r.token).accepts (r.token t) = h.accepts t := by
  have hiff : r.line t.line = r.line h.last.stop.line ↔ t.line = h.last.stop.line :=
    ⟨r.line_inj _ _, congrArg r.line⟩
  simp [accepts, map, r.line_token, r.stop_token, r.value_token _ hlast, r.comma, hiff]

theorem Heading.push_map (h : Heading) (t : Token) :
    (h.map r.token).push (r.token t) = (h.push t).map r.token := by
  simp [push, map]

theorem Heading.plain_map (h : Heading) : (h.map r.token).plain = h.plain.relabel r := by
  simp [plain, map, Stretch.relabel, Site.map, Fault.relabel, Cause.relabel, r.line_token,
    r.span_token]

theorem closingLine_map (finish : Nat) (closer : Option Token) :
    closingLine (r.line finish) (closer.map r.token) = r.line (closingLine finish closer) := by
  cases closer with
  | none => rfl
  | some c => exact r.line_token c

theorem Contents.append_relabel (a b : Contents) :
    (a.append b).relabel r = (a.relabel r).append (b.relabel r) := by
  simp [append, relabel]

theorem Stretch.append_relabel (a b : Stretch) :
    (a.append b).relabel r = (a.relabel r).append (b.relabel r) := by
  simp [append, relabel]

theorem settle_relabel (depth : Nat) (opener : Token) (closer : Option Token) (unclosed : Cause)
    (inside : Contents) :
    settle depth (r.token opener) (closer.map r.token) (unclosed.relabel r.value) (inside.relabel r) =
      (settle depth opener closer unclosed inside).relabel r := by
  unfold settle
  split
  · cases closer <;> simp [Contents.relabel, Fault.relabel, r.span_token]
  · simp [Contents.relabel, Fault.relabel, Cause.relabel, r.span_token]

end

/-! ## Reading relabeled tokens -/

theorem forall_mem_block {p : Token → Prop} {opener : Token} {inside rest : Forest}
    {closer : Option Token} (h : ∀ t ∈ (Forest.block opener inside closer rest).tokens, p t) :
    p opener ∧ (∀ t ∈ inside.tokens, p t) ∧ ∀ t ∈ rest.tokens, p t := by
  simp only [Forest.tokens, List.forall_mem_cons, List.forall_mem_append] at h
  exact ⟨h.1, h.2.1, h.2.2.2⟩

theorem contents_relabel (finish depth : Nat) (pending : Option Header) (f : Forest)
    (hp : ∀ h ∈ pending, r.fits h.name) (hf : ∀ t ∈ f.tokens, r.fits t) :
    contents (r.line finish) depth (pending.map (Header.map r.token)) (f.map r.token) =
      (contents finish depth pending f).relabel r := by
  fun_induction contents finish depth pending f with
  | case1 => rfl
  | case2 depth h =>
    simp [Forest.map, contents, Contents.relabel, Header.plain_map]
  | case3 depth t rest ih =>
    obtain ⟨ht, hf⟩ := List.forall_mem_cons.mp hf
    rw [← ih (by simpa using ht) hf]
    simp [Forest.map, contents, Header.map]
  | case4 depth h t rest ha ih =>
    rw [← ih (by simpa [Header.push] using hp) (List.forall_mem_cons.mp hf).2]
    simp [Forest.map, contents, Header.accepts_map, ha, Header.push_map]
  | case5 depth h t rest ha ih =>
    obtain ⟨ht, hf⟩ := List.forall_mem_cons.mp hf
    have hnot : ¬ (h.map r.token).accepts (r.token t) := by rwa [Header.accepts_map]
    have ih : contents (r.line finish) depth (some ⟨r.token t, []⟩) (rest.map r.token) = _ :=
      ih (by simpa using ht) hf
    rw [Option.map_some, Forest.map, contents, if_neg hnot, ih, Header.plain_map]
    rfl
  | case6 depth opener inside closer rest own stray ihi ihr =>
    obtain ⟨_, hinside, hrest⟩ := forall_mem_block hf
    replace ihi := ihi (by simp) hinside
    replace ihr := ihr (by simp) hrest
    rw [Option.map_none] at ihi ihr ⊢
    have hown : settle depth (r.token opener) (closer.map r.token) .unclosedBlock
        (contents (r.line finish) (depth + 1) none (inside.map r.token)) = own.relabel r := by
      rw [ihi]
      exact settle_relabel depth opener closer .unclosedBlock _
    have hstray : (⟨[], [⟨.strayOpen, (r.token opener).span⟩]⟩ : Contents) = stray.relabel r := by
      simp [stray, Contents.relabel, Fault.relabel, Cause.relabel, r.span_token]
    rw [Forest.map, contents, hown, ihr, hstray, Contents.append_relabel, Contents.append_relabel]
  | case7 depth h opener inside closer rest own d ihi ihr =>
    obtain ⟨_, hinside, hrest⟩ := forall_mem_block hf
    replace ihi := ihi (by simp) hinside
    replace ihr := ihr (by simp) hrest
    rw [Option.map_none] at ihi ihr
    have hown : settle depth (r.token opener) (closer.map r.token)
        (.unclosedDirective (r.token h.name).value)
        (contents (r.line finish) (depth + 1) none (inside.map r.token)) = own.relabel r := by
      rw [ihi, r.value_token _ (hp h rfl)]
      exact settle_relabel depth opener closer (.unclosedDirective h.name.value) _
    have hd : (h.map r.token).withBlock (r.token opener) (own.relabel r).directives
        (closingLine (r.line finish) (closer.map r.token)) = d.map r.token r.token r.line := by
      rw [closingLine_map]
      simp [d, Header.withBlock, Header.map, Directive.map, Directive.mapAll_eq_map,
        Contents.relabel]
    rw [Option.map_some, Forest.map, contents, Contents.append_relabel, ← ihr]
    simp only [Header.map] at hd ⊢
    rw [hown, hd]
    rfl

theorem topBlock_relabel (finish : Nat) (opener : Token) {inside : Forest}
    (hinside : ∀ t ∈ inside.tokens, r.fits t) (closer : Option Token) (unclosed : Cause) :
    topBlock (r.line finish) (r.token opener) (inside.map r.token) (closer.map r.token)
        (unclosed.relabel r.value) =
      (topBlock finish opener inside closer unclosed).relabel r := by
  have hin := contents_relabel r finish 1 none inside (by simp) hinside
  rw [Option.map_none] at hin
  rw [topBlock, hin, settle_relabel]
  rfl

theorem stretch_relabel (finish : Nat) (pending : Option Heading) (f : Forest)
    (hp : ∀ h ∈ pending, r.fits h.first ∧ r.fits h.last) (hf : ∀ t ∈ f.tokens, r.fits t) :
    stretch (r.line finish) (pending.map (Heading.map r.token)) (f.map r.token) =
      (stretch finish pending f).relabel r := by
  fun_induction stretch finish pending f with
  | case1 => rfl
  | case2 h => exact Heading.plain_map h
  | case3 t rest ih =>
    obtain ⟨ht, hf⟩ := List.forall_mem_cons.mp hf
    rw [← ih (by simpa [Heading.start] using ht) hf]
    simp [Forest.map, stretch, Heading.map, Heading.start]
  | case4 h t rest ha ih =>
    obtain ⟨ht, hf⟩ := List.forall_mem_cons.mp hf
    obtain ⟨hfirst, hlast⟩ := hp h rfl
    rw [← ih (by simpa [Heading.push] using ⟨hfirst, ht⟩) hf]
    simp [Forest.map, stretch, Heading.accepts_map hlast, ha, Heading.push_map]
  | case5 h t rest ha ih =>
    obtain ⟨ht, hf⟩ := List.forall_mem_cons.mp hf
    have hnot : ¬ (h.map r.token).accepts (r.token t) := by rwa [Heading.accepts_map (hp h rfl).2]
    have ih : stretch (r.line finish) (some (.start (r.token t))) (rest.map r.token) = _ :=
      ih (by simpa [Heading.start] using ht) hf
    rw [Option.map_some, Forest.map, stretch, if_neg hnot, ih, Heading.plain_map,
      Stretch.append_relabel]
  | case6 opener inside closer rest body ih =>
    obtain ⟨_, hinside, hrest⟩ := forall_mem_block hf
    replace ih := ih (by simp) hrest
    rw [Option.map_none] at ih ⊢
    have hbody : topBlock (r.line finish) (r.token opener) (inside.map r.token) (closer.map r.token)
        .unclosedBlock = body.relabel r :=
      topBlock_relabel r finish opener hinside closer .unclosedBlock
    rw [Forest.map, stretch, hbody, ih, Stretch.append_relabel, r.span_token]
    rfl
  | case7 h opener inside closer rest body ih =>
    obtain ⟨_, hinside, hrest⟩ := forall_mem_block hf
    replace ih := ih (by simp) hrest
    rw [Option.map_none] at ih
    have hbody : topBlock (r.line finish) (r.token opener) (inside.map r.token) (closer.map r.token)
        (.unclosedSite (r.token h.first).value) = body.relabel r := by
      rw [r.value_token _ (hp h rfl).1]
      exact topBlock_relabel r finish opener hinside closer (.unclosedSite h.first.value)
    rw [Option.map_some, Forest.map, stretch, Stretch.append_relabel, ← ih]
    simp only [Heading.map]
    rw [hbody, closingLine_map]
    rfl

theorem laterStretches_relabel (finish : Nat) : ∀ later : List (Token × Forest),
    (∀ p ∈ later, ∀ t ∈ p.2.tokens, r.fits t) →
    laterStretches (r.line finish) (later.map fun p => (r.token p.1, p.2.map r.token)) =
      (laterStretches finish later).relabel r
  | [], _ => rfl
  | (closer, f) :: later, h => by
    obtain ⟨hf, hlater⟩ := List.forall_mem_cons.mp h
    have hown := stretch_relabel r finish none f (by simp) hf
    rw [Option.map_none] at hown
    rw [List.map_cons, laterStretches, hown, laterStretches_relabel finish later hlater,
      laterStretches, Stretch.append_relabel, r.span_token]
    rfl

theorem ofForest_relabel (finish : Nat) {s : Forest.Split} (hs : ∀ t ∈ s.tokens, r.fits t) :
    ofForest (r.line finish) (s.map r.token) = (ofForest finish s).relabel r := by
  obtain ⟨first, later⟩ := s
  obtain ⟨hfirst, hrow⟩ := List.forall_mem_append.mp hs
  have hlater := laterStretches_relabel r finish later fun p hp t ht =>
    hrow t (List.mem_flatMap.mpr ⟨p, hp, List.mem_cons_of_mem _ ht⟩)
  cases first with
  | nil =>
    simp only [Forest.Split.map, Forest.map, ofForest, hlater]
    rfl
  | word t rest =>
    have hsites := stretch_relabel r finish none (.word t rest) (by simp) hfirst
    rw [Option.map_none, Forest.map] at hsites
    simp only [Forest.Split.map, Forest.map, ofForest, hlater, hsites, ← Stretch.append_relabel]
    rfl
  | block opener inside closer rest =>
    obtain ⟨_, hinside, hrest⟩ := forall_mem_block hfirst
    have hsites := stretch_relabel r finish none rest (by simp) hrest
    have hbody := topBlock_relabel r finish opener hinside closer .unclosedGlobals
    rw [Option.map_none] at hsites
    simp only [Cause.relabel] at hbody
    simp only [Forest.Split.map, Forest.map, ofForest, hlater, hsites, hbody, closingLine_map,
      ← Stretch.append_relabel]
    simp [Reading.relabel, Document.map, Globals.map, Contents.relabel, Stretch.relabel]

theorem ofTokens_relabel {ts : List Token} (hts : ts ≠ []) (h : ∀ t ∈ ts, r.fits t) :
    ofTokens (ts.map r.token) = (ofTokens ts).relabel r := by
  have hfinish : (ts.map r.token).getLast?.elim 0 Token.line =
      r.line (ts.getLast?.elim 0 Token.line) := by
    rw [List.getLast?_map, List.getLast?_eq_some_getLast hts]
    exact r.line_token _
  rw [ofTokens, hfinish, r.ofTokens_map,
    ofForest_relabel r _ fun t ht => h t (Forest.ofTokens_subset ts ht)]
  rfl

end Document

end Caddyfile
