import Caddyfile.Proofs.Words

/-!
# The grammar of documents

    File      := Block? Site*
    Site      := Address+ Block
    Block     := '{' Directive* '}'
    Directive := Word Arg* Block?

A derivation keeps every token of the text it derives. Being well formed adds what the rules above
leave open: which words are arguments, and where addresses may go on. A text is read without faults
exactly if it has a derivation, and then it has one only and is read as its tree
(`faultless_iff_derives`).
-/

namespace Caddyfile

namespace Grammar

/-! ## Derivations -/

/-- A derivation of `Directive*`. -/
inductive Directives where
  | nil
  | plain (name : Token) (args : List Token) (rest : Directives)
  | block (name : Token) (args : List Token) (opener : Token) (inside : Directives)
    (closer : Token) (rest : Directives)

structure Block where
  opener : Token
  inside : Directives
  closer : Token

structure Site where
  first : Token
  others : List Token
  block : Block

structure File where
  globals : Option Block
  sites : List Site

/-! ### The text derived -/

def Directives.tokens : Directives → List Token
  | nil => []
  | plain name args rest => name :: (args ++ rest.tokens)
  | block name args opener inside closer rest =>
    name :: (args ++ opener :: (inside.tokens ++ closer :: rest.tokens))

def Block.tokens (b : Block) : List Token :=
  b.opener :: (b.inside.tokens ++ [b.closer])

def Site.tokens (s : Site) : List Token :=
  s.first :: (s.others ++ s.block.tokens)

def File.tokens (f : File) : List Token :=
  f.globals.elim [] Block.tokens ++ f.sites.flatMap Site.tokens

/-! ### The tree -/

def Directives.directives : Directives → List Directive
  | nil => []
  | plain name args rest => ⟨name, args, none, [], name.line⟩ :: rest.directives
  | block name args opener inside closer rest =>
    ⟨name, args, some opener, inside.directives, closer.line⟩ :: rest.directives

def File.document (f : File) : Document where
  globals := f.globals.map fun b => ⟨b.opener, b.inside.directives, b.closer.line⟩
  sites := f.sites.map fun s => ⟨s.first, s.others, s.block.inside.directives, s.block.closer.line⟩

/-! ### Well-formed derivations -/

/-- How many blocks are open at once. -/
def Directives.height : Directives → Nat
  | nil => 0
  | plain _ _ rest => rest.height
  | block _ _ _ inside _ rest => max (inside.height + 1) rest.height

def Block.height (b : Block) : Nat :=
  b.inside.height + 1

/-- A word on the line of the name. -/
def IsArg (name t : Token) : Prop :=
  t.isWord ∧ t.line = name.line

/-- The arguments are all the words that follow the name on its line. In front of a block there is
nothing to check, for a brace is no word. -/
def Directives.WF : Directives → Prop
  | nil => True
  | plain name args rest =>
    name.isWord ∧ (∀ a ∈ args, IsArg name a) ∧ (∀ t ∈ rest.tokens.head?, ¬ IsArg name t) ∧ rest.WF
  | block name args opener inside closer rest =>
    name.isWord ∧ (∀ a ∈ args, IsArg name a) ∧ opener.kind = .opening ∧ inside.WF ∧
      closer.kind = .closing ∧ rest.WF

/-- Address `b` may come after address `a`. -/
def Follows (a b : Token) : Prop :=
  b.line = a.stop.line ∨ a.value.toList.getLast? = some ','

/-- Words that go on after the address `a`, each allowed by the one before it. -/
def AddressRun : Token → List Token → Prop
  | _, [] => True
  | a, b :: bs => b.isWord ∧ Follows a b ∧ AddressRun b bs

structure Block.WF (b : Block) : Prop where
  opener : b.opener.kind = .opening
  inside : b.inside.WF
  closer : b.closer.kind = .closing
  shallow : b.height ≤ maxDepth

structure Site.WF (s : Site) : Prop where
  first : s.first.isWord
  others : AddressRun s.first s.others
  block : s.block.WF

structure File.WF (f : File) : Prop where
  globals : ∀ b ∈ f.globals, b.WF
  sites : ∀ s ∈ f.sites, s.WF

/-! ## Derivations as forests -/

def words : List Token → Forest → Forest
  | [], f => f
  | t :: ts, f => .word t (words ts f)

theorem tokens_words : ∀ (ts : List Token) (f : Forest), (words ts f).tokens = ts ++ f.tokens
  | [], _ => rfl
  | t :: ts, f => by rw [words, Forest.tokens, tokens_words ts f]; rfl

theorem closed_words : ∀ {ts : List Token} {f : Forest}, (∀ t ∈ ts, t.isWord) → f.Closed →
    (words ts f).Closed
  | [], _, _, hf => hf
  | t :: _, _, ht, hf => ⟨ht t (by simp), closed_words (fun u hu => ht u (by simp [hu])) hf⟩

def Directives.forest : Directives → Forest
  | nil => .nil
  | plain name args rest => words (name :: args) rest.forest
  | block name args opener inside closer rest =>
    words (name :: args) (.block opener inside.forest (some closer) rest.forest)

def Block.forest (b : Block) (rest : Forest) : Forest :=
  .block b.opener b.inside.forest (some b.closer) rest

def forestOfSites : List Site → Forest
  | [] => .nil
  | s :: ss => words (s.first :: s.others) (s.block.forest (forestOfSites ss))

def File.forest (f : File) : Forest :=
  f.globals.elim (forestOfSites f.sites) fun b => b.forest (forestOfSites f.sites)

theorem Directives.tokens_forest : ∀ d : Directives, d.forest.tokens = d.tokens
  | nil => rfl
  | plain name args rest => by
    rw [forest, tokens_words, rest.tokens_forest]; rfl
  | block name args opener inside closer rest => by
    rw [forest, tokens_words, Forest.tokens, inside.tokens_forest, rest.tokens_forest]; rfl

theorem Directives.WF.closed : ∀ {d : Directives}, d.WF → d.forest.Closed
  | nil, _ => trivial
  | plain _ _ _, ⟨hn, ha, _, hr⟩ =>
    closed_words (List.forall_mem_cons.mpr ⟨hn, fun a h => (ha a h).1⟩) hr.closed
  | block _ _ _ _ _ _, ⟨hn, ha, ho, hi, hc, hr⟩ =>
    closed_words (List.forall_mem_cons.mpr ⟨hn, fun a h => (ha a h).1⟩)
      ⟨ho, hi.closed, hc, hr.closed⟩

theorem Block.tokens_forest (b : Block) (rest : Forest) :
    (b.forest rest).tokens = b.tokens ++ rest.tokens := by
  simp [forest, Forest.tokens, tokens, b.inside.tokens_forest]

theorem Block.WF.closed {b : Block} (hb : b.WF) {rest : Forest} (hr : rest.Closed) :
    (b.forest rest).Closed :=
  ⟨hb.opener, hb.inside.closed, hb.closer, hr⟩

theorem AddressRun.words : ∀ {a : Token} {bs : List Token}, AddressRun a bs → ∀ b ∈ bs, b.isWord
  | _, [], _ => by simp
  | _, _ :: _, ⟨hb, _, hbs⟩ => List.forall_mem_cons.mpr ⟨hb, hbs.words⟩

theorem tokens_forestOfSites : ∀ ss : List Site,
    (forestOfSites ss).tokens = ss.flatMap Site.tokens
  | [] => rfl
  | s :: ss => by
    rw [forestOfSites, tokens_words, s.block.tokens_forest, tokens_forestOfSites ss]
    simp [Site.tokens]

theorem closed_forestOfSites : ∀ {ss : List Site}, (∀ s ∈ ss, s.WF) → (forestOfSites ss).Closed
  | [], _ => trivial
  | s :: ss, h => by
    have hs := h s (by simp)
    have hss := closed_forestOfSites fun t ht => h t (List.mem_cons_of_mem s ht)
    exact closed_words (List.forall_mem_cons.mpr ⟨hs.first, hs.others.words⟩) (hs.block.closed hss)

theorem File.tokens_forest (f : File) : f.forest.tokens = f.tokens := by
  obtain ⟨globals, sites⟩ := f
  cases globals with
  | none => exact tokens_forestOfSites sites
  | some b => simp [forest, tokens, b.tokens_forest, tokens_forestOfSites]

theorem File.WF.closed {f : File} (h : f.WF) : f.forest.Closed := by
  obtain ⟨globals, sites⟩ := f
  cases globals with
  | none => exact closed_forestOfSites h.sites
  | some b => exact (h.globals b rfl).closed (closed_forestOfSites h.sites)

/-! ## Derivations are read as their trees -/

open Document

theorem contents_words (finish depth : Nat) : ∀ (h : Header) (as : List Token) (f : Forest),
    (∀ a ∈ as, a.line = h.name.line) →
    contents finish depth (some h) (words as f) =
      contents finish depth (some ⟨h.name, h.args ++ as⟩) f
  | h, [], f, _ => by rw [words, List.append_nil]
  | h, a :: as, f, hl => by
    have ha : h.accepts a := by simpa [Header.accepts] using hl a (by simp)
    rw [words, contents, if_pos ha, contents_words finish depth (h.push a) as f]
    · simp [Header.push]
    · exact fun b hb => hl b (by simp [hb])

theorem contents_next (finish depth : Nat) (h : Header) {d : Directives} (hd : d.WF)
    (hn : ∀ t ∈ d.tokens.head?, ¬ IsArg h.name t) :
    contents finish depth (some h) d.forest = (contents finish depth none d.forest).cons h.plain := by
  cases d with
  | nil => rfl
  | plain name args rest | block name args opener inside closer rest =>
    have hl : ¬ h.accepts name := fun ha => hn name rfl ⟨hd.1, by simpa [Header.accepts] using ha⟩
    rw [Directives.forest, words, contents, contents, if_neg hl]

theorem contents_forest (finish : Nat) : ∀ {d : Directives} (depth : Nat), d.WF →
    d.height + depth ≤ maxDepth → contents finish depth none d.forest = ⟨d.directives, []⟩
  | .nil, _, _, _ => rfl
  | .plain name args rest, depth, ⟨_, ha, hn, hr⟩, hh => by
    rw [Directives.forest, words, contents, contents_words _ _ _ _ _ fun a h => (ha a h).2,
      contents_next _ _ _ hr hn, contents_forest finish depth hr hh]
    rfl
  | .block name args opener inside closer rest, depth, ⟨_, ha, _, hi, _, hr⟩, hh => by
    simp only [Directives.height] at hh
    rw [Directives.forest, words, contents, contents_words _ _ _ _ _ fun a h => (ha a h).2, contents,
      contents_forest finish (depth + 1) hi (by omega), contents_forest finish depth hr (by omega)]
    simp [settle, show depth < maxDepth by omega, Contents.append, Header.withBlock, closingLine,
      Directives.directives]

theorem topBlock_forest (finish : Nat) {b : Block} (hb : b.WF) (unclosed : Fault.Cause) :
    topBlock finish b.opener b.inside.forest (some b.closer) unclosed =
      ⟨b.inside.directives, []⟩ := by
  rw [topBlock, contents_forest finish 1 hb.inside hb.shallow]
  rfl

theorem stretch_words (finish : Nat) : ∀ (h : Heading) (as : List Token) (f : Forest),
    AddressRun h.last as →
    stretch finish (some h) (words as f) = stretch finish (some (as.foldl .push h)) f
  | _, [], _, _ => rfl
  | h, a :: as, f, ⟨_, hf, hr⟩ => by
    have ha : h.accepts a := by simpa [Heading.accepts, Follows] using hf
    rw [words, stretch, if_pos ha, stretch_words finish (h.push a) as f hr]
    rfl

theorem foldl_push : ∀ (h : Heading) (as : List Token),
    (as.foldl Heading.push h).first = h.first ∧ (as.foldl Heading.push h).others = h.others ++ as
  | _, [] => by simp
  | h, a :: as => by
    obtain ⟨h₁, h₂⟩ := foldl_push (h.push a) as
    exact ⟨h₁, by rw [List.foldl_cons, h₂]; simp [Heading.push]⟩

theorem words_append : ∀ (ts : List Token) (f g : Forest), (words ts f).append g = words ts (f.append g)
  | [], _, _ => rfl
  | t :: ts, f, g => by rw [words, Forest.append, words_append ts f g, words]

/-- Behind well-formed sites reading starts anew. -/
theorem stretch_sites_append (finish : Nat) (g : Forest) : ∀ {ss : List Site}, (∀ s ∈ ss, s.WF) →
    stretch finish none ((forestOfSites ss).append g) =
      Stretch.append
        ⟨ss.map fun s => ⟨s.first, s.others, s.block.inside.directives, s.block.closer.line⟩, []⟩
        (stretch finish none g)
  | [], _ => rfl
  | s :: ss, h => by
    have hs := h s (by simp)
    have hss := stretch_sites_append finish g fun t ht => h t (List.mem_cons_of_mem s ht)
    obtain ⟨h₁, h₂⟩ := foldl_push (.start s.first) s.others
    rw [forestOfSites, words_append, words, stretch, stretch_words _ _ _ _ hs.others, Block.forest,
      Forest.append, stretch, topBlock_forest finish hs.block, hss]
    simp only [Heading.withBlock, h₁, h₂]
    rfl

theorem stretch_forestOfSites (finish : Nat) {ss : List Site} (h : ∀ s ∈ ss, s.WF) :
    stretch finish none (forestOfSites ss) =
      ⟨ss.map fun s => ⟨s.first, s.others, s.block.inside.directives, s.block.closer.line⟩, []⟩ := by
  have := stretch_sites_append finish .nil h
  simpa [stretch, Stretch.append] using this

theorem ofForest_forest (finish : Nat) {f : File} (hf : f.WF) :
    ofForest finish ⟨f.forest, []⟩ = ⟨f.document, []⟩ := by
  obtain ⟨globals, sites⟩ := f
  have hs := stretch_forestOfSites finish hf.sites
  cases globals with
  | some b =>
    have hb := topBlock_forest finish (hf.globals b rfl) .unclosedGlobals
    simp [File.forest, Block.forest, ofForest, hb, hs, laterStretches, Stretch.append,
      File.document, closingLine]
  | none =>
    -- the first token is an address, so there are no global options
    cases sites with
    | nil => rfl
    | cons s ss =>
      simp only [forestOfSites, words] at hs
      simp [File.forest, forestOfSites, words, ofForest, hs, laterStretches, Stretch.append,
        File.document]

/-! ## The derivation in a forest

These follow the reading of a document, but keep the tokens. Where a reading meets a fault there is
no derivation, and what they give does not matter.
-/

def Directives.ofForest : Option Header → Forest → Directives
  | none, .nil => nil
  | some h, .nil => plain h.name h.args nil
  | none, .word t rest => ofForest (some ⟨t, []⟩) rest
  | some h, .word t rest =>
    if h.accepts t then ofForest (some (h.push t)) rest
    else plain h.name h.args (ofForest (some ⟨t, []⟩) rest)
  | none, .block .. => nil
  | some h, .block opener inside closer rest =>
    block h.name h.args opener (ofForest none inside) (closer.getD opener) (ofForest none rest)

def Block.ofForest (opener : Token) (inside : Forest) (closer : Option Token) : Block :=
  ⟨opener, .ofForest none inside, closer.getD opener⟩

def sitesOfForest : Option Heading → Forest → List Site
  | none, .word t rest => sitesOfForest (some (.start t)) rest
  | some h, .word t rest => sitesOfForest (some (h.push t)) rest
  | some h, .block opener inside closer rest =>
    ⟨h.first, h.others, .ofForest opener inside closer⟩ :: sitesOfForest none rest
  | none, .block .. | none, .nil | some _, .nil => []

def File.ofForest : Forest → File
  | .block opener inside closer rest =>
    ⟨some (.ofForest opener inside closer), sitesOfForest none rest⟩
  | f => ⟨none, sitesOfForest none f⟩

/-! ### It is the only one -/

theorem Directives.ofForest_words : ∀ (h : Header) (as : List Token) (f : Forest),
    (∀ a ∈ as, a.line = h.name.line) →
    ofForest (some h) (words as f) = ofForest (some ⟨h.name, h.args ++ as⟩) f
  | h, [], f, _ => by rw [words, List.append_nil]
  | h, a :: as, f, hl => by
    have ha : h.accepts a := by simpa [Header.accepts] using hl a (by simp)
    rw [words, ofForest, if_pos ha, ofForest_words (h.push a) as f]
    · simp [Header.push]
    · exact fun b hb => hl b (by simp [hb])

theorem Directives.ofForest_next (h : Header) {d : Directives} (hd : d.WF)
    (hn : ∀ t ∈ d.tokens.head?, ¬ IsArg h.name t) :
    ofForest (some h) d.forest = plain h.name h.args (ofForest none d.forest) := by
  cases d with
  | nil => rfl
  | plain name args rest | block name args opener inside closer rest =>
    have hl : ¬ h.accepts name := fun ha => hn name rfl ⟨hd.1, by simpa [Header.accepts] using ha⟩
    rw [forest, words, ofForest, ofForest, if_neg hl]

theorem Directives.ofForest_forest : ∀ {d : Directives}, d.WF → ofForest none d.forest = d
  | nil, _ => rfl
  | plain name args rest, ⟨_, ha, hn, hr⟩ => by
    rw [forest, words, ofForest, ofForest_words _ _ _ fun a h => (ha a h).2, ofForest_next _ hr hn,
      ofForest_forest hr]
    rfl
  | block name args opener inside closer rest, ⟨_, ha, _, hi, _, hr⟩ => by
    rw [forest, words, ofForest, ofForest_words _ _ _ fun a h => (ha a h).2, ofForest,
      ofForest_forest hi, ofForest_forest hr]
    rfl

theorem sitesOfForest_words : ∀ (h : Heading) (as : List Token) (f : Forest),
    sitesOfForest (some h) (words as f) = sitesOfForest (some (as.foldl .push h)) f
  | _, [], _ => rfl
  | h, a :: as, f => by rw [words, sitesOfForest, sitesOfForest_words (h.push a) as f]; rfl

theorem sitesOfForest_forest : ∀ {ss : List Site}, (∀ s ∈ ss, s.WF) →
    sitesOfForest none (forestOfSites ss) = ss
  | [], _ => rfl
  | s :: ss, h => by
    have hs := h s (by simp)
    have hss := sitesOfForest_forest fun t ht => h t (List.mem_cons_of_mem s ht)
    obtain ⟨h₁, h₂⟩ := foldl_push (.start s.first) s.others
    rw [forestOfSites, words, sitesOfForest, sitesOfForest_words, Block.forest, sitesOfForest, hss,
      h₁, h₂, Block.ofForest, Directives.ofForest_forest hs.block.inside]
    rfl

theorem File.ofForest_forest {f : File} (hf : f.WF) : File.ofForest f.forest = f := by
  obtain ⟨globals, sites⟩ := f
  have hs := sitesOfForest_forest hf.sites
  cases globals with
  | some b =>
    have hb := Directives.ofForest_forest (hf.globals b rfl).inside
    simp [forest, Block.forest, ofForest, Block.ofForest, hb, hs]
  | none =>
    cases sites with
    | nil => rfl
    | cons s ss =>
      simp only [forestOfSites, words] at hs
      simp [forest, forestOfSites, words, ofForest, hs]

theorem File.forest_inj {f g : File} (hf : f.WF) (hg : g.WF) (h : f.forest = g.forest) : f = g := by
  rw [← ofForest_forest hf, h, ofForest_forest hg]

/-! ### It is there if no fault is -/

theorem settle_faultless {depth : Nat} {opener : Token} {closer : Option Token}
    {unclosed : Fault.Cause} {inside : Contents}
    (h : (settle depth opener closer unclosed inside).faults = []) :
    depth < maxDepth ∧ closer.isSome ∧ inside.faults = [] := by
  unfold settle at h
  split at h
  · rename_i hd
    cases closer with
    | none => simp at h
    | some c => exact ⟨hd, rfl, h⟩
  · simp at h

def HeaderOk : Option Header → Prop
  | none => True
  | some h => h.name.isWord ∧ ∀ a ∈ h.args, IsArg h.name a

theorem HeaderOk.push {h : Header} {t : Token} (hp : HeaderOk (some h)) (ht : IsArg h.name t) :
    HeaderOk (some (h.push t)) := by
  refine ⟨hp.1, fun a hmem => ?_⟩
  rcases List.mem_append.mp hmem with hmem | hmem
  · exact hp.2 a hmem
  · rwa [List.mem_singleton.mp hmem]

theorem Directives.ofForest_spec (finish : Nat) : ∀ (depth : Nat) (pending : Option Header)
    (f : Forest), f.Grouped → HeaderOk pending → depth ≤ maxDepth →
    (contents finish depth pending f).faults = [] →
    (ofForest pending f).WF ∧ (ofForest pending f).tokens = pendingWords pending ++ f.tokens ∧
      (ofForest pending f).height + depth ≤ maxDepth := by
  intro depth pending f
  fun_induction contents finish depth pending f with
  | case1 depth => exact fun _ _ hd _ => ⟨trivial, rfl, by simpa [ofForest, height] using hd⟩
  | case2 depth h =>
    intro _ hp hd _
    refine ⟨⟨hp.1, hp.2, by simp [tokens], trivial⟩, ?_, by simpa [ofForest, height] using hd⟩
    simp [ofForest, tokens, pendingWords, Forest.tokens]
  | case3 depth t rest ih =>
    intro hf _ hd h
    exact ih hf.2 ⟨hf.1, by simp⟩ hd h
  | case4 depth h t rest ha ih =>
    intro hf hp hd hnil
    have harg : IsArg h.name t := ⟨hf.1, by simpa [Header.accepts] using ha⟩
    have := ih hf.2 (hp.push harg) hd hnil
    rw [ofForest, if_pos ha]
    simpa [pendingWords, Header.push, Forest.tokens] using this
  | case5 depth h t rest ha ih =>
    intro hf hp hd hnil
    -- The next directive begins with `t`, which is on another line than `h`.
    obtain ⟨hwf, htok, hh⟩ := ih hf.2 ⟨hf.1, by simp⟩ hd hnil
    have htok : (ofForest (some ⟨t, []⟩) rest).tokens = t :: rest.tokens := htok
    rw [ofForest, if_neg ha]
    refine ⟨⟨hp.1, hp.2, ?_, hwf⟩, ?_, hh⟩
    · rw [htok]
      rintro u hu ⟨_, hl⟩
      obtain rfl : t = u := by simpa using hu
      exact ha (by simpa [Header.accepts] using hl)
    · rw [tokens, htok]
      simp [pendingWords, Forest.tokens]
  | case6 depth opener inside closer rest own stray ihi ihr =>
    -- A block without a name in front of it is a fault.
    intro _ _ _ hnil
    simp [Contents.append, stray] at hnil
  | case7 depth h opener inside closer rest own d ihi ihr =>
    intro hf hp hd hnil
    obtain ⟨hown, hrest⟩ := List.append_eq_nil_iff.mp hnil
    obtain ⟨hdepth, hc, hin⟩ := settle_faultless hown
    obtain ⟨closer, rfl⟩ := Option.isSome_iff_exists.mp hc
    obtain ⟨ho, hi, hk, hr⟩ := hf
    obtain ⟨hwfi, htoki, hhi⟩ := ihi hi.grouped trivial hdepth hin
    obtain ⟨hwfr, htokr, hhr⟩ := ihr hr trivial hd hrest
    refine ⟨⟨hp.1, hp.2, ho, hwfi, hk, hwfr⟩, ?_, ?_⟩
    · rw [ofForest, tokens, htoki, htokr]
      simp [pendingWords, Forest.tokens]
    · simp only [ofForest, height]
      omega

theorem Block.ofForest_spec {finish : Nat} {opener : Token} {inside rest : Forest}
    {closer : Option Token} {unclosed : Fault.Cause}
    (hf : (Forest.block opener inside closer rest).Grouped)
    (hnil : (topBlock finish opener inside closer unclosed).faults = []) :
    (ofForest opener inside closer).WF ∧ rest.Grouped ∧
      (ofForest opener inside closer).tokens ++ rest.tokens =
        (Forest.block opener inside closer rest).tokens := by
  obtain ⟨_, hc, hin⟩ := settle_faultless hnil
  obtain ⟨closer, rfl⟩ := Option.isSome_iff_exists.mp hc
  obtain ⟨ho, hi, hk, hr⟩ := hf
  obtain ⟨hwf, htok, hh⟩ :=
    Directives.ofForest_spec finish 1 none inside hi.grouped trivial (by decide) hin
  refine ⟨⟨ho, hwf, hk, hh⟩, hr, ?_⟩
  rw [tokens, ofForest, htok]
  simp [pendingWords, Forest.tokens]

theorem AddressRun.snoc : ∀ {a : Token} {bs : List Token} {t : Token}, AddressRun a bs → t.isWord →
    Follows (bs.getLastD a) t → AddressRun a (bs ++ [t])
  | _, [], _, _, ht, hf => ⟨ht, hf, trivial⟩
  | _, b :: bs, _, ⟨hb, hab, hbs⟩, ht, hf =>
    ⟨hb, hab, hbs.snoc ht (by rwa [List.getLastD_cons] at hf)⟩

def HeadingOk : Option Heading → Prop
  | none => True
  | some h => h.first.isWord ∧ AddressRun h.first h.others ∧ h.others.getLastD h.first = h.last

theorem sitesOfForest_spec (finish : Nat) : ∀ (pending : Option Heading) (f : Forest), f.Grouped →
    HeadingOk pending → (stretch finish pending f).faults = [] →
    (∀ s ∈ sitesOfForest pending f, s.WF) ∧
      (sitesOfForest pending f).flatMap Site.tokens = pendingAddresses pending ++ f.tokens := by
  intro pending f
  fun_induction stretch finish pending f with
  | case1 => exact fun _ _ _ => ⟨by simp [sitesOfForest], rfl⟩
  | case2 h => exact fun _ _ hnil => by simp [Heading.plain] at hnil
  | case3 t rest ih => exact fun hf _ hnil => ih hf.2 ⟨hf.1, trivial, rfl⟩ hnil
  | case4 h t rest ha ih =>
    intro hf hp hnil
    obtain ⟨hw, hrun, hlast⟩ := hp
    have hfol : Follows (h.others.getLastD h.first) t := by
      rw [hlast]; simpa [Heading.accepts, Follows] using ha
    have := ih hf.2 ⟨hw, hrun.snoc hf.1 hfol, by simp [Heading.push]⟩ hnil
    simpa [sitesOfForest, pendingAddresses, Heading.push, Forest.tokens] using this
  | case5 h t rest ha ih => exact fun _ _ hnil => by simp [Heading.plain, Stretch.append] at hnil
  | case6 opener inside closer rest body ih =>
    exact fun _ _ hnil => by simp [Stretch.append] at hnil
  | case7 h opener inside closer rest body ih =>
    intro hf hp hnil
    obtain ⟨hw, hrun, _⟩ := hp
    obtain ⟨hbody, hrest⟩ := List.append_eq_nil_iff.mp hnil
    obtain ⟨hb, hr, htok⟩ := Block.ofForest_spec hf hbody
    obtain ⟨hwf, htoks⟩ := ih hr trivial hrest
    rw [sitesOfForest]
    refine ⟨List.forall_mem_cons.mpr ⟨⟨hw, hrun, hb⟩, hwf⟩, ?_⟩
    rw [List.flatMap_cons, htoks, ← htok]
    simp [Site.tokens, pendingAddresses]

theorem laterStretches_faultless (finish : Nat) {later : List (Token × Forest)}
    (h : (laterStretches finish later).faults = []) : later = [] := by
  cases later with
  | nil => rfl
  | cons p later => simp [laterStretches, Stretch.append] at h

theorem File.ofForest_spec (finish : Nat) {s : Forest.Split} (hs : s.Grouped)
    (hnil : (Document.ofForest finish s).faults = []) :
    (ofForest s.first).WF ∧ (ofForest s.first).tokens = s.tokens := by
  obtain ⟨first, later⟩ := s
  obtain rfl : later = [] := by
    apply laterStretches_faultless finish
    cases first <;> simp_all [Document.ofForest, Stretch.append]
  have htokens : (⟨first, []⟩ : Forest.Split).tokens = first.tokens := by
    simp [Forest.Split.tokens]
  rw [htokens]
  cases first with
  | nil => exact ⟨⟨by simp [ofForest], by simp [ofForest, sitesOfForest]⟩, rfl⟩
  | word t rest =>
    have hnil : (stretch finish none (.word t rest)).faults = [] := by
      simpa [Document.ofForest, laterStretches, Stretch.append] using hnil
    obtain ⟨hwf, htok⟩ := sitesOfForest_spec finish none _ hs trivial hnil
    exact ⟨⟨by simp [ofForest], hwf⟩, htok⟩
  | block opener inside closer rest =>
    obtain ⟨hbody, hnil⟩ := List.append_eq_nil_iff.mp hnil
    have hrest : (stretch finish none rest).faults = [] := by
      simpa [laterStretches, Stretch.append] using hnil
    obtain ⟨hb, hr, htok⟩ := Block.ofForest_spec hs hbody
    obtain ⟨hwf, htoks⟩ := sitesOfForest_spec finish none rest hr trivial hrest
    refine ⟨⟨by simpa [ofForest] using hb, hwf⟩, ?_⟩
    simp [ofForest, tokens, htoks, ← htok, pendingAddresses]

/-! ### Texts and their derivations -/

theorem read_of_tokens {source : String} {f : File} (hf : f.WF)
    (htok : f.tokens = (tokens source).dropLast) : Document.read source = ⟨f.document, []⟩ := by
  obtain ⟨ws, e, hts, _, hgroup, _⟩ := Forest.exists_ofTokens source
  rw [hts, List.dropLast_concat] at htok
  rw [Document.read, Document.ofTokens, hgroup, ← htok, ← f.tokens_forest,
    Forest.ofTokens_tokens hf.closed, ofForest_forest _ hf]

theorem exists_of_faultless {source : String} (h : (Document.read source).faults = []) :
    ∃ f : File, f.WF ∧ f.tokens = (tokens source).dropLast := by
  obtain ⟨ws, e, hts, _, hgroup, hws⟩ := Forest.exists_ofTokens source
  rw [Document.read, Document.ofTokens, hgroup] at h
  obtain ⟨hwf, htok⟩ := File.ofForest_spec _ (Forest.grouped_ofTokens ws) h
  exact ⟨_, hwf, by rw [htok, hws, hts, List.dropLast_concat]⟩

end Grammar

/-! ## Main result -/

/-- A text is read without faults exactly if its tokens are derivable. A derivable text has one
derivation only, and is read as the tree of that derivation. -/
theorem faultless_iff_derives (source : String) :
    ((Document.read source).faults = [] ↔
      ∃ f : Grammar.File, f.WF ∧ f.tokens = (tokens source).dropLast) ∧
    ∀ f : Grammar.File, f.WF → f.tokens = (tokens source).dropLast →
      (Document.read source).document = f.document ∧
        ∀ g : Grammar.File, g.WF → g.tokens = (tokens source).dropLast → g = f := by
  obtain ⟨ws, e, hts, _, hgroup, hws⟩ := Forest.exists_ofTokens source
  have hdrop : (tokens source).dropLast = ws := by rw [hts, List.dropLast_concat]
  rw [hdrop]
  have hforest {f : Grammar.File} (hf : f.WF) (htok : f.tokens = ws) :
      Forest.ofTokens ws = ⟨f.forest, []⟩ := by
    rw [← htok, ← f.tokens_forest, Forest.ofTokens_tokens hf.closed]
  have hread {f : Grammar.File} (hf : f.WF) (htok : f.tokens = ws) :
      Document.read source = ⟨f.document, []⟩ := by
    rw [Document.read, Document.ofTokens, hgroup, hforest hf htok, Grammar.ofForest_forest _ hf]
  refine ⟨⟨fun h => ?_, fun ⟨f, hf, htok⟩ => by rw [hread hf htok]⟩, fun f hf htok => ⟨?_, ?_⟩⟩
  · rw [Document.read, Document.ofTokens, hgroup] at h
    obtain ⟨hwf, htok⟩ := Grammar.File.ofForest_spec _ (Forest.grouped_ofTokens ws) h
    exact ⟨_, hwf, htok.trans hws⟩
  · rw [hread hf htok]
  · intro g hg htok'
    have h := (hforest hg htok').symm.trans (hforest hf htok)
    exact Grammar.File.forest_inj hg hf (congrArg Forest.Split.first h)

theorem derives_addresses_over_two_lines :
    (Document.read "a,\nb \x7b\n\tc d \x7b\n\t\x7d\n\te\n\x7d\n").faults = [] ∧
      ∃ f : Grammar.File, f.WF ∧
        f.tokens = (tokens "a,\nb \x7b\n\tc d \x7b\n\t\x7d\n\te\n\x7d\n").dropLast ∧
        (Document.read "a,\nb \x7b\n\tc d \x7b\n\t\x7d\n\te\n\x7d\n").document = f.document := by
  have h : (Document.read "a,\nb \x7b\n\tc d \x7b\n\t\x7d\n\te\n\x7d\n").faults = [] := by
    decide +kernel
  obtain ⟨f, hf, htok⟩ := (faultless_iff_derives _).1.mp h
  exact ⟨h, f, hf, htok, ((faultless_iff_derives _).2 f hf htok).1⟩

end Caddyfile
