import Caddyfile.Cursor
import Caddyfile.Proofs.Nesting
import Caddyfile.Proofs.Words

/-!
# Directives by the blocks around them

`Within ds as d` says that `d` is in the tree `ds` with the directives `as` around it, the outermost
first. What may be typed on a line depends on the directives whose blocks hold the line alone
(`onLine_around`), and where `d` stands these are those of `as` (`onLine_within`).
-/

namespace Caddyfile

/-! ## The lines of a block -/

theorem Directive.encloses_iff (line : Nat) (d : Directive) :
    d.encloses line ↔ d.firstLine < line ∧ line < d.lastLine := by
  simp [encloses]

theorem Site.encloses_iff (line : Nat) (s : Site) :
    s.encloses line ↔ s.firstLine < line ∧ line < s.lastLine := by
  simp [encloses]

/-! ## Distinct words -/

/-- No two tokens lie at the same place. -/
def Distinct (ts : List Token) : Prop :=
  ts.Pairwise fun t u => t.span ≠ u.span

theorem Distinct.of_lt {ts : List Token} (h : ts.Pairwise fun t u => t.start < u.start) :
    Distinct ts := by
  refine List.Pairwise.imp ?_ h
  intro t u hlt heq
  have hstart : t.start = u.start := congrArg Span.start heq
  rw [hstart] at hlt
  exact Position.lt_irrefl _ hlt

theorem Distinct.ne {ts us : List Token} (h : Distinct (ts ++ us)) {t u : Token} (ht : t ∈ ts)
    (hu : u ∈ us) : t.span ≠ u.span :=
  (List.pairwise_append.mp h).2.2 t ht u hu

theorem Distinct.eq_of_span {α : Type} {f : α → List Token} : ∀ {as : List α},
    Distinct (as.flatMap f) → ∀ {a b : α} {t u : Token}, a ∈ as → b ∈ as → t ∈ f a → u ∈ f b →
    t.span = u.span → a = b
  | c :: as, h, a, b, t, u, ha, hb, ht, hu, heq => by
    rw [List.flatMap_cons] at h
    have htail : Distinct (as.flatMap f) := (List.pairwise_append.mp h).2.1
    rcases List.mem_cons.mp ha with rfl | ha'
    · rcases List.mem_cons.mp hb with rfl | hb'
      · rfl
      · exact absurd heq (h.ne ht (List.mem_flatMap.mpr ⟨b, hb', hu⟩))
    · rcases List.mem_cons.mp hb with rfl | hb'
      · exact absurd heq.symm (h.ne hu (List.mem_flatMap.mpr ⟨a, ha', ht⟩))
      · exact htail.eq_of_span ha' hb' ht hu heq

namespace Directive

/-! ## Paths -/

inductive Within : List Directive → List Directive → Directive → Prop where
  | here {ds : List Directive} {d : Directive} (h : d ∈ ds) : Within ds [] d
  | inside {ds as : List Directive} {a d : Directive} (h : a ∈ ds) (hd : Within a.body as d) :
    Within ds (a :: as) d

namespace Within

theorem body_sublist {ds : List Directive} {a : Directive} (h : a ∈ ds) :
    (a.name :: wordsOf a.body).Sublist (wordsOf ds) := by
  refine List.Sublist.trans ?_ (words_sublist h)
  rw [words_eq]
  exact (List.sublist_append_right a.args (wordsOf a.body)).cons_cons a.name

theorem name_mem {ds as : List Directive} {d : Directive} (h : Within ds as d) :
    d.name ∈ wordsOf ds := by
  induction h with
  | here h => exact (body_sublist h).subset (List.mem_cons_self ..)
  | inside h _ ih => exact (body_sublist h).subset (List.mem_cons_of_mem _ ih)

theorem ancestor_sublist {ds as : List Directive} {d : Directive} (h : Within ds as d) :
    ∀ a ∈ as, [a.name, d.name].Sublist (wordsOf ds) := by
  induction h with
  | here h => simp
  | inside h hd ih =>
    intro b hb
    refine List.Sublist.trans ?_ (body_sublist h)
    rcases List.mem_cons.mp hb with rfl | hb
    · exact (List.singleton_sublist.mpr hd.name_mem).cons_cons _
    · exact (ih b hb).cons _

end Within

/-! ## Directives around a line -/

mutual

/-- A directive and all those inside its block, at any depth, in the order of the text. -/
def tree : Directive → List Directive
  | ⟨name, args, opener, body, lastLine⟩ => ⟨name, args, opener, body, lastLine⟩ :: treeOf body

def treeOf : List Directive → List Directive
  | [] => []
  | d :: ds => tree d ++ treeOf ds

end

/-- All directives of a tree whose block holds the line. -/
def around (line : Nat) (ds : List Directive) : List Directive :=
  (treeOf ds).filter (·.encloses line)

theorem tree_eq (d : Directive) : d.tree = d :: treeOf d.body := by
  cases d; rfl

theorem around_cons (line : Nat) (d : Directive) (ds : List Directive) : around line (d :: ds) =
    (if d.encloses line then [d] else []) ++ (around line d.body ++ around line ds) := by
  unfold around
  rw [treeOf, tree_eq, List.filter_append, List.filter_cons]
  split <;> simp

theorem around_eq_nil_of_forall {line : Nat} {ds : List Directive}
    (h : ∀ d ∈ ds, d.encloses line = false ∧ around line d.body = []) : around line ds = [] := by
  induction ds with
  | nil => rfl
  | cons d ds ih =>
    obtain ⟨⟨hd, hbody⟩, hds⟩ := List.forall_mem_cons.mp h
    rw [around_cons, hd, hbody, ih hds]
    rfl

end Directive

namespace Stacked

open Directive

variable {lo hi line : Nat} {ds : List Directive}

theorem of_cons {d : Directive} (h : Stacked lo hi (d :: ds)) :
    lo ≤ d.firstLine ∧ Stacked d.firstLine d.lastLine d.body ∧ Stacked d.lastLine hi ds := by
  obtain ⟨hrow, hformed, hinside⟩ := h
  refine ⟨hrow.1, hinside d (by simp), hrow.2.2, ?_, ?_⟩
  · exact fun e he => hformed e (List.mem_cons_of_mem d he)
  · exact fun e he => hinside e (List.mem_cons_of_mem d he)

/-- No directive reaches out of the lines that hold all of them. -/
theorem around_eq_nil (h : Stacked lo hi ds) (hline : ¬ (lo < line ∧ line < hi)) :
    around line ds = [] := by
  induction h with
  | mk row _ _ ih =>
    refine around_eq_nil_of_forall fun d hd => ?_
    have hlo := row.le_first d hd
    have hhi := row.last_le d hd
    have hnot : ¬ (d.firstLine < line ∧ line < d.lastLine) := by omega
    exact ⟨by rwa [← Bool.not_eq_true, encloses_iff], ih d hd hnot⟩

/-- The first block that holds the line is the only one on its level. -/
theorem around_eq_find? (h : Stacked lo hi ds) : around line ds =
    (ds.find? (·.encloses line)).elim [] fun d => d :: around line d.body := by
  induction ds generalizing lo with
  | nil => rfl
  | cons d ds ih =>
    obtain ⟨_, hbody, hrest⟩ := h.of_cons
    rw [around_cons]
    by_cases hd : d.encloses line
    · have hline := (encloses_iff line d).mp hd
      have hbehind : around line ds = [] := hrest.around_eq_nil (by omega)
      simp [hd, hbehind]
    · have hline : ¬ (d.firstLine < line ∧ line < d.lastLine) := by rwa [← encloses_iff]
      have hinside : around line d.body = [] := hbody.around_eq_nil hline
      simp [hd, hinside, ih hrest]

theorem around_eq_cons {c : Directive} {cs : List Directive} (h : Stacked lo hi ds)
    (hc : around line ds = c :: cs) :
    ds.find? (·.encloses line) = some c ∧ around line c.body = cs ∧
      Stacked c.firstLine c.lastLine c.body := by
  rw [h.around_eq_find?] at hc
  cases hfind : ds.find? (·.encloses line) with
  | none => simp [hfind] at hc
  | some d =>
    rw [hfind, Option.elim_some] at hc
    obtain ⟨rfl, hcs⟩ := List.cons.inj hc
    exact ⟨rfl, hcs, h.inside d (List.mem_of_find?_eq_some hfind)⟩

theorem find?_eq_head? (h : Stacked lo hi ds) :
    ds.find? (·.encloses line) = (around line ds).head? := by
  rw [h.around_eq_find?]
  cases ds.find? (·.encloses line) <;> rfl

theorem around_within {as : List Directive} {d : Directive} (h : Stacked lo hi ds)
    (hd : Within ds as d) (has : ∀ a ∈ as, a.encloses d.firstLine) :
    around d.firstLine ds = as := by
  induction hd generalizing lo hi with
  | @here ds d hmem =>
    have hnone : ds.find? (·.encloses d.firstLine) = none := h.row.find?_eq_none rfl hmem
    rw [h.around_eq_find?, hnone]
    rfl
  | @inside ds as a d hmem hd ih =>
    obtain ⟨ha, has⟩ := List.forall_mem_cons.mp has
    have hline := (encloses_iff _ a).mp ha
    have hfind : ds.find? (·.encloses d.firstLine) = some a :=
      h.row.find?_of_mem hline.1 hline.2 hmem
    rw [h.around_eq_find?, hfind, Option.elim_some, ih (h.inside a hmem) has]

end Stacked

/-! ## What may be typed -/

namespace Cursor

open Directive

/-- What the subdirective `sub` takes in its block. -/
def inSubdirective (sub : Directive) : Context :=
  match sub.firstArg? with
  | none => .nothing
  | some arg =>
    match Vocabulary.nestedNames? sub.title arg with
    | none => .nothing
    | some nested => .subdirective s!"{sub.title} {arg}" nested

/-- What may be typed inside the blocks of `as`, the outermost first. -/
def contextOf : List Directive → Context
  | [] => .siteDirective
  | a :: as =>
    if Vocabulary.isContainer a.title then contextOf as
    else
      match Vocabulary.bodyOf a.title with
      | .unmodeled => .nothing
      | .freeform => .freeform
      | .names allowed => as.head?.elim (.subdirective a.title allowed) inSubdirective

theorem inDirectives_eq_find? (line : Nat) : ∀ ds : List Directive,
    inDirectives line ds = (ds.find? (·.encloses line)).elim .siteDirective (inDirective line)
  | [] => rfl
  | d :: ds => by
    rw [inDirectives, inDirectives_eq_find? line ds]
    by_cases h : d.encloses line
    · simp [h]
    · simp [h]

theorem inBlock_eq_find? (line : Nat) (parent : String) (names : Array String)
    (body : List Directive) : inBlock line parent names body =
      (body.find? (·.encloses line)).elim (.subdirective parent names) inSubdirective := by
  unfold inBlock
  cases body.find? (·.encloses line) <;> rfl

theorem inDirective_eq (line : Nat) (d : Directive) : inDirective line d =
    if Vocabulary.isContainer d.title then inDirectives line d.body
    else
      match Vocabulary.bodyOf d.title with
      | .unmodeled => .nothing
      | .freeform => .freeform
      | .names allowed => inBlock line d.title allowed d.body := by
  cases d; rfl

theorem inDirectives_around {lo hi line : Nat} {ds : List Directive} (h : Stacked lo hi ds) :
    inDirectives line ds = contextOf (around line ds) := by
  generalize hcs : around line ds = cs
  induction cs generalizing lo hi ds with
  | nil => rw [inDirectives_eq_find?, h.find?_eq_head?, hcs]; rfl
  | cons c cs ih =>
    obtain ⟨hfind, hbody, hstacked⟩ := h.around_eq_cons hcs
    rw [inDirectives_eq_find?, hfind, Option.elim_some, inDirective_eq, contextOf,
      ih hstacked hbody]
    simp only [inBlock_eq_find?, hstacked.find?_eq_head?, hbody]

theorem onLine_eq_nothing {doc : Document} {line : Nat} (h : ∀ s ∈ doc.sites, ¬ s.encloses line) :
    onLine doc line = .nothing := by
  rw [onLine, List.find?_eq_none.mpr h]

theorem onLine_around {lo hi line : Nat} {doc : Document} {s : Site}
    (hdoc : Document.SitesStacked lo hi doc.sites) (hs : s ∈ doc.sites) (hline : s.encloses line) :
    onLine doc line = contextOf (around line s.directives) := by
  have hfind : doc.sites.find? (·.encloses line) = some s := by
    rw [Site.encloses_iff] at hline
    exact hdoc.row.find?_of_mem hline.1 hline.2 hs
  rw [onLine, hfind]
  exact inDirectives_around (hdoc.inside s hs)

theorem onLine_within {lo hi : Nat} {doc : Document} {s : Site} {as : List Directive} {d : Directive}
    (hdoc : Document.SitesStacked lo hi doc.sites) (hs : s ∈ doc.sites)
    (hd : Within s.directives as d) (hline : s.encloses d.firstLine)
    (ha : ∀ a ∈ as, a.encloses d.firstLine) : onLine doc d.firstLine = contextOf as := by
  rw [onLine_around hdoc hs hline, (hdoc.inside s hs).around_within hd ha]

end Cursor

end Caddyfile
