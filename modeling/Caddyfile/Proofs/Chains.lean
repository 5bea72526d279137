import Caddyfile.Proofs.Judgement

/-!
# The chain of blocks around a line

Blocks that hold a line lie inside one another: at most one site holds it, and the directives of
that site that hold it are a chain, each in the block of the one before. A cursor that takes the
first block it meets at every level follows this chain, and what may be typed is read off it by the
rules of `Offered` (`cursor_follows_chain`).
-/

namespace Caddyfile

namespace Directive

/-- The first is one of `ds`, and each of the others is in the block of the one before. -/
def Descends : List Directive → List Directive → Prop
  | _, [] => True
  | ds, c :: cs => c ∈ ds ∧ Descends c.body cs

theorem descends_around {lo hi line : Nat} {ds : List Directive} (h : Stacked lo hi ds) :
    Descends ds (around line ds) := by
  generalize hcs : around line ds = cs
  induction cs generalizing lo hi ds with
  | nil => trivial
  | cons c cs ih =>
    obtain ⟨hfind, hbody, hstacked⟩ := h.around_eq_cons hcs
    exact ⟨List.mem_of_find?_eq_some hfind, ih hstacked hbody⟩

end Directive

open Directive

/-! ## What may be typed -/

namespace Cursor

/-- What may be typed inside the blocks of a chain, the outermost first. Containers are passed
through, and the first directive that is none decides. -/
inductive Offered : List Directive → Context → Prop where
  | site {cs : List Directive} (hcs : AllContainers cs) : Offered cs .siteDirective
  | unmodeled {cs below : List Directive} {a : Directive} (hcs : AllContainers cs)
    (ha : a.title ∉ Vocabulary.containers) (hbody : Vocabulary.bodyOf a.title = .unmodeled) :
    Offered (cs ++ a :: below) .nothing
  | freeform {cs below : List Directive} {a : Directive} (hcs : AllContainers cs)
    (ha : a.title ∉ Vocabulary.containers) (hbody : Vocabulary.bodyOf a.title = .freeform) :
    Offered (cs ++ a :: below) .freeform
  | block {cs : List Directive} {a : Directive} {allowed : Array String} (hcs : AllContainers cs)
    (ha : a.title ∉ Vocabulary.containers) (hbody : Vocabulary.bodyOf a.title = .names allowed) :
    Offered (cs ++ [a]) (.subdirective a.title allowed)
  | nested {cs below : List Directive} {a b : Directive} {allowed names : Array String}
    {arg : String} (hcs : AllContainers cs) (ha : a.title ∉ Vocabulary.containers)
    (hbody : Vocabulary.bodyOf a.title = .names allowed) (harg : b.firstArg? = some arg)
    (hnames : Vocabulary.nestedNames? b.title arg = some names) :
    Offered (cs ++ a :: b :: below) (.subdirective s!"{b.title} {arg}" names)
  | unknown {cs below : List Directive} {a b : Directive} {allowed : Array String}
    (hcs : AllContainers cs) (ha : a.title ∉ Vocabulary.containers)
    (hbody : Vocabulary.bodyOf a.title = .names allowed)
    (hb : ∀ arg ∈ b.firstArg?, Vocabulary.nestedNames? b.title arg = none) :
    Offered (cs ++ a :: b :: below) .nothing

theorem contextOf_append {cs : List Directive} (hcs : AllContainers cs) (as : List Directive) :
    contextOf (cs ++ as) = contextOf as := by
  induction cs with
  | nil => rfl
  | cons c cs ih =>
    obtain ⟨hc, hcs⟩ := List.forall_mem_cons.mp hcs
    rw [List.cons_append, contextOf, if_pos ((Vocabulary.isContainer_iff _).mpr hc), ih hcs]

theorem Offered.container {c : Directive} {cs : List Directive} {context : Context}
    (hc : c.title ∈ Vocabulary.containers) (h : Offered cs context) :
    Offered (c :: cs) context := by
  cases h with
  | site hcs => exact .site (hcs.cons hc)
  | unmodeled hcs ha hbody => exact .unmodeled (hcs.cons hc) ha hbody
  | freeform hcs ha hbody => exact .freeform (hcs.cons hc) ha hbody
  | block hcs ha hbody => exact .block (hcs.cons hc) ha hbody
  | nested hcs ha hbody harg hnames => exact .nested (hcs.cons hc) ha hbody harg hnames
  | unknown hcs ha hbody hb => exact .unknown (hcs.cons hc) ha hbody hb

theorem offered_inSubdirective {a b : Directive} {allowed : Array String} (below : List Directive)
    (ha : a.title ∉ Vocabulary.containers) (hbody : Vocabulary.bodyOf a.title = .names allowed) :
    Offered (a :: b :: below) (inSubdirective b) := by
  unfold inSubdirective
  cases harg : b.firstArg? with
  | none => exact .unknown .nil ha hbody fun arg h => by simp [harg] at h
  | some arg =>
    simp only
    cases hnames : Vocabulary.nestedNames? b.title arg with
    | none =>
      refine .unknown .nil ha hbody fun other h => ?_
      obtain rfl : arg = other := by simpa [harg] using h
      exact hnames
    | some names => exact .nested .nil ha hbody harg hnames

theorem offered_contextOf (cs : List Directive) : Offered cs (contextOf cs) := by
  induction cs with
  | nil => exact .site .nil
  | cons a cs ih =>
    rw [contextOf]
    by_cases hc : a.title ∈ Vocabulary.containers
    · rw [if_pos ((Vocabulary.isContainer_iff _).mpr hc)]
      exact ih.container hc
    rw [if_neg (by rwa [Vocabulary.isContainer_iff])]
    cases hbody : Vocabulary.bodyOf a.title with
    | unmodeled => exact .unmodeled .nil hc hbody
    | freeform => exact .freeform .nil hc hbody
    | names allowed =>
      cases cs with
      | nil => exact .block .nil hc hbody
      | cons b cs => exact offered_inSubdirective cs hc hbody

theorem contextOf_eq_of_offered {cs : List Directive} {context : Context} (h : Offered cs context) :
    contextOf cs = context := by
  cases h with
  | site hcs =>
    have := contextOf_append hcs []
    rwa [List.append_nil] at this
  | unmodeled hcs ha hbody | freeform hcs ha hbody | block hcs ha hbody =>
    rw [contextOf_append hcs]
    simp [contextOf, Vocabulary.isContainer_iff, ha, hbody]
  | nested hcs ha hbody harg hnames =>
    rw [contextOf_append hcs]
    simp [contextOf, Vocabulary.isContainer_iff, ha, hbody, inSubdirective, harg, hnames]
  | @unknown cs below a b allowed hcs ha hbody hb =>
    have hsub : inSubdirective b = .nothing := by
      unfold inSubdirective
      cases harg : b.firstArg? with
      | none => rfl
      | some arg => simp [hb arg harg]
    rw [contextOf_append hcs]
    simp [contextOf, Vocabulary.isContainer_iff, ha, hbody, hsub]

end Cursor

/-- At most one site holds a line, and the directives of that site that hold the line are a chain
from the site inwards. Where a name is typed, the chain alone tells what may stand there. -/
theorem cursor_follows_chain (source : String) (line : Nat) :
    ((Document.read source).document.sites.filter (·.encloses line)).length ≤ 1 ∧
    (∀ s ∈ (Document.read source).document.sites, s.encloses line →
      Descends s.directives (around line s.directives) ∧
      ∀ column, Cursor.BeginsLine source ⟨line, column⟩ → ∀ context,
        (Document.read source).document.contextAt source ⟨line, column⟩ = context ↔
          Cursor.Offered (around line s.directives) context) ∧
    ((∀ s ∈ (Document.read source).document.sites, ¬ s.encloses line) →
      ∀ column, Cursor.BeginsLine source ⟨line, column⟩ →
        (Document.read source).document.contextAt source ⟨line, column⟩ = .nothing) ∧
    ((Text.lines source.toList).length ≤ line → ∀ column,
      (Document.read source).document.contextAt source ⟨line, column⟩ = .nothing) := by
  obtain ⟨last, hstacked⟩ := Document.stacked_read source
  refine ⟨?_, ?_, ?_, ?_⟩
  · exact hstacked.row.length_filter_le line
  · intro s hs hline
    refine ⟨Directive.descends_around (hstacked.inside s hs), fun column hbegins context => ?_⟩
    rw [Cursor.contextAt_of_beginsLine _ hbegins, Cursor.onLine_around hstacked hs hline]
    constructor
    · rintro rfl
      exact Cursor.offered_contextOf _
    · exact Cursor.contextOf_eq_of_offered
  · intro hnone column hbegins
    rw [Cursor.contextAt_of_beginsLine _ hbegins]
    exact Cursor.onLine_eq_nothing hnone
  · intro hline column
    simp [Document.contextAt, List.getElem?_eq_none hline]

end Caddyfile
