import Mathlib.Data.List.Perm.Basic
import Mathlib.Data.List.Sort
import Caddyfile.Proofs.Judgement

/-!
# Findings that go away

Which blocks a review enters depends on the names of directives alone. The snippets that are declared
and whether the directives stand in a snippet decide only about single findings, so a change of them
that takes findings from every directive takes the same findings from a whole tree
(`findings_filter`). Directives in a snippet are excused from belonging in some other block
(`findings_in_snippet`), and a site that is added to a document settles the imports of the snippet it
declares (`review_insert_site`).
-/

namespace Caddyfile

namespace Review

/-! ## From one directive to a tree -/

namespace Scope

section
variable {snippets snippets' : Array String} {inSnippet inSnippet' : Bool}
  {keep : Finding.Cause → Bool}
  (hcause : ∀ (scope : Scope) (name : String),
    scope.cause? inSnippet' name = (scope.cause? inSnippet name).filter keep)
  (himport : ∀ d : Directive, ofImport snippets' d = (ofImport snippets d).filter (keep ·.cause))
include hcause himport

theorem own_filter (scope : Scope) (d : Directive) : scope.own snippets' inSnippet' d =
    (scope.own snippets inSnippet d).filter (keep ·.cause) := by
  unfold own
  rw [List.filter_append, hcause]
  congr 1
  · cases scope.cause? inSnippet d.title with
    | none => rfl
    | some cause => by_cases h : keep cause <;> simp [h]
  · split
    · exact himport d
    · rfl

theorem findings_filter (scope : Scope) (d : Directive) : scope.findings snippets' inSnippet' d =
    (scope.findings snippets inSnippet d).filter (keep ·.cause) := by
  rw [findings_eq, findings_eq, List.filter_append, own_filter hcause himport]
  congr 1
  cases scope.enter d with
  | none => rfl
  | some inner =>
    rw [Option.elim_some, Option.elim_some, List.filter_flatMap]
    apply List.flatMap_congr
    intro e he
    exact findings_filter inner e
termination_by sizeOf d
decreasing_by exact Directive.sizeOf_lt_of_mem_body he

theorem ofDirectives_filter (ds : List Directive) : ofDirectives snippets' inSnippet' ds =
    (ofDirectives snippets inSnippet ds).filter (keep ·.cause) := by
  rw [ofDirectives_eq_flatMap, ofDirectives_eq_flatMap, List.filter_flatMap]
  apply List.flatMap_congr
  intro d _
  exact findings_filter hcause himport .site d

end

theorem cause?_ne_undefinedSnippet (inSnippet : Bool) (scope : Scope) (name target : String) :
    scope.cause? inSnippet name ≠ some (.undefinedSnippet target) := by
  cases scope with
  | site =>
    simp only [cause?]
    split
    · simp
    · cases Vocabulary.home? name <;> cases inSnippet <;> simp
  | block parent allowed =>
    simp only [cause?]
    split
    · simp
    · cases Vocabulary.home? name <;> simp
  | nested parent sub allowed =>
    simp only [cause?]
    split <;> simp

end Scope

end Review

/-! ## In a snippet -/

namespace Finding.Cause

open Text (quoted)

/-- A name at site level that belongs in some other block. -/
def isMisplaced : Cause → Bool
  | misplaced .. => true
  | _ => false

theorem getLast?_append {s t : String} {c : Char} (h : t.toList.getLast? = some c) :
    (s ++ t).toList.getLast? = some c := by
  rw [String.toList_append, List.getLast?_append, h]
  rfl

theorem getLast?_quoted (s : String) : (quoted s).toList.getLast? = some '"' :=
  getLast?_append (by decide)

/-- Only the messages on misplaced names end with this letter. -/
theorem isMisplaced_of_getLast? {cause : Cause} (h : cause.message.toList.getLast? = some 'l') :
    cause.isMisplaced := by
  cases cause with
  | misplaced => rfl
  | misplacedInside name parent home =>
    have hlast : (misplacedInside name parent home).message.toList.getLast? = some 'k' :=
      getLast?_append (getLast?_append (by decide))
    cases h.symm.trans hlast
  | unclosedPlaceholder | unmatchedPlaceholder => exact absurd h (by decide)
  | unknownOption name | unknownDirective name | unknownSubdirective name _
  | unknownNested name _ _ | undefinedSnippet name =>
    cases h.symm.trans (getLast?_append (getLast?_quoted _))

theorem isMisplaced_iff_message (cause : Cause) : cause.isMisplaced ↔ ∃ name home, cause.message =
    s!"{quoted name} must appear inside a {quoted home} block, not at the site level" := by
  constructor
  · intro h
    cases cause with
    | misplaced name home => exact ⟨name, home, rfl⟩
    | _ => cases h
  · rintro ⟨name, home, h⟩
    apply isMisplaced_of_getLast?
    rw [h]
    exact getLast?_append (by decide)

end Finding.Cause

namespace Review

theorem Scope.cause?_in_snippet (scope : Scope) (name : String) :
    scope.cause? true name = (scope.cause? false name).filter (!·.isMisplaced) := by
  cases scope with
  | site =>
    simp only [cause?]
    split
    · rfl
    · cases Vocabulary.home? name <;> rfl
  | block parent allowed =>
    simp only [cause?]
    split
    · rfl
    · cases Vocabulary.home? name <;> rfl
  | nested parent sub allowed =>
    simp only [cause?]
    split <;> rfl

/-- Directives in a snippet have the findings they would have in a site, in the same order, but for
those on misplaced names, which their messages tell from all others. -/
theorem findings_in_snippet (snippets : Array String) (ds : List Directive) :
    ofDirectives snippets true ds =
        (ofDirectives snippets false ds).filter (!·.cause.isMisplaced) ∧
      ∀ cause : Finding.Cause, cause.isMisplaced ↔ ∃ name home, cause.message =
        s!"{Text.quoted name} must appear inside a {Text.quoted home} block, not at the site level" := by
  refine ⟨Scope.ofDirectives_filter Scope.cause?_in_snippet ?_ ds,
    Finding.Cause.isMisplaced_iff_message⟩
  intro d
  symm
  rw [List.filter_eq_self]
  intro f hf
  obtain ⟨arg, _, rfl⟩ := eq_of_mem_ofImport hf
  rfl

end Review

/-! ## One more site -/

namespace Site

/-- The site declares the snippet that is said to be missing. -/
def resolves (s : Site) (cause : Finding.Cause) : Bool :=
  s.snippet?.any fun name => cause = .undefinedSnippet name

theorem resolves_undefinedSnippet (s : Site) (name : String) :
    s.resolves (.undefinedSnippet name) = decide (s.snippet? = some name) := by
  unfold resolves
  cases s.snippet? with
  | none => simp
  | some other => simp [eq_comm]

theorem resolves_eq_false (s : Site) {cause : Finding.Cause}
    (h : ∀ name, cause ≠ .undefinedSnippet name) : s.resolves cause = false := by
  unfold resolves
  cases s.snippet? with
  | none => rfl
  | some name => simp [h name]

/-- The findings on a site, and on nothing else, where `snippets` are declared. -/
def review (snippets : Array String) (s : Site) : List Finding :=
  Review.ofSite snippets s ++
    (s.addresses ++ Review.argumentsOf s.directives).filterMap Review.ofWord

end Site

def Globals.review (snippets : Array String) (g : Globals) : List Finding :=
  g.directives.flatMap (Review.ofGlobal snippets) ++
    (Review.argumentsOf g.directives).filterMap Review.ofWord

/-- The findings block by block, where `snippets` are declared. -/
def Document.blockwise (snippets : Array String) (globals : Option Globals) (sites : List Site) :
    List Finding :=
  globals.elim [] (Globals.review snippets) ++ sites.flatMap (Site.review snippets)

section
variable {snippets snippets' : Array String} {b : Site}
  (hnames : ∀ name, Sorted.contains snippets' name ↔
    b.snippet? = some name ∨ Sorted.contains snippets name)

open Review

/-- What is found on the text of a word is an error, and a missing snippet is none. -/
theorem Review.ofWord_ne_undefinedSnippet {t : Token} {f : Finding} (hf : ofWord t = some f)
    (name : String) : f.cause ≠ .undefinedSnippet name := by
  intro hcause
  have herror := severity_of_ofWord hf
  rw [Finding.severity, hcause] at herror
  cases herror

theorem Review.ofWord_unresolved (b : Site) (ts : List Token) :
    (ts.filterMap ofWord).filter (!b.resolves ·.cause) = ts.filterMap ofWord := by
  rw [List.filter_eq_self]
  intro f hf
  obtain ⟨t, _, hf⟩ := List.mem_filterMap.mp hf
  have hunresolved : b.resolves f.cause = false :=
    b.resolves_eq_false (ofWord_ne_undefinedSnippet hf)
  simp [hunresolved]

include hnames

theorem Review.ofImport_resolved (d : Directive) :
    ofImport snippets' d = (ofImport snippets d).filter (!b.resolves ·.cause) := by
  unfold ofImport
  cases d.args with
  | nil => rfl
  | cons arg args =>
    simp only
    by_cases hother : isFile arg.value.toList || isPlaceholder arg.value.toList
    · simp [hother]
    have hname := hnames arg.value
    rw [if_neg hother, if_neg hother]
    by_cases hc : Sorted.contains snippets arg.value
    · rw [if_pos (hname.mpr (.inr hc)), if_pos hc]
      rfl
    rw [if_neg hc]
    by_cases hb : b.snippet? = some arg.value
    · rw [if_pos (hname.mpr (.inl hb))]
      simp [Site.resolves_undefinedSnippet, hb]
    · rw [if_neg (by simp [hname, hb, hc])]
      simp [Site.resolves_undefinedSnippet, hb]

theorem Review.ofGlobal_resolved (d : Directive) :
    ofGlobal snippets' d = (ofGlobal snippets d).filter (!b.resolves ·.cause) := by
  simp only [ofGlobal]
  split
  · rfl
  split
  · simp [b.resolves_eq_false]
  split
  · exact ofImport_resolved hnames d
  · rfl

theorem Site.review_resolved (s : Site) :
    s.review snippets' = (s.review snippets).filter (!b.resolves ·.cause) := by
  have hcause : ∀ (scope : Scope) (name : String), scope.cause? s.isSnippet name =
      (scope.cause? s.isSnippet name).filter (!b.resolves ·) := by
    intro scope name
    cases hcause : scope.cause? s.isSnippet name with
    | none => rfl
    | some cause =>
      have hunresolved : b.resolves cause = false := by
        apply b.resolves_eq_false
        rintro target rfl
        exact Scope.cause?_ne_undefinedSnippet _ scope name target hcause
      simp [Option.filter_some, hunresolved]
  unfold review ofSite
  rw [List.filter_append, ofWord_unresolved,
    Scope.ofDirectives_filter hcause (ofImport_resolved hnames)]

theorem Globals.review_resolved (g : Globals) :
    g.review snippets' = (g.review snippets).filter (!b.resolves ·.cause) := by
  unfold review
  rw [List.filter_append, ofWord_unresolved, List.filter_flatMap]
  congr 2
  funext d
  exact ofGlobal_resolved hnames d

theorem Document.blockwise_resolved (globals : Option Globals) (sites : List Site) :
    blockwise snippets' globals sites =
      (blockwise snippets globals sites).filter (!b.resolves ·.cause) := by
  unfold blockwise
  rw [List.filter_append, List.filter_flatMap]
  congr 1
  · cases globals with
    | none => rfl
    | some g => exact g.review_resolved hnames
  · apply List.flatMap_congr
    intro s _
    exact Site.review_resolved hnames s

end

/-! ## The whole document -/

namespace Document

theorem review_perm (doc : Document) :
    doc.review.Perm (blockwise doc.snippetNames.toArray doc.globals doc.sites) := by
  unfold review warnings Review.placeholderWords blockwise
  rw [List.filterMap_append, List.filterMap_flatMap]
  refine List.Perm.trans ?_ ((List.flatMap_append_perm doc.sites ..).append_left _)
  cases doc.globals with
  | none => exact .refl _
  | some g =>
    simp only [Option.elim_some, Globals.review, List.append_assoc]
    exact (List.perm_append_comm_assoc ..).append_left _

theorem blockwise_perm (snippets : Array String) (globals : Option Globals)
    {sites sites' : List Site} (h : sites.Perm sites') :
    (blockwise snippets globals sites).Perm (blockwise snippets globals sites') :=
  (h.flatMap_right _).append_left _

theorem contains_insert_site (doc : Document) (b : Site) {i : Nat} (hi : i ≤ doc.sites.length)
    (name : String) :
    Sorted.contains (Document.mk doc.globals (doc.sites.insertIdx i b)).snippetNames.toArray name ↔
      b.snippet? = some name ∨ Sorted.contains doc.snippetNames.toArray name := by
  rw [contains_snippetNames, contains_snippetNames]
  simp [List.mem_insertIdx hi]

theorem snippetNames_perm (doc : Document) {sites : List Site} (h : sites.Perm doc.sites) :
    (Document.mk doc.globals sites).snippetNames = doc.snippetNames := by
  apply (pairwise_snippetNames _).eq_of_mem_iff (pairwise_snippetNames doc)
  intro name
  simp only [mem_snippetNames, h.mem_iff]

/-- A site that is put anywhere among the others adds its own findings and takes away those on the
snippet that it declares. In whatever order the sites stand, the findings are the same. -/
theorem review_insert_site (doc : Document) (b : Site) (i : Fin (doc.sites.length + 1)) :
    let more : Document := ⟨doc.globals, doc.sites.insertIdx i b⟩
    more.review.Perm
        (doc.review.filter (!b.resolves ·.cause) ++ b.review more.snippetNames.toArray) ∧
      ∀ sites : List Site, sites.Perm doc.sites →
        (Document.mk doc.globals sites).review.Perm doc.review := by
  intro more
  have hi : i ≤ doc.sites.length := Nat.le_of_lt_succ i.isLt
  constructor
  · let names := more.snippetNames.toArray
    have hmiddle : (blockwise names doc.globals (b :: doc.sites)).Perm
        (blockwise names doc.globals doc.sites ++ b.review names) := by
      unfold blockwise
      rw [List.flatMap_cons, List.append_assoc]
      exact List.perm_append_comm.append_left _
    calc more.review
      List.Perm _ (blockwise names doc.globals more.sites) := more.review_perm
      List.Perm _ (blockwise names doc.globals (b :: doc.sites)) :=
        blockwise_perm names doc.globals (List.perm_insertIdx b doc.sites hi)
      List.Perm _ (blockwise names doc.globals doc.sites ++ b.review names) := hmiddle
      List.Perm _ (doc.review.filter (!b.resolves ·.cause) ++ b.review names) := by
        rw [blockwise_resolved (doc.contains_insert_site b hi)]
        exact (doc.review_perm.symm.filter _).append_right _
  · intro sites hsites
    calc (Document.mk doc.globals sites).review
      List.Perm _ (blockwise doc.snippetNames.toArray doc.globals sites) := by
        rw [← doc.snippetNames_perm hsites]
        exact review_perm _
      List.Perm _ (blockwise doc.snippetNames.toArray doc.globals doc.sites) :=
        blockwise_perm _ _ hsites
      List.Perm _ doc.review := doc.review_perm.symm

theorem review_insert_snippet :
    let doc := (read "a \x7b\nimport x\nfoo\n\x7d\n").document
    let b : Site := ⟨⟨.bare, "(x)", ⟨4, 0⟩⟩, [], [], 5⟩
    let foo : Finding := ⟨.unknownDirective "foo", ⟨2, 0⟩, ⟨2, 3⟩⟩
    doc.review = [⟨.undefinedSnippet "x", ⟨1, 7⟩, ⟨1, 8⟩⟩, foo] ∧
      (Document.mk doc.globals (doc.sites ++ [b])).review.Perm [foo] ∧
      (Document.mk doc.globals (b :: doc.sites)).review.Perm [foo] := by
  intro doc b foo
  have hown : b.review (Document.mk doc.globals (doc.sites ++ [b])).snippetNames.toArray = [] := by
    decide +kernel
  have hkept : doc.review.filter (!b.resolves ·.cause) = [foo] := by decide +kernel
  have hbelow : (Document.mk doc.globals (doc.sites ++ [b])).review.Perm [foo] := by
    have h := (review_insert_site doc b ⟨1, by decide +kernel⟩).1
    rwa [show doc.sites.insertIdx 1 b = doc.sites ++ [b] by decide +kernel, hkept, hown] at h
  have habove := (review_insert_site ⟨doc.globals, doc.sites ++ [b]⟩ b 0).2 (b :: doc.sites)
    (List.perm_append_singleton b doc.sites).symm
  exact ⟨by decide +kernel, hbelow, habove.trans hbelow⟩

end Document

end Caddyfile
