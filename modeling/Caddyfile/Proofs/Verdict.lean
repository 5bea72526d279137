import Mathlib.Data.List.Perm.Basic
import Caddyfile.CommandLine
import Caddyfile.Editor.Notice
import Caddyfile.Proofs.Grammar
import Caddyfile.Proofs.Scopes

/-!
# What decides a check

The words of a document are the names of its directives and the words that may hold placeholders, in
some order (`words_perm`). Of these only the latter can be in error, so the verdict on a text can be
read off its tokens and their derivation (`verdict_by_tokens`).
-/

namespace Caddyfile

/-! ## Names and other words -/

namespace Directive

mutual

/-- The name of a directive, then those in its block. -/
def names : Directive → List Token
  | ⟨name, _, _, body, _⟩ => name :: namesOf body

def namesOf : List Directive → List Token
  | [] => []
  | d :: ds => names d ++ namesOf ds

end

open Review

mutual

theorem words_perm : ∀ d : Directive, d.words.Perm (d.names ++ arguments d)
  | ⟨name, args, opener, body, lastLine⟩ => by
    rw [words, names, arguments, List.cons_append]
    apply List.Perm.cons
    calc List.Perm (args ++ wordsOf body) (args ++ (namesOf body ++ argumentsOf body)) :=
          (wordsOf_perm body).append_left args
      List.Perm _ (namesOf body ++ (args ++ argumentsOf body)) := List.perm_append_comm_assoc ..

theorem wordsOf_perm : ∀ ds : List Directive, (wordsOf ds).Perm (namesOf ds ++ argumentsOf ds)
  | [] => .nil
  | d :: ds => by
    rw [wordsOf, namesOf, argumentsOf]
    calc List.Perm (d.words ++ wordsOf ds)
          ((d.names ++ arguments d) ++ (namesOf ds ++ argumentsOf ds)) :=
          (words_perm d).append (wordsOf_perm ds)
      List.Perm _ ((d.names ++ namesOf ds) ++ (arguments d ++ argumentsOf ds)) := by
          simp only [List.append_assoc]
          exact (List.perm_append_comm_assoc ..).append_left _

end

end Directive

namespace Document

open Directive Review

/-- The names of all directives, those of the global options first. -/
def names (d : Document) : List Token :=
  d.globals.elim [] (fun g => namesOf g.directives) ++ d.sites.flatMap fun s => namesOf s.directives

theorem words_perm (d : Document) : d.words.Perm (d.names ++ placeholderWords d) := by
  obtain ⟨globals, sites⟩ := d
  have hglobals : (globals.elim [] fun g => wordsOf g.directives).Perm
      ((globals.elim [] fun g => namesOf g.directives) ++
        globals.elim [] fun g => argumentsOf g.directives) := by
    cases globals with
    | none => exact .nil
    | some g => exact wordsOf_perm g.directives
  have hsites : (sites.flatMap Site.words).Perm
      ((sites.flatMap fun s => namesOf s.directives) ++
        sites.flatMap fun s => s.addresses ++ argumentsOf s.directives) := by
    refine List.Perm.trans ?_ (List.flatMap_append_perm ..).symm
    apply List.Perm.flatMap_left
    intro s _
    calc List.Perm (s.addresses ++ wordsOf s.directives)
          (s.addresses ++ (namesOf s.directives ++ argumentsOf s.directives)) :=
          (wordsOf_perm s.directives).append_left _
      List.Perm _ (namesOf s.directives ++ (s.addresses ++ argumentsOf s.directives)) :=
          List.perm_append_comm_assoc ..
  rw [words, names, placeholderWords]
  refine (hglobals.append hsites).trans ?_
  simp only [List.append_assoc]
  exact (List.perm_append_comm_assoc ..).append_left _

theorem mem_placeholderWords {d : Document} (h : d.words.Nodup) {t : Token} :
    t ∈ placeholderWords d ↔ t ∈ d.words ∧ t ∉ d.names := by
  have hperm := d.words_perm
  have hdisj : ∀ t ∈ d.names, t ∉ placeholderWords d :=
    fun t hn hp => (List.nodup_append.mp (hperm.nodup_iff.mp h)).2.2 t hn t hp rfl
  rw [hperm.mem_iff, List.mem_append]
  constructor
  · intro ht
    exact ⟨.inr ht, fun hn => hdisj t hn ht⟩
  · rintro ⟨hn | hp, hnot⟩
    · exact absurd hn hnot
    · exact hp

end Document

/-! ## Errors of a review -/

namespace Review

variable {snippets : Array String} {f : Finding}

theorem severity_of_mem_findings {inSnippet : Bool} {scope : Scope} {d : Directive}
    (hf : f ∈ scope.findings snippets inSnippet d) : f.severity = .warning := by
  rw [Scope.findings_eq] at hf
  rcases List.mem_append.mp hf with hf | hf
  · exact severity_of_mem_own hf
  · cases hscope : scope.enter d with
    | none => simp [hscope] at hf
    | some inner =>
      rw [hscope] at hf
      obtain ⟨e, he, hf⟩ := List.mem_flatMap.mp hf
      exact severity_of_mem_findings hf
termination_by sizeOf d
decreasing_by exact Directive.sizeOf_lt_of_mem_body he

theorem severity_of_mem_ofGlobal {d : Directive} (hf : f ∈ ofGlobal snippets d) :
    f.severity = .warning := by
  simp only [ofGlobal] at hf
  split at hf
  · cases hf
  split at hf
  · rw [List.mem_singleton.mp hf]
    rfl
  split at hf
  · obtain ⟨arg, _, rfl⟩ := eq_of_mem_ofImport hf
    rfl
  · cases hf

theorem ofWord_eq_none_iff {t : Token} :
    ofWord t = none ↔ Placeholder.balance t.text = .balanced := by
  unfold ofWord
  cases Placeholder.balance t.text <;> simp [Placeholder.Balance.cause?]

end Review

namespace Document

open Review

theorem severity_of_mem_warnings {d : Document} {f : Finding} (hf : f ∈ d.warnings) :
    f.severity = .warning := by
  rcases List.mem_append.mp hf with hf | hf
  · cases hg : d.globals with
    | none => simp [hg] at hf
    | some g =>
      rw [hg] at hf
      obtain ⟨e, _, hf⟩ := List.mem_flatMap.mp hf
      exact severity_of_mem_ofGlobal hf
  · obtain ⟨s, _, hf⟩ := List.mem_flatMap.mp hf
    rw [ofSite, Scope.ofDirectives_eq_flatMap] at hf
    obtain ⟨e, _, hf⟩ := List.mem_flatMap.mp hf
    have hsite : f ∈ Scope.site.findings d.snippetNames.toArray s.isSnippet e := hf
    exact severity_of_mem_findings hsite

theorem exists_error_iff (d : Document) : (∃ f ∈ d.review, f.severity = .error) ↔
    ∃ t ∈ placeholderWords d, Placeholder.balance t.text ≠ .balanced := by
  constructor
  · rintro ⟨f, hf, herror⟩
    rcases List.mem_append.mp hf with hf | hf
    · rw [severity_of_mem_warnings hf] at herror
      cases herror
    · obtain ⟨t, ht, hf⟩ := List.mem_filterMap.mp hf
      refine ⟨t, ht, fun hbalanced => ?_⟩
      rw [ofWord_eq_none_iff.mpr hbalanced] at hf
      cases hf
  · rintro ⟨t, ht, hbalance⟩
    obtain ⟨f, hf⟩ := Option.ne_none_iff_exists'.mp (mt ofWord_eq_none_iff.mp hbalance)
    refine ⟨f, List.mem_append_right _ ?_, severity_of_ofWord hf⟩
    exact List.mem_filterMap.mpr ⟨t, ht, hf⟩

end Document

/-! ## The words of a derivation -/

namespace Grammar

open Directive

theorem filter_words {ts us : List Token} (h : ∀ t ∈ ts, t.isWord) :
    (ts ++ us).filter Token.isWord = ts ++ us.filter Token.isWord := by
  rw [List.filter_append, List.filter_eq_self.mpr h]

theorem filter_brace {t : Token} {ts : List Token} (h : t.kind = .opening ∨ t.kind = .closing) :
    (t :: ts).filter Token.isWord = ts.filter Token.isWord := by
  apply List.filter_cons_of_neg
  rcases h with h | h <;> simp [Token.isWord, h, Token.Kind.isWord]

theorem Directives.WF.filter_tokens {d : Directives} (h : d.WF) :
    d.tokens.filter Token.isWord = wordsOf d.directives := by
  induction d with
  | nil => rfl
  | plain name args rest ih =>
    obtain ⟨hname, hargs, _, hrest⟩ := h
    rw [tokens, List.filter_cons_of_pos hname, filter_words fun a ha => (hargs a ha).1, ih hrest]
    simp [directives, wordsOf, words_eq]
  | block name args opener inside closer rest ihi ihr =>
    obtain ⟨hname, hargs, hopener, hinside, hcloser, hrest⟩ := h
    rw [tokens, List.filter_cons_of_pos hname, filter_words fun a ha => (hargs a ha).1,
      filter_brace (.inl hopener), List.filter_append, ihi hinside, filter_brace (.inr hcloser),
      ihr hrest]
    simp [directives, wordsOf, words_eq]

theorem Block.WF.filter_tokens {b : Block} (h : b.WF) :
    b.tokens.filter Token.isWord = wordsOf b.inside.directives := by
  rw [Block.tokens, filter_brace (.inl h.opener), List.filter_append, h.inside.filter_tokens,
    filter_brace (.inr h.closer), List.filter_nil, List.append_nil]

theorem Site.WF.filter_tokens {s : Site} (h : s.WF) : s.tokens.filter Token.isWord =
    s.first :: (s.others ++ wordsOf s.block.inside.directives) := by
  rw [Site.tokens, List.filter_cons_of_pos h.first, filter_words h.others.words,
    h.block.filter_tokens]

theorem filter_sites {ss : List Site} (h : ∀ s ∈ ss, s.WF) :
    (ss.flatMap Site.tokens).filter Token.isWord =
      ss.flatMap fun s => s.first :: (s.others ++ wordsOf s.block.inside.directives) := by
  induction ss with
  | nil => rfl
  | cons s ss ih =>
    rw [List.flatMap_cons, List.filter_append, (h s (by simp)).filter_tokens,
      ih fun t ht => h t (List.mem_cons_of_mem s ht), List.flatMap_cons]

theorem File.WF.filter_tokens {f : File} (h : f.WF) :
    f.tokens.filter Token.isWord = f.document.words := by
  obtain ⟨globals, sites⟩ := f
  have hsites := filter_sites h.sites
  rw [File.tokens, List.filter_append, hsites, Document.words]
  cases globals with
  | none => simp [document, List.flatMap_map, Caddyfile.Site.words, Caddyfile.Site.addresses]
  | some b =>
    simp [document, List.flatMap_map, Caddyfile.Site.words, Caddyfile.Site.addresses,
      (h.globals b rfl).filter_tokens]

section
variable {source : String} {f : File} (hf : f.WF) (htok : f.tokens = (tokens source).dropLast)
include hf htok

theorem mem_words {t : Token} : t ∈ f.document.words ↔ t ∈ tokens source ∧ t.isWord := by
  obtain ⟨ws, e, hts, he, _, _⟩ := tokens_finish_last source
  rw [hts, List.dropLast_concat] at htok
  rw [← hf.filter_tokens, List.mem_filter, htok, hts, List.mem_append, List.mem_singleton]
  constructor
  · rintro ⟨ht, hword⟩
    exact ⟨.inl ht, hword⟩
  · rintro ⟨ht | rfl, hword⟩
    · exact ⟨ht, hword⟩
    · simp [Token.isWord, he, Token.Kind.isWord] at hword

theorem mem_placeholderWords {t : Token} : t ∈ Review.placeholderWords f.document ↔
    t ∈ tokens source ∧ t.isWord ∧ t ∉ f.document.names := by
  have hnodup : f.document.words.Nodup := by
    have hpair := Document.words_read_pairwise source
    rw [read_of_tokens hf htok] at hpair
    refine hpair.imp ?_
    rintro t u hlt rfl
    exact Position.lt_irrefl _ hlt
  rw [Document.mem_placeholderWords hnodup, mem_words hf htok, and_assoc]

end

end Grammar

/-! ## The verdict -/

namespace CommandLine

open Editor

theorem verdict_eq_one_iff (source : String) :
    verdict source = 1 ↔ (Document.read source).faults ≠ [] := by
  unfold verdict
  by_cases hfaults : (Document.read source).faults = []
  · simp only [hfaults, List.isEmpty_nil, Bool.not_true, Bool.false_eq_true, if_false, ne_eq,
      not_true_eq_false, iff_false]
    split <;> simp
  · simp [hfaults]

theorem verdict_eq_zero_iff (source : String) : verdict source = 0 ↔
    (Document.read source).faults = [] ∧
      ¬ ∃ f ∈ (Document.read source).document.review, f.severity = .error := by
  unfold verdict
  by_cases hfaults : (Document.read source).faults = []
  · simp [hfaults]
  · simp [hfaults]

theorem verdict_le_two (source : String) : verdict source ≤ 2 := by
  simp only [verdict]
  split
  · simp
  · split <;> simp

theorem passes_iff_no_error (source : String) :
    verdict source = 0 ↔ ∀ n ∈ notices source, n.severity ≠ .error := by
  rw [verdict_eq_zero_iff]
  constructor
  · rintro ⟨hfaults, hreview⟩ n hn herror
    rcases List.mem_append.mp hn with hn | hn
    · simp [hfaults] at hn
    · obtain ⟨f, hf, rfl⟩ := List.mem_map.mp hn
      exact hreview ⟨f, hf, herror⟩
  · intro h
    constructor
    · rw [List.eq_nil_iff_forall_not_mem]
      intro f hf
      exact h (Notice.ofFault f) (List.mem_append_left _ (List.mem_map_of_mem hf)) rfl
    · rintro ⟨f, hf, herror⟩
      exact h (Notice.ofFinding f) (List.mem_append_right _ (List.mem_map_of_mem hf)) herror

theorem reports_match_notices (filename source : String) :
    (notices source).map (fun n => (n.message, n.severity)) =
      (reports filename source).map fun r => (r.message, r.severity) := by
  unfold notices reports
  simp only [List.map_append, List.map_map]
  rfl

theorem derives_iff_ne_one (source : String) :
    verdict source ≠ 1 ↔ ∃ f : Grammar.File, f.WF ∧ f.tokens = (tokens source).dropLast := by
  rw [ne_eq, verdict_eq_one_iff, not_not]
  constructor
  · exact Grammar.exists_of_faultless
  · rintro ⟨f, hf, htok⟩
    rw [Grammar.read_of_tokens hf htok]

/-- With a derivation, only the words that do not name a directive are left to be judged. -/
theorem verdict_of_derivation {source : String} {f : Grammar.File} (hf : f.WF)
    (htok : f.tokens = (tokens source).dropLast) : verdict source = 0 ↔
      ∀ t ∈ tokens source, t.isWord → t ∉ f.document.names →
        Placeholder.balance t.text = .balanced := by
  rw [verdict_eq_zero_iff, Grammar.read_of_tokens hf htok, Document.exists_error_iff]
  constructor
  · rintro ⟨_, hnone⟩ t ht hword hname
    by_contra hbalance
    exact hnone ⟨t, (Grammar.mem_placeholderWords hf htok).mpr ⟨ht, hword, hname⟩, hbalance⟩
  · intro h
    refine ⟨rfl, ?_⟩
    rintro ⟨t, ht, hbalance⟩
    obtain ⟨hmem, hword, hname⟩ := (Grammar.mem_placeholderWords hf htok).mp ht
    exact hbalance (h t hmem hword hname)

end CommandLine

open CommandLine Editor

/-- A text that has no derivation is rejected for its faults. A text that has one is rejected for its
placeholders if some word that does not name a directive has braces that do not pair up. It passes
exactly if an editor is shown no error, and a check reports what an editor is shown, in the same
order. -/
theorem verdict_by_tokens (filename source : String) :
    ((check filename source).code = 1 ↔ (Document.read source).faults ≠ []) ∧
    ((check filename source).code = 1 ↔
      ¬ ∃ f : Grammar.File, f.WF ∧ f.tokens = (tokens source).dropLast) ∧
    ((check filename source).code = 2 ↔
      ∃ f : Grammar.File, f.WF ∧ f.tokens = (tokens source).dropLast ∧
        ∃ t ∈ tokens source, t.isWord ∧ t ∉ f.document.names ∧
          Placeholder.balance t.text ≠ .balanced) ∧
    ((check filename source).code = 0 ↔
      ∃ f : Grammar.File, f.WF ∧ f.tokens = (tokens source).dropLast ∧
        ∀ t ∈ tokens source, t.isWord → t ∉ f.document.names →
          Placeholder.balance t.text = .balanced) ∧
    ((check filename source).code = 0 ↔ ∀ n ∈ notices source, n.severity ≠ .error) ∧
    (notices source).map (fun n => (n.message, n.severity)) =
      (check filename source).reports.map fun r => (r.message, r.severity) := by
  have hle := verdict_le_two source
  have hderives := derives_iff_ne_one source
  refine ⟨verdict_eq_one_iff source, ?_, ?_, ?_, passes_iff_no_error source,
    reports_match_notices filename source⟩
  · rw [← hderives, not_not]
    rfl
  · constructor
    · intro (htwo : verdict source = 2)
      obtain ⟨f, hf, htok⟩ := hderives.mp (by omega)
      have hzero := mt (verdict_of_derivation hf htok).mpr (by omega)
      push Not at hzero
      exact ⟨f, hf, htok, hzero⟩
    · rintro ⟨f, hf, htok, t, ht, hword, hname, hbalance⟩
      have hone := hderives.mpr ⟨f, hf, htok⟩
      have hzero : verdict source ≠ 0 :=
        fun h => hbalance ((verdict_of_derivation hf htok).mp h t ht hword hname)
      change verdict source = 2
      omega
  · constructor
    · intro (hzero : verdict source = 0)
      obtain ⟨f, hf, htok⟩ := hderives.mp (by omega)
      exact ⟨f, hf, htok, (verdict_of_derivation hf htok).mp hzero⟩
    · rintro ⟨f, hf, htok, h⟩
      exact (verdict_of_derivation hf htok).mpr h

end Caddyfile
