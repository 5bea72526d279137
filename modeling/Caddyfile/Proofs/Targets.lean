import Mathlib.Data.List.TakeWhile
import Caddyfile.Editor.Completion
import Caddyfile.Proofs.Extents
import Caddyfile.Proofs.Omissions

/-!
# Snippets after `import`

Names of snippets are asked for where the text in front of the cursor is an `import` and the start of
its first argument (`contextAt_eq_snippet_iff`). Those offered are the snippets that the document
declares, and a review accepts just these as targets: wherever it misses a snippet, it does so on a
word that no site declares (`undeclared_of_missing`).
-/

namespace Caddyfile

namespace Cursor

/-- In front of the cursor there are an `import` and blanks, and then `typed` without any. -/
def Importing (before typed : List Char) : Prop :=
  ∃ indent gap : List Char, before = indent ++ ("import".toList ++ (gap ++ typed)) ∧
    (∀ c ∈ indent, c = ' ' ∨ c = '\t') ∧ gap ≠ [] ∧ (∀ c ∈ gap, c = ' ' ∨ c = '\t') ∧
    ∀ c ∈ typed, c ≠ ' ' ∧ c ≠ '\t'

theorem isBlank_iff (c : Char) : isBlank c ↔ c = ' ' ∨ c = '\t' := by
  simp [isBlank]

/-! ## The text in front of the cursor -/

theorem importTarget?_eq_some_iff (before target : List Char) :
    importTarget? before = some target ↔ ∃ gap, before = "import".toList ++ (gap ++ target) ∧
      gap ≠ [] ∧ (∀ c ∈ gap, isBlank c) ∧ ∀ c ∈ target, ¬ isBlank c := by
  unfold importTarget?
  constructor
  · intro h
    simp only at h
    split at h
    · cases h
    rename_i hkeyword
    rw [Bool.not_eq_true', Bool.not_eq_false, List.isPrefixOf_iff_prefix] at hkeyword
    obtain ⟨rest, rfl⟩ := hkeyword
    rw [List.drop_left] at h
    split at h
    · rename_i hrest
      obtain rfl := Option.some.inj h
      have hsplit := List.takeWhile_append_dropWhile (p := isBlank) (l := rest)
      simp only [Bool.and_eq_true, decide_eq_true_eq, Bool.not_eq_true', List.any_eq_false] at hrest
      refine ⟨rest.takeWhile isBlank, by rw [hsplit], ?_, ?_, hrest.2⟩
      · intro hnil
        rw [hnil, List.nil_append] at hsplit
        rw [hsplit] at hrest
        exact Nat.lt_irrefl _ hrest.1
      · exact List.all_eq_true.mp List.all_takeWhile
    · cases h
  · rintro ⟨gap, rfl, hne, hgap, htarget⟩
    have hdrop : (gap ++ target).dropWhile isBlank = target := by
      rw [List.dropWhile_append_of_pos hgap, List.dropWhile_eq_self_iff]
      exact fun hpos => htarget _ (List.getElem_mem hpos)
    have hkeyword : "import".toList.isPrefixOf ("import".toList ++ (gap ++ target)) := by
      simp
    have hlength : 0 < gap.length := List.length_pos_iff.mpr hne
    have hblank : target.any isBlank = false := by simpa using htarget
    simp only [hkeyword, List.drop_left, hdrop, hblank]
    simp [hlength]

theorem importing_iff (before typed : List Char) : Importing before typed ↔
    importTarget? (before.dropWhile isBlank) = some typed := by
  simp only [importTarget?_eq_some_iff, isBlank_iff, not_or]
  constructor
  · rintro ⟨indent, gap, rfl, hindent, hgap⟩
    have hblank : ∀ c ∈ indent, isBlank c := fun c hc => (isBlank_iff c).mpr (hindent c hc)
    refine ⟨gap, ?_, hgap⟩
    rw [List.dropWhile_append_of_pos hblank]
    rfl
  · rintro ⟨gap, hrest, hgap⟩
    refine ⟨before.takeWhile isBlank, gap, ?_, ?_, hgap⟩
    · rw [← hrest, List.takeWhile_append_dropWhile]
    · intro c hc
      exact (isBlank_iff c).mp (List.all_eq_true.mp List.all_takeWhile c hc)

theorem any_isBlank_of_importTarget? {before target : List Char}
    (h : importTarget? before = some target) : before.any isBlank := by
  obtain ⟨gap, rfl, hne, hgap, _⟩ := (importTarget?_eq_some_iff ..).mp h
  obtain ⟨c, cs, rfl⟩ := List.exists_cons_of_ne_nil hne
  simp [hgap c (by simp)]

/-! ## Names and snippets are never asked for at once -/

theorem contextOf_ne_snippet (as : List Directive) (typed : String) :
    contextOf as ≠ .snippet typed := by
  induction as with
  | nil => simp [contextOf]
  | cons a as ih =>
    unfold contextOf
    by_cases hc : Vocabulary.isContainer a.title
    · rwa [if_pos hc]
    rw [if_neg hc]
    cases Vocabulary.bodyOf a.title with
    | unmodeled | freeform => simp
    | names allowed =>
      cases as with
      | nil => simp
      | cons b bs =>
        simp only [List.head?_cons, Option.elim_some]
        unfold inSubdirective
        cases b.firstArg? with
        | none => simp
        | some arg =>
          simp only
          cases Vocabulary.nestedNames? b.title arg <;> simp

theorem onLine_ne_snippet (source : String) (line : Nat) (typed : String) :
    onLine (Document.read source).document line ≠ .snippet typed := by
  obtain ⟨last, hstacked⟩ := Document.stacked_read source
  by_cases h : ∃ s ∈ (Document.read source).document.sites, s.encloses line
  · obtain ⟨s, hs, hline⟩ := h
    rw [onLine_around hstacked hs hline]
    exact contextOf_ne_snippet _ typed
  · rw [onLine_eq_nothing fun s hs hline => h ⟨s, hs, hline⟩]
    simp

theorem contextAt_eq_snippet_iff {source : String} {line : List Char} {p : Position}
    (hline : (Text.lines source.toList)[p.line]? = some line) (typed : String) :
    (Document.read source).document.contextAt source p = .snippet typed ↔
      Importing ((Text.dropEnd '\r' line).take p.column) typed.toList := by
  rw [importing_iff, ← typedText]
  unfold Document.contextAt
  simp only [hline]
  by_cases hblank : (typedText line p.column).any isBlank
  · rw [if_neg (by simp [hblank])]
    cases importTarget? (typedText line p.column) with
    | none => simp
    | some target =>
      simp only [Context.snippet.injEq, Option.some.injEq]
      constructor
      · rintro rfl
        exact String.toList_ofList.symm
      · rintro rfl
        exact String.ofList_toList
  · rw [if_pos (by simpa using hblank)]
    constructor
    · intro h
      exact absurd h (onLine_ne_snippet source p.line typed)
    · intro h
      exact absurd (any_isBlank_of_importTarget? h) hblank

end Cursor

/-! ## Missing snippets -/

namespace Review

open Directive

variable {snippets : Array String} {inSnippet : Bool} {f : Finding}

theorem undeclared_of_mem_ofImport {d : Directive} {name : String} (hf : f ∈ ofImport snippets d)
    (hcause : f.cause = .undefinedSnippet name) :
    ∃ t ∈ d.args, t.value = name ∧ f.span = t.span ∧ ¬ Sorted.contains snippets name := by
  unfold ofImport at hf
  cases hargs : d.args with
  | nil => simp [hargs] at hf
  | cons arg args =>
    simp only [hargs] at hf
    split at hf
    · cases hf
    split at hf
    · cases hf
    · rename_i hc
      obtain rfl := List.mem_singleton.mp hf
      obtain rfl : arg.value = name := by simpa using hcause
      exact ⟨arg, by simp, rfl, rfl, hc⟩

/-- Every finding is one that some scope makes on the words of one directive. -/
theorem exists_own_of_mem_findings {scope : Scope} {d : Directive}
    (hf : f ∈ scope.findings snippets inSnippet d) :
    ∃ (inner : Scope) (e : Directive), f ∈ inner.own snippets inSnippet e ∧
      (e.name :: e.args).Sublist d.words := by
  rw [Scope.findings_eq] at hf
  rcases List.mem_append.mp hf with hf | hf
  · exact ⟨scope, d, hf, own_sublist d⟩
  cases henter : scope.enter d with
  | none => simp [henter] at hf
  | some inner =>
    rw [henter] at hf
    obtain ⟨c, hc, hf⟩ := List.mem_flatMap.mp hf
    obtain ⟨last, e, hf, hwords⟩ := exists_own_of_mem_findings hf
    have hbody : (wordsOf d.body).Sublist d.words := by
      rw [words_eq]
      exact ((List.sublist_append_right _ _).cons _)
    exact ⟨last, e, hf, hwords.trans ((words_sublist hc).trans hbody)⟩
termination_by sizeOf d
decreasing_by exact sizeOf_lt_of_mem_body hc

theorem undeclared_of_mem_own {scope : Scope} {d : Directive} {name : String}
    (hf : f ∈ scope.own snippets inSnippet d) (hcause : f.cause = .undefinedSnippet name) :
    ∃ t ∈ d.args, t.value = name ∧ f.span = t.span ∧ ¬ Sorted.contains snippets name := by
  rcases List.mem_append.mp hf with hf | hf
  · obtain ⟨cause, hcause', rfl⟩ := List.mem_map.mp hf
    rw [Option.mem_toList, show cause = _ from hcause] at hcause'
    exact absurd hcause' (Scope.cause?_ne_undefinedSnippet inSnippet scope d.title name)
  · split at hf
    · exact undeclared_of_mem_ofImport hf hcause
    · cases hf

theorem undeclared_of_mem_ofGlobal {d : Directive} {name : String} (hf : f ∈ ofGlobal snippets d)
    (hcause : f.cause = .undefinedSnippet name) :
    ∃ t ∈ d.args, t.value = name ∧ f.span = t.span ∧ ¬ Sorted.contains snippets name := by
  simp only [ofGlobal] at hf
  split at hf
  · cases hf
  split at hf
  · obtain rfl := List.mem_singleton.mp hf
    cases hcause
  split at hf
  · exact undeclared_of_mem_ofImport hf hcause
  · cases hf

end Review

namespace Document

open Directive Review

variable {doc : Document} {f : Finding} {name : String}

theorem Has.mem_words {d : Directive} (hd : doc.Has d) {t : Token} (ht : t ∈ d.args) :
    t ∈ doc.words := by
  rcases hd with ⟨g, hg, as, hd⟩ | ⟨s, hs, as, hd⟩
  · refine List.mem_append_left _ ?_
    rw [Option.mem_def.mp hg]
    exact (own_sublist_within hd).subset (List.mem_cons_of_mem _ ht)
  · refine (site_sublist hs).subset (List.mem_append_right _ ?_)
    exact (own_sublist_within hd).subset (List.mem_cons_of_mem _ ht)

/-- A missing snippet is reported on a word that has its name, and no site declares it. -/
theorem undeclared_of_missing (hf : f ∈ doc.review) (hcause : f.cause = .undefinedSnippet name) :
    ∃ t ∈ doc.words, t.value = name ∧ f.span = t.span ∧ name ∉ doc.snippetNames := by
  suffices hword : ∃ t ∈ doc.words, t.value = name ∧ f.span = t.span ∧
      ¬ Sorted.contains doc.snippetNames.toArray name by
    rwa [contains_snippetNames, ← mem_snippetNames] at hword
  rcases List.mem_append.mp hf with hf | hf
  · rcases List.mem_append.mp hf with hf | hf
    · cases hg : doc.globals with
      | none => simp [hg] at hf
      | some g =>
        rw [hg] at hf
        obtain ⟨d, hd, hf⟩ := List.mem_flatMap.mp hf
        obtain ⟨t, ht, hfound⟩ := undeclared_of_mem_ofGlobal hf hcause
        have hhas : doc.Has d := .inl ⟨g, hg, [], .here hd⟩
        exact ⟨t, hhas.mem_words ht, hfound⟩
    · obtain ⟨s, hs, hf⟩ := List.mem_flatMap.mp hf
      rw [ofSite, Scope.ofDirectives_eq_flatMap] at hf
      obtain ⟨d, hd, hf⟩ := List.mem_flatMap.mp hf
      replace hf : f ∈ Scope.site.findings doc.snippetNames.toArray s.isSnippet d := hf
      obtain ⟨scope, e, hf, hwords⟩ := exists_own_of_mem_findings hf
      obtain ⟨t, ht, hfound⟩ := undeclared_of_mem_own hf hcause
      have hsite : t ∈ s.words := List.mem_append_right _
        ((words_sublist hd).subset (hwords.subset (List.mem_cons_of_mem _ ht)))
      exact ⟨t, (site_sublist hs).subset hsite, hfound⟩
  · obtain ⟨t, _, hf⟩ := List.mem_filterMap.mp hf
    exact absurd hcause (ofWord_ne_undefinedSnippet hf name)

end Document

theorem Distinct.eq_of_mem {ts : List Token} (h : Distinct ts) {t u : Token} (ht : t ∈ ts)
    (hu : u ∈ ts) (hspan : t.span = u.span) : t = u := by
  have hflat : ts.flatMap (fun t => [t]) = ts := List.flatMap_singleton' ts
  rw [← hflat] at h
  exact h.eq_of_span ht hu (List.mem_singleton_self t) (List.mem_singleton_self u) hspan

/-! ## The names that are offered -/

theorem Editor.labels_eq {source : String} {p : Position} {typed : String}
    (h : (Document.read source).document.contextAt source p = .snippet typed) :
    (completionsAt source p).map (·.label) = (Document.read source).document.snippetNames.filter
      fun name => typed.toList.isPrefixOf name.toList := by
  unfold completionsAt
  simp [h, Completion.ofContext, Function.comp_def]

/-- A snippet is asked for where the text in front of the cursor is an `import` and the start of its
argument. The names offered are those of the declared snippets that go on from there, in ascending
order, and none of them is missed where it is imported. -/
theorem snippets_offered {source : String} {line : List Char} {p : Position}
    (hline : (Text.lines source.toList)[p.line]? = some line) (typed : String) :
    let doc := (Document.read source).document
    let labels := (Editor.completionsAt source p).map (·.label)
    (doc.contextAt source p = .snippet typed ↔
        Cursor.Importing ((Text.dropEnd '\r' line).take p.column) typed.toList) ∧
      (doc.contextAt source p = .snippet typed →
        (∀ name, name ∈ labels ↔
          (∃ s ∈ doc.sites, s.snippet? = some name) ∧ typed.toList <+: name.toList) ∧
        labels.Pairwise (· < ·) ∧ labels.Nodup ∧
        ∀ d, doc.Has d → d.title = "import" → ∀ t, d.args.head? = some t → t.value ∈ labels →
          ∀ f ∈ doc.review, f.span = t.span → ∀ name, f.cause ≠ .undefinedSnippet name) := by
  intro doc labels
  refine ⟨Cursor.contextAt_eq_snippet_iff hline typed, fun hcontext => ?_⟩
  have hlabels : labels = doc.snippetNames.filter fun name =>
      typed.toList.isPrefixOf name.toList := Editor.labels_eq hcontext
  have hsorted : labels.Pairwise (· < ·) := by
    rw [hlabels]
    exact (pairwise_snippetNames doc).filter _
  refine ⟨?_, hsorted, hsorted.imp fun h => Std.ne_of_lt h, ?_⟩
  · intro name
    rw [hlabels, List.mem_filter, mem_snippetNames, List.isPrefixOf_iff_prefix]
  · intro d hd _ t ht hlabel f hf hspan name hcause
    obtain ⟨u, hu, rfl, huspan, hnot⟩ := Document.undeclared_of_missing hf hcause
    have hdist : Distinct doc.words := .of_lt (Document.words_read_pairwise source)
    obtain rfl : t = u := hdist.eq_of_mem (hd.mem_words (List.mem_of_mem_head? ht)) hu
      (hspan.symm.trans huspan)
    rw [hlabels] at hlabel
    exact hnot (List.mem_of_mem_filter hlabel)

theorem snippets_offered_twice :
    let source := "(compress) \x7b\n\x7d\n(common) \x7b\n\x7d\n(common) \x7b\n\x7d\n" ++
      "a \x7b\n\timport \t co\r\n\timport common\n\x7d\n"
    let doc := (Document.read source).document
    doc.contextAt source ⟨7, 12⟩ = .snippet "co" ∧
      (∀ name, name ∈ (Editor.completionsAt source ⟨7, 12⟩).map (·.label) ↔
        (∃ s ∈ doc.sites, s.snippet? = some name) ∧ "co".toList <+: name.toList) ∧
      ∀ f ∈ doc.review, f.span = ⟨⟨8, 8⟩, ⟨8, 14⟩⟩ → ∀ name, f.cause ≠ .undefinedSnippet name := by
  intro source doc
  have hline : (Text.lines source.toList)[7]? = some "\timport \t co\r".toList := by decide +kernel
  have hoffered := snippets_offered (p := ⟨7, 12⟩) hline "co"
  have hcontext : doc.contextAt source ⟨7, 12⟩ = .snippet "co" := by
    apply hoffered.1.mpr
    exact ⟨['\t'], [' ', '\t', ' '], by decide +kernel, by simp, by simp, by simp, by simp⟩
  obtain ⟨hlabels, _, _, himport⟩ := hoffered.2 hcontext
  let target : Token := ⟨.bare, "common", ⟨8, 8⟩⟩
  let wanted : Directive := ⟨⟨.bare, "import", ⟨8, 1⟩⟩, [target], none, [], 8⟩
  let site : Site := ⟨⟨.bare, "a", ⟨6, 0⟩⟩, [],
    [⟨⟨.bare, "import", ⟨7, 1⟩⟩, [⟨.bare, "co", ⟨7, 10⟩⟩], none, [], 7⟩, wanted], 9⟩
  have hsite : site ∈ doc.sites := by decide +kernel
  have hd : doc.Has wanted := .inr ⟨site, hsite, [], .here (.tail _ (.head _))⟩
  have hvalue : target.value = "common" := by decide +kernel
  have hspan : target.span = ⟨⟨8, 8⟩, ⟨8, 14⟩⟩ := by decide +kernel
  refine ⟨hcontext, hlabels, ?_⟩
  rw [← hspan]
  refine himport wanted hd (by decide +kernel) target rfl ?_
  rw [hvalue, hlabels]
  exact ⟨by decide +kernel, by decide +kernel⟩

end Caddyfile
