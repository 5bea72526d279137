import Caddyfile.Proofs.Agreement

/-!
# A review goes from scope to scope

The three walks of a review differ in the names they allow, and in which blocks they enter. `Scope`
holds that difference, and each walk becomes the same step: findings on the directive itself, then
those of its block in the scope it opens (`findings_eq`). So the warnings on the words of a directive
depend on the directives around it only through the scope they lead to (`warningsOn_within`).
-/

namespace Caddyfile

/-- The warnings on a word. -/
def Document.warningsOn (d : Document) (t : Token) : List Finding :=
  d.review.filter fun f => f.severity = .warning && f.span = t.span

namespace Review

open Directive

/-- What the directives of a block are judged by. -/
inductive Scope where
  /-- A site, a snippet, or the block of a container. -/
  | site
  /-- The block of the directive `parent`, which takes `allowed`. -/
  | block (parent : String) (allowed : Array String)
  /-- The block of the subdirective `sub` of `parent`, which takes `allowed`. -/
  | nested (parent sub : String) (allowed : Array String)

namespace Scope

/-- The findings on a directive and in its block. -/
def findings (snippets : Array String) (inSnippet : Bool) : Scope → Directive → List Finding
  | site => ofDirective snippets inSnippet
  | block parent allowed => ofSubdirective snippets parent allowed
  | nested parent sub allowed => ofNested snippets parent sub allowed

/-- The scope that the block of a directive opens, if the review looks at the block. -/
def enter : Scope → Directive → Option Scope
  | site, d =>
    if isMatcher d.title || !Vocabulary.isSiteDirective d.title || d.title = "import" then none
    else if Vocabulary.isContainer d.title then some site
    else
      match Vocabulary.bodyOf d.title with
      | .names allowed => some (block d.title allowed)
      | .freeform | .unmodeled => none
  | block parent allowed, d =>
    if isMatcher d.title || d.title = "import" || !Sorted.contains allowed d.title then none
    else
      match d.firstArg? with
      | none => none
      | some arg => (Vocabulary.nestedNames? d.title arg).map (nested parent s!"{d.title} {arg}")
  | nested .., _ => none

/-- What is wrong with the name of a directive. -/
def cause? (inSnippet : Bool) : Scope → String → Option Finding.Cause
  | site, name =>
    if isMatcher name || Vocabulary.isSiteDirective name then none
    else
      match Vocabulary.home? name with
      | some home => if inSnippet then none else some (.misplaced name home)
      | none => some (.unknownDirective name)
  | block parent allowed, name =>
    if isMatcher name || name = "import" || Sorted.contains allowed name then none
    else
      match Vocabulary.home? name with
      | some home => some (.misplacedInside name parent home)
      | none => some (.unknownSubdirective name parent)
  | nested parent sub allowed, name =>
    if isMatcher name || name = "import" || Sorted.contains allowed name then none
    else some (.unknownNested name parent sub)

/-- The findings on the words of a directive itself. -/
def own (snippets : Array String) (inSnippet : Bool) (scope : Scope) (d : Directive) :
    List Finding :=
  (scope.cause? inSnippet d.title).toList.map (⟨·, d.name.span⟩) ++
    if d.title = "import" then ofImport snippets d else []

/-- The scope inside the blocks of `as`, the outermost first. -/
def along : Scope → List Directive → Option Scope
  | scope, [] => some scope
  | scope, a :: as => (scope.enter a).bind (along · as)

variable {snippets : Array String} {inSnippet : Bool}

/-! ## One step -/

theorem isMatcher_import : isMatcher "import" = false := by
  decide

theorem ne_import_of_isMatcher {name : String} (h : isMatcher name) : name ≠ "import" := by
  rintro rfl
  exact absurd h (by decide)

theorem isSiteDirective_import : Vocabulary.isSiteDirective "import" := by
  decide +kernel

theorem ofDirectives_eq_flatMap (ds : List Directive) :
    ofDirectives snippets inSnippet ds = ds.flatMap (ofDirective snippets inSnippet) := by
  induction ds with
  | nil => rfl
  | cons d ds ih => rw [ofDirectives, ih, List.flatMap_cons]

theorem findings_site (d : Directive) : site.findings snippets inSnippet d =
    site.own snippets inSnippet d ++
      (site.enter d).elim [] fun inner => d.body.flatMap (inner.findings snippets inSnippet) := by
  obtain ⟨token, args, opener, body, lastLine⟩ := d
  simp only [findings, ofDirective, own, cause?, enter, Directive.title]
  by_cases hm : isMatcher token.value
  · simp [hm, ne_import_of_isMatcher hm]
  by_cases hs : Vocabulary.isSiteDirective token.value
  · by_cases hi : token.value = "import"
    · simp [hi, isMatcher_import, isSiteDirective_import]
    by_cases hc : Vocabulary.isContainer token.value
    · simp [hm, hs, hi, hc, ofDirectives_eq_flatMap]
    · cases hb : Vocabulary.bodyOf token.value with
      | names allowed => simp [hm, hs, hi, hc]
      | freeform | unmodeled => simp [hm, hs, hi, hc]
  · have hi : token.value ≠ "import" := by
      intro heq
      rw [heq] at hs
      exact hs isSiteDirective_import
    cases hh : Vocabulary.home? token.value with
    | none => simp [hm, hs, hi]
    | some home => cases inSnippet <;> simp [hm, hs, hi]

theorem findings_block (parent : String) (allowed : Array String) (d : Directive) :
    (block parent allowed).findings snippets inSnippet d =
      (block parent allowed).own snippets inSnippet d ++
        ((block parent allowed).enter d).elim [] fun inner =>
          d.body.flatMap (inner.findings snippets inSnippet) := by
  simp only [findings, ofSubdirective, own, cause?, enter]
  by_cases hm : isMatcher d.title
  · simp [hm, ne_import_of_isMatcher hm]
  by_cases hi : d.title = "import"
  · simp [hi, isMatcher_import]
  by_cases hc : Sorted.contains allowed d.title
  · cases ha : d.firstArg? with
    | none => simp [hm, hi, hc]
    | some arg =>
      cases hn : Vocabulary.nestedNames? d.title arg with
      | none => simp [hm, hi, hc, hn]
      | some nested => simp [hm, hi, hc, hn]
  · cases hh : Vocabulary.home? d.title <;> simp [hm, hi, hc]

theorem findings_nested (parent sub : String) (allowed : Array String) (d : Directive) :
    (nested parent sub allowed).findings snippets inSnippet d =
      (nested parent sub allowed).own snippets inSnippet d := by
  simp only [findings, ofNested, own, cause?]
  by_cases hm : isMatcher d.title
  · simp [hm, ne_import_of_isMatcher hm]
  by_cases hi : d.title = "import"
  · simp [hi, isMatcher_import]
  by_cases hc : Sorted.contains allowed d.title <;> simp [hm, hi, hc]

theorem findings_eq (scope : Scope) (d : Directive) : scope.findings snippets inSnippet d =
    scope.own snippets inSnippet d ++
      (scope.enter d).elim [] fun inner => d.body.flatMap (inner.findings snippets inSnippet) := by
  cases scope with
  | site => exact findings_site d
  | block parent allowed => exact findings_block parent allowed d
  | nested parent sub allowed => rw [findings_nested, enter, Option.elim_none, List.append_nil]

theorem on_words_findings {scope : Scope} {d : Directive} {f : Finding}
    (hf : f ∈ scope.findings snippets inSnippet d) : f.On d.words := by
  cases scope with
  | site => exact on_words_ofDirective hf
  | block parent allowed => exact on_words_ofSubdirective hf
  | nested parent sub allowed => exact on_words_ofNested hf

theorem mem_own {scope : Scope} {d : Directive} {f : Finding}
    (hf : f ∈ scope.own snippets inSnippet d) : f.On (d.name :: d.args) := by
  rcases List.mem_append.mp hf with hname | himport
  · obtain ⟨cause, _, rfl⟩ := List.mem_map.mp hname
    exact ⟨d.name, by simp, rfl⟩
  · split at himport
    · exact (mem_ofImport himport).mono fun t ht => List.mem_cons_of_mem _ ht
    · cases himport

end Scope

/-! ## The findings on one word -/

def onWord (t : Token) (fs : List Finding) : List Finding :=
  fs.filter (·.span = t.span)

@[simp] theorem onWord_append (t : Token) (fs gs : List Finding) :
    onWord t (fs ++ gs) = onWord t fs ++ onWord t gs :=
  List.filter_append ..

theorem onWord_eq_nil {t : Token} {ts : List Token} {fs : List Finding}
    (hfs : ∀ f ∈ fs, f.On ts) (ht : ∀ u ∈ ts, u.span ≠ t.span) : onWord t fs = [] := by
  refine List.filter_eq_nil_iff.mpr fun f hf heq => ?_
  obtain ⟨u, hu, hspan⟩ := hfs f hf
  exact ht u hu (hspan.symm.trans (of_decide_eq_true heq))

/-- What lies on a word of `a` comes from `a`. -/
theorem onWord_flatMap {α : Type} {words : α → List Token} {found : α → List Finding}
    (hon : ∀ (a : α), ∀ f ∈ found a, f.On (words a)) {as : List α} (h : Distinct (as.flatMap words))
    {a : α} (ha : a ∈ as) {t : Token} (ht : t ∈ words a) :
    onWord t (as.flatMap found) = onWord t (found a) := by
  have hall : ∀ bs : List α, ∀ f ∈ bs.flatMap found, f.On (bs.flatMap words) := by
    intro bs f hf
    obtain ⟨b, hb, hf⟩ := List.mem_flatMap.mp hf
    exact (hon b f hf).mono fun u hu => List.mem_flatMap.mpr ⟨b, hb, hu⟩
  obtain ⟨before, after, rfl⟩ := List.append_of_mem ha
  simp only [List.flatMap_append, List.flatMap_cons] at h ⊢
  obtain ⟨_, hrest, hbefore⟩ := List.pairwise_append.mp h
  have hnone : onWord t (before.flatMap found) = [] :=
    onWord_eq_nil (hall before) fun u hu => hbefore u hu t (List.mem_append_left _ ht)
  have hnone' : onWord t (after.flatMap found) = [] :=
    onWord_eq_nil (hall after) fun u hu => ((List.pairwise_append.mp hrest).2.2 t ht u hu).symm
  rw [onWord_append, onWord_append, hnone, hnone', List.nil_append, List.append_nil]

/-! ## Down a path -/

section
variable {snippets : Array String} {inSnippet : Bool} {ds as : List Directive} {d : Directive}
  {t : Token}

theorem own_sublist (d : Directive) : (d.name :: d.args).Sublist d.words := by
  rw [words_eq, ← List.cons_append]
  exact List.sublist_append_left _ _

theorem own_sublist_within (hd : Within ds as d) : (d.name :: d.args).Sublist (wordsOf ds) := by
  induction hd with
  | here hd => exact (own_sublist _).trans (words_sublist hd)
  | inside ha _ ih => exact (ih.cons _).trans (Within.body_sublist ha)

theorem onWord_own_inside (h : Distinct (wordsOf ds)) (hd : d ∈ ds) (ht : t ∈ wordsOf d.body)
    (scope : Scope) : onWord t (scope.own snippets inSnippet d) = [] := by
  have hdist := distinct_words h hd
  rw [← List.append_assoc] at hdist
  refine onWord_eq_nil (fun f hf => Scope.mem_own hf) fun u hu => ?_
  exact hdist.ne hu ht

theorem onWord_inside_own (h : Distinct (wordsOf ds)) (hd : d ∈ ds) (ht : t ∈ d.name :: d.args)
    (scope : Scope) : onWord t ((scope.enter d).elim [] fun inner =>
      d.body.flatMap (inner.findings snippets inSnippet)) = [] := by
  cases scope.enter d with
  | none => rfl
  | some inner =>
    have hdist := distinct_words h hd
    rw [← List.append_assoc] at hdist
    have hon : ∀ f ∈ d.body.flatMap (inner.findings snippets inSnippet), f.On (wordsOf d.body) := by
      intro f hf
      obtain ⟨e, he, hf⟩ := List.mem_flatMap.mp hf
      exact on_wordsOf he (Scope.on_words_findings hf)
    exact onWord_eq_nil hon fun u hu => (hdist.ne ht hu).symm

/-- The directives around `d` only lead to the scope that judges it. -/
theorem onWord_within (h : Distinct (wordsOf ds)) (hd : Within ds as d) (ht : t ∈ d.name :: d.args)
    (scope : Scope) : onWord t (ds.flatMap (scope.findings snippets inSnippet)) =
      onWord t ((scope.along as).elim [] (·.own snippets inSnippet d)) := by
  induction hd generalizing scope with
  | here hd =>
    have hflat := h
    rw [wordsOf_eq_flatMap] at hflat
    rw [onWord_flatMap (fun _ _ => Scope.on_words_findings) hflat hd ((own_sublist _).subset ht),
      Scope.findings_eq, onWord_append, onWord_inside_own h hd ht, List.append_nil]
    rfl
  | @inside _ _ a _ ha hd ih =>
    -- The word is in the block of `a`, so what the scope says about `a` itself lies elsewhere.
    have hbody := (own_sublist_within hd).subset ht
    have hwords : t ∈ a.words := by
      rw [words_eq]
      exact List.mem_cons_of_mem _ (List.mem_append_right _ hbody)
    have hflat := h
    rw [wordsOf_eq_flatMap] at hflat
    rw [onWord_flatMap (fun _ _ => Scope.on_words_findings) hflat ha hwords, Scope.findings_eq,
      onWord_append, onWord_own_inside h ha hbody, List.nil_append, Scope.along]
    cases scope.enter a with
    | none => rfl
    | some inner => exact ih (distinct_body h ha) ht inner

theorem onWord_name_own (h : Distinct (d.name :: d.args)) (scope : Scope) :
    onWord d.name (scope.own snippets inSnippet d) =
      (scope.cause? inSnippet d.title).toList.map (⟨·, d.name.span⟩) := by
  have himport : onWord d.name (if d.title = "import" then ofImport snippets d else []) = [] := by
    split
    · refine onWord_eq_nil (fun f hf => mem_ofImport hf) fun u hu => ?_
      exact ((List.pairwise_cons.mp h).1 u hu).symm
    · rfl
  rw [Scope.own, onWord_append, himport, List.append_nil]
  refine List.filter_eq_self.mpr fun f hf => decide_eq_true ?_
  obtain ⟨cause, _, rfl⟩ := List.mem_map.mp hf
  rfl

theorem eq_of_mem_ofImport {f : Finding} (hf : f ∈ ofImport snippets d) :
    ∃ arg, d.args.head? = some arg ∧ f = ⟨.undefinedSnippet arg.value, arg.span⟩ := by
  unfold ofImport at hf
  split at hf
  · cases hf
  · rename_i arg args hargs
    simp only at hf
    split at hf
    · cases hf
    · split at hf
      · cases hf
      · exact ⟨arg, by rw [hargs]; rfl, List.mem_singleton.mp hf⟩

theorem onWord_arg_own (h : Distinct (d.name :: d.args)) (ht : t ∈ d.args) (scope : Scope) :
    onWord t (scope.own snippets inSnippet d) =
      if d.title = "import" ∧ d.args.head? = some t then ofImport snippets d else [] := by
  obtain ⟨hname, hargs⟩ := List.pairwise_cons.mp h
  have hcause : onWord t ((scope.cause? inSnippet d.title).toList.map (⟨·, d.name.span⟩)) = [] := by
    refine List.filter_eq_nil_iff.mpr fun f hf heq => ?_
    obtain ⟨cause, _, rfl⟩ := List.mem_map.mp hf
    exact hname t ht (of_decide_eq_true heq)
  rw [Scope.own, onWord_append, hcause, List.nil_append]
  by_cases hi : d.title = "import"
  · by_cases hhead : d.args.head? = some t
    · rw [if_pos hi, if_pos ⟨hi, hhead⟩]
      refine List.filter_eq_self.mpr fun f hf => decide_eq_true ?_
      obtain ⟨arg, harg, rfl⟩ := eq_of_mem_ofImport hf
      rw [Option.some.inj (harg.symm.trans hhead)]
    · rw [if_pos hi, if_neg (hhead ·.2)]
      refine List.filter_eq_nil_iff.mpr fun f hf heq => ?_
      obtain ⟨arg, harg, rfl⟩ := eq_of_mem_ofImport hf
      obtain ⟨args, hcons⟩ := List.head?_eq_some_iff.mp harg
      rw [hcons] at ht hargs
      rcases List.mem_cons.mp ht with rfl | ht
      · exact hhead harg
      · exact (List.pairwise_cons.mp hargs).1 t ht (of_decide_eq_true heq)
  · rw [if_neg hi, if_neg (hi ·.1)]
    rfl

end

/-! ## Warnings and errors -/

theorem severity_of_cause {inSnippet : Bool} {scope : Scope} {name : String} {cause : Finding.Cause}
    (h : scope.cause? inSnippet name = some cause) : cause.severity = .warning := by
  cases scope with
  | site =>
    simp only [Scope.cause?] at h
    split at h
    · cases h
    · split at h
      · split at h
        · cases h
        · cases h; rfl
      · cases h; rfl
  | block parent allowed =>
    simp only [Scope.cause?] at h
    split at h
    · cases h
    · split at h
      · cases h; rfl
      · cases h; rfl
  | nested parent sub allowed =>
    simp only [Scope.cause?] at h
    split at h
    · cases h
    · cases h; rfl

theorem severity_of_mem_own {snippets : Array String} {inSnippet : Bool} {scope : Scope}
    {d : Directive} {f : Finding} (hf : f ∈ scope.own snippets inSnippet d) :
    f.severity = .warning := by
  rcases List.mem_append.mp hf with hname | himport
  · obtain ⟨cause, hcause, rfl⟩ := List.mem_map.mp hname
    exact severity_of_cause (Option.mem_toList.mp hcause)
  · split at himport
    · obtain ⟨arg, _, rfl⟩ := eq_of_mem_ofImport himport
      rfl
    · cases himport

theorem severity_of_ofWord {t : Token} {f : Finding} (hf : ofWord t = some f) :
    f.severity = .error := by
  obtain ⟨cause, hcause, rfl⟩ := Option.map_eq_some_iff.mp hf
  cases hb : Placeholder.balance t.text with
  | balanced => rw [hb] at hcause; cases hcause
  | unclosed | unmatched => rw [hb] at hcause; cases hcause; rfl

end Review

/-! ## The whole document -/

namespace Document

open Directive Review

variable {doc : Document} {s : Site} {as : List Directive} {d : Directive} {t : Token}

theorem warningsOn_eq (doc : Document) (t : Token) :
    doc.warningsOn t = (onWord t doc.warnings).filter (·.severity = .warning) := by
  have hnone : ((placeholderWords doc).filterMap ofWord).filter
      (fun f => f.severity = .warning && f.span = t.span) = [] := by
    refine List.filter_eq_nil_iff.mpr fun f hf => ?_
    obtain ⟨u, _, hu⟩ := List.mem_filterMap.mp hf
    simp [severity_of_ofWord hu]
  rw [warningsOn, review, List.filter_append, hnone, List.append_nil, onWord, List.filter_filter]

theorem onWord_warnings (h : Distinct doc.words) (hs : s ∈ doc.sites) (ht : t ∈ s.words) :
    onWord t doc.warnings = onWord t (ofSite doc.snippetNames.toArray s) := by
  have hglobals : onWord t (doc.globals.elim [] fun g =>
      g.directives.flatMap (ofGlobal doc.snippetNames.toArray)) = [] := by
    refine onWord_eq_nil (fun f hf => on_globals_of_mem hf) fun u hu => ?_
    exact Distinct.ne h hu (List.mem_flatMap.mpr ⟨s, hs, ht⟩)
  have hon : ∀ (r : Site), ∀ f ∈ ofSite doc.snippetNames.toArray r, f.On r.words :=
    fun r f hf => (on_words_ofDirectives hf).mono (List.subset_append_right _ _)
  rw [warnings, onWord_append, hglobals, List.nil_append,
    onWord_flatMap hon (List.pairwise_append.mp h).2.1 hs ht]

theorem warningsOn_within (h : Distinct doc.words) (hs : s ∈ doc.sites)
    (hd : Within s.directives as d) (ht : t ∈ d.name :: d.args) :
    doc.warningsOn t = onWord t ((Scope.site.along as).elim []
      (·.own doc.snippetNames.toArray s.isSnippet d)) := by
  have hmem : t ∈ s.words :=
    List.mem_append_right _ ((own_sublist_within hd).subset ht)
  have hdist := (List.pairwise_append.mp (distinct_site h hs)).2.1
  rw [warningsOn_eq, onWord_warnings h hs hmem, ofSite, Scope.ofDirectives_eq_flatMap,
    ← Scope.findings, onWord_within hdist hd ht]
  refine List.filter_eq_self.mpr fun f hf => decide_eq_true ?_
  replace hf := (List.mem_filter.mp hf).1
  cases hscope : Scope.site.along as with
  | none => simp [hscope] at hf
  | some scope =>
    rw [hscope] at hf
    exact severity_of_mem_own hf

theorem warningsOn_name (h : Distinct doc.words) (hs : s ∈ doc.sites)
    (hd : Within s.directives as d) : doc.warningsOn d.name =
      ((Scope.site.along as).bind (·.cause? s.isSnippet d.title)).toList.map (⟨·, d.name.span⟩) := by
  have hown := (List.pairwise_append.mp (distinct_site h hs)).2.1.sublist (own_sublist_within hd)
  rw [warningsOn_within h hs hd (by simp)]
  cases Scope.site.along as with
  | none => rfl
  | some scope => exact onWord_name_own hown scope

theorem warningsOn_arg (h : Distinct doc.words) (hs : s ∈ doc.sites)
    (hd : Within s.directives as d) (ht : t ∈ d.args) : doc.warningsOn t =
      if (Scope.site.along as).isSome ∧ d.title = "import" ∧ d.args.head? = some t then
        ofImport doc.snippetNames.toArray d
      else [] := by
  have hown := (List.pairwise_append.mp (distinct_site h hs)).2.1.sublist (own_sublist_within hd)
  rw [warningsOn_within h hs hd (List.mem_cons_of_mem _ ht)]
  cases Scope.site.along as with
  | none => simp [onWord]
  | some scope =>
    simp only [Option.elim_some, Option.isSome_some, true_and]
    exact onWord_arg_own hown ht scope

end Document

end Caddyfile
