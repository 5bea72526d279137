import Caddyfile.Review
import Caddyfile.Proofs.Bisection
import Caddyfile.Proofs.Indentation
import Caddyfile.Proofs.Paths

/-!
# Findings and suggestions agree

A review goes down the tree of a document, a cursor down the blocks that hold its line. Where both
come to the name of a directive they judge it by the same names: a finding on the name says that the
names suggested there do not include it (`review_agrees_with_cursor`).
-/

namespace Caddyfile

/-! ## Findings on words -/

namespace Finding

/-- The finding lies on one of the words. -/
def On (f : Finding) (ts : List Token) : Prop :=
  ∃ t ∈ ts, f.span = t.span

variable {f : Finding}

theorem On.mono {ts us : List Token} (h : f.On ts) (hsub : ts ⊆ us) : f.On us := by
  obtain ⟨t, ht, hspan⟩ := h
  exact ⟨t, hsub ht, hspan⟩

theorem On.not_on {ts us : List Token} (hd : Distinct (ts ++ us)) (hl : f.On ts) : ¬ f.On us := by
  obtain ⟨t, ht, htspan⟩ := hl
  rintro ⟨u, hu, huspan⟩
  exact hd.ne ht hu (htspan.symm.trans huspan)

theorem On.eq_of_mem {α : Type} {words : α → List Token} {as : List α}
    (hd : Distinct (as.flatMap words)) {a b : α} (ha : a ∈ as) (hb : b ∈ as)
    (hfa : f.On (words a)) (hfb : f.On (words b)) : a = b := by
  obtain ⟨t, ht, htspan⟩ := hfa
  obtain ⟨u, hu, huspan⟩ := hfb
  exact hd.eq_of_span ha hb ht hu (htspan.symm.trans huspan)

end Finding

namespace Review

open Directive

/-! ## What a finding can be about -/

section
variable {snippets : Array String} {f : Finding}

theorem mem_ofImport {d : Directive} (h : f ∈ ofImport snippets d) :
    f.On d.args := by
  unfold ofImport at h
  cases hargs : d.args with
  | nil => simp [hargs] at h
  | cons arg args =>
    simp only [hargs] at h
    split at h
    · cases h
    · split at h
      · cases h
      · obtain rfl := List.mem_singleton.mp h
        exact ⟨arg, by simp, rfl⟩

theorem mem_ofGlobal {d : Directive} (h : f ∈ ofGlobal snippets d) :
    f.span = d.name.span ∨ f.On d.args := by
  simp only [ofGlobal] at h
  split at h
  · cases h
  split at h
  · exact .inl (by rw [List.mem_singleton.mp h])
  split at h
  · exact .inr (mem_ofImport h)
  · cases h

theorem mem_ofNested {parent sub : String} {allowed : Array String} {d : Directive}
    (h : f ∈ ofNested snippets parent sub allowed d) :
    f.span = d.name.span ∧ ¬ Sorted.contains allowed d.title ∨ f.On d.args := by
  simp only [ofNested] at h
  split at h
  · cases h
  split at h
  · exact .inr (mem_ofImport h)
  split at h
  · cases h
  · rename_i hc
    exact .inl ⟨by rw [List.mem_singleton.mp h], hc⟩

theorem mem_ofSubdirective {parent : String} {allowed : Array String} {d : Directive}
    (h : f ∈ ofSubdirective snippets parent allowed d) :
    f.span = d.name.span ∧ ¬ Sorted.contains allowed d.title ∨ f.On d.args ∨
      ∃ arg nested sub, d.firstArg? = some arg ∧ Vocabulary.nestedNames? d.title arg = some nested ∧
        ∃ e ∈ d.body, f ∈ ofNested snippets parent sub nested e := by
  simp only [ofSubdirective] at h
  split at h
  · cases h
  split at h
  · exact .inr (.inl (mem_ofImport h))
  split at h
  · rename_i hc
    refine .inl ⟨?_, by simpa using hc⟩
    split at h
    · rw [List.mem_singleton.mp h]
    · rw [List.mem_singleton.mp h]
  split at h
  · cases h
  rename_i arg harg
  split at h
  · cases h
  rename_i nested hnested
  exact .inr (.inr ⟨arg, nested, _, harg, hnested, List.mem_flatMap.mp h⟩)

theorem mem_ofDirectives {inSnippet : Bool} : ∀ {ds : List Directive},
    f ∈ ofDirectives snippets inSnippet ds → ∃ d ∈ ds, f ∈ ofDirective snippets inSnippet d
  | [], h => by simp [ofDirectives] at h
  | d :: ds, h => by
    rw [ofDirectives] at h
    rcases List.mem_append.mp h with h | h
    · exact ⟨d, by simp, h⟩
    · obtain ⟨e, he, h⟩ := mem_ofDirectives h
      exact ⟨e, by simp [he], h⟩

theorem mem_ofDirective {inSnippet : Bool} {d : Directive}
    (h : f ∈ ofDirective snippets inSnippet d) :
    f.span = d.name.span ∧ ¬ Vocabulary.isSiteDirective d.title ∨ f.On d.args ∨
      Vocabulary.isContainer d.title ∧ f ∈ ofDirectives snippets inSnippet d.body ∨
      ¬ Vocabulary.isContainer d.title ∧ ∃ allowed, Vocabulary.bodyOf d.title = .names allowed ∧
        ∃ e ∈ d.body, f ∈ ofSubdirective snippets d.title allowed e := by
  obtain ⟨name, args, opener, body, lastLine⟩ := d
  simp only [ofDirective] at h
  split at h
  · cases h
  split at h
  · rename_i hsite
    refine .inl ⟨?_, by simpa [title] using hsite⟩
    split at h
    · split at h
      · cases h
      · rw [List.mem_singleton.mp h]
    · rw [List.mem_singleton.mp h]
  split at h
  · exact .inr (.inl (mem_ofImport h))
  split at h
  · rename_i hc
    exact .inr (.inr (.inl ⟨hc, h⟩))
  rename_i hc
  refine .inr (.inr (.inr ⟨hc, ?_⟩))
  split at h
  · rename_i allowed hbody
    exact ⟨allowed, hbody, List.mem_flatMap.mp h⟩
  · cases h
  · cases h

/-! ## Every finding on a directive lies on its words -/

theorem on_words_of_name {d : Directive} (h : f.span = d.name.span) : f.On d.words :=
  ⟨d.name, by simp [words_eq], h⟩

theorem on_words_of_args {d : Directive} (h : f.On d.args) : f.On d.words := by
  refine h.mono ?_
  rw [words_eq]
  exact fun t ht => List.mem_cons_of_mem _ (List.mem_append_left _ ht)

theorem on_wordsOf {ds : List Directive} {d : Directive} (hd : d ∈ ds) (h : f.On d.words) :
    f.On (wordsOf ds) :=
  h.mono (words_sublist hd).subset

theorem on_words_of_body {d : Directive} (h : f.On (wordsOf d.body)) : f.On d.words := by
  refine h.mono ?_
  rw [words_eq]
  exact fun t ht => List.mem_cons_of_mem _ (List.mem_append_right _ ht)

theorem on_words_ofNested {parent sub : String} {allowed : Array String} {d : Directive}
    (h : f ∈ ofNested snippets parent sub allowed d) : f.On d.words := by
  rcases mem_ofNested h with ⟨hname, _⟩ | hargs
  · exact on_words_of_name hname
  · exact on_words_of_args hargs

theorem on_words_ofSubdirective {parent : String} {allowed : Array String} {d : Directive}
    (h : f ∈ ofSubdirective snippets parent allowed d) : f.On d.words := by
  rcases mem_ofSubdirective h with ⟨hname, _⟩ | hargs | ⟨_, _, _, _, _, e, he, hf⟩
  · exact on_words_of_name hname
  · exact on_words_of_args hargs
  · exact on_words_of_body (on_wordsOf he (on_words_ofNested hf))

mutual

theorem on_words_ofDirective {inSnippet : Bool} : ∀ {d : Directive},
    f ∈ ofDirective snippets inSnippet d → f.On d.words
  | ⟨name, args, opener, body, lastLine⟩, h => by
    rcases mem_ofDirective h with ⟨hname, _⟩ | hargs | ⟨_, hf⟩ | ⟨_, _, _, e, he, hf⟩
    · exact on_words_of_name hname
    · exact on_words_of_args hargs
    · have hbody : f.On (wordsOf body) := on_words_ofDirectives hf
      exact on_words_of_body hbody
    · exact on_words_of_body (on_wordsOf he (on_words_ofSubdirective hf))

theorem on_words_ofDirectives {inSnippet : Bool} : ∀ {ds : List Directive},
    f ∈ ofDirectives snippets inSnippet ds → f.On (wordsOf ds)
  | [], h => by simp [ofDirectives] at h
  | d :: ds, h => by
    rw [ofDirectives] at h
    rcases List.mem_append.mp h with h | h
    · exact (on_words_ofDirective h).mono (List.subset_append_left _ _)
    · exact (on_words_ofDirectives h).mono (List.subset_append_right _ _)

end

end

/-! ## Arguments are words -/

theorem arguments_eq (d : Directive) : arguments d = d.args ++ argumentsOf d.body := by
  cases d; rfl

theorem argumentsOf_eq_flatMap (ds : List Directive) : argumentsOf ds = ds.flatMap arguments := by
  induction ds with
  | nil => rfl
  | cons d ds ih => rw [argumentsOf, ih, List.flatMap_cons]

mutual

theorem arguments_sublist : ∀ d : Directive, (arguments d).Sublist d.words
  | ⟨name, args, _, body, _⟩ => ((argumentsOf_sublist body).append_left args).cons name

theorem argumentsOf_sublist : ∀ ds : List Directive, (argumentsOf ds).Sublist (wordsOf ds)
  | [] => .slnil
  | d :: ds => (arguments_sublist d).append (argumentsOf_sublist ds)

end

/-! ## Findings on the name of a directive -/

section
variable {snippets : Array String} {f : Finding} {ds as : List Directive} {a d e : Directive}

theorem distinct_words (h : Distinct (wordsOf ds)) (hd : d ∈ ds) :
    Distinct ([d.name] ++ (d.args ++ wordsOf d.body)) := by
  have hw : Distinct d.words := h.sublist (words_sublist hd)
  rwa [words_eq] at hw

theorem distinct_body (h : Distinct (wordsOf ds)) (hd : d ∈ ds) : Distinct (wordsOf d.body) :=
  (List.pairwise_append.mp (List.pairwise_append.mp (distinct_words h hd)).2.1).2.1

theorem eq_of_name (h : Distinct (wordsOf ds)) (hd : d ∈ ds) (he : e ∈ ds)
    (hname : f.span = d.name.span) (hf : f.On e.words) : e = d := by
  rw [wordsOf_eq_flatMap] at h
  exact Finding.On.eq_of_mem h he hd hf (on_words_of_name hname)

theorem eq_of_inside (h : Distinct (wordsOf ds)) (ha : a ∈ ds) (he : e ∈ ds)
    (hd : Within a.body as d) (hname : f.span = d.name.span) (hf : f.On e.words) : e = a := by
  rw [wordsOf_eq_flatMap] at h
  exact Finding.On.eq_of_mem h he ha hf (on_words_of_body ⟨d.name, hd.name_mem, hname⟩)

theorem not_on_of_name (h : Distinct (wordsOf ds)) (hd : d ∈ ds) (hname : f.span = d.name.span) :
    ¬ f.On (d.args ++ wordsOf d.body) :=
  Finding.On.not_on (distinct_words h hd) ⟨d.name, by simp, hname⟩

theorem not_on_of_inside (h : Distinct (wordsOf ds)) (ha : a ∈ ds) (hd : Within a.body as d)
    (hname : f.span = d.name.span) : f.span ≠ a.name.span ∧ ¬ f.On a.args := by
  have hbody : f.On (wordsOf a.body) := ⟨d.name, hd.name_mem, hname⟩
  refine ⟨fun heq => ?_, fun hargs => ?_⟩
  · exact not_on_of_name h ha heq (hbody.mono (List.subset_append_right _ _))
  · exact hargs.not_on (List.pairwise_append.mp (distinct_words h ha)).2.1 hbody

theorem not_on_argumentsOf (h : Distinct (wordsOf ds)) (hd : Within ds as d)
    (hname : f.span = d.name.span) : ¬ f.On (argumentsOf ds) := by
  rintro ⟨t, ht, hspan⟩
  induction hd with
  | here hd =>
    rw [argumentsOf_eq_flatMap] at ht
    obtain ⟨e, he, ht⟩ := List.mem_flatMap.mp ht
    obtain rfl := eq_of_name h hd he hname ⟨t, (arguments_sublist e).subset ht, hspan⟩
    rw [arguments_eq] at ht
    exact not_on_of_name h he hname
      ⟨t, ((argumentsOf_sublist e.body).append_left e.args).subset ht, hspan⟩
  | inside ha hd ih =>
    rw [argumentsOf_eq_flatMap] at ht
    obtain ⟨e, he, ht⟩ := List.mem_flatMap.mp ht
    obtain rfl := eq_of_inside h ha he hd hname ⟨t, (arguments_sublist e).subset ht, hspan⟩
    rw [arguments_eq] at ht
    rcases List.mem_append.mp ht with hargs | hinside
    · exact (not_on_of_inside h he hd hname).2 ⟨t, hargs, hspan⟩
    · exact ih (distinct_body h he) hname hinside

theorem ofNested_name {parent sub : String} {nested : Array String} (h : Distinct (wordsOf ds))
    (hd : Within ds as d) (he : e ∈ ds) (hf : f ∈ ofNested snippets parent sub nested e)
    (hname : f.span = d.name.span) : ¬ Sorted.contains nested d.title := by
  cases hd with
  | here hd =>
    obtain rfl := eq_of_name h hd he hname (on_words_ofNested hf)
    rcases mem_ofNested hf with ⟨_, hnot⟩ | hargs
    · exact hnot
    · exact absurd (hargs.mono (List.subset_append_left _ _)) (not_on_of_name h he hname)
  | inside ha hd =>
    obtain rfl := eq_of_inside h ha he hd hname (on_words_ofNested hf)
    obtain ⟨hne, hnot⟩ := not_on_of_inside h he hd hname
    rcases mem_ofNested hf with ⟨heq, _⟩ | hargs
    · exact absurd heq hne
    · exact absurd hargs hnot

theorem ofSubdirective_name {parent : String} {allowed : Array String} (h : Distinct (wordsOf ds))
    (hd : Within ds as d) (he : e ∈ ds) (hf : f ∈ ofSubdirective snippets parent allowed e)
    (hname : f.span = d.name.span) (hasc : allowed.toList.Pairwise (· < ·)) :
    ∃ names, (as.head?.elim (.subdirective parent allowed) Cursor.inSubdirective).names? = some names
      ∧ d.title ∉ names := by
  cases hd with
  | here hd =>
    obtain rfl := eq_of_name h hd he hname (on_words_ofSubdirective hf)
    have hnot := not_on_of_name h he hname
    rcases mem_ofSubdirective hf with ⟨_, hc⟩ | hargs | ⟨_, _, _, _, _, c, hc, hf⟩
    · exact ⟨allowed, rfl, mt (Sorted.contains_iff_mem hasc _).mpr hc⟩
    · exact absurd (hargs.mono (List.subset_append_left _ _)) hnot
    · exact absurd ((on_wordsOf hc (on_words_ofNested hf)).mono (List.subset_append_right _ _)) hnot
  | inside ha hd =>
    obtain rfl := eq_of_inside h ha he hd hname (on_words_ofSubdirective hf)
    obtain ⟨hne, hnot⟩ := not_on_of_inside h he hd hname
    rcases mem_ofSubdirective hf with ⟨heq, _⟩ | hargs | ⟨arg, nested, _, harg, hnested, c, hc, hf⟩
    · exact absurd heq hne
    · exact absurd hargs hnot
    · have hc := ofNested_name (distinct_body h he) hd hc hf hname
      refine ⟨nested, ?_, mt (Sorted.contains_iff_mem ?_ _).mpr hc⟩
      · simp [Cursor.inSubdirective, harg, hnested, Cursor.Context.names?]
      · exact Vocabulary.ascending_of_nestedNames hnested

theorem ofDirectives_name {inSnippet : Bool} (h : Distinct (wordsOf ds)) (hd : Within ds as d)
    (hf : f ∈ ofDirectives snippets inSnippet ds) (hname : f.span = d.name.span) :
    ∃ names, (Cursor.contextOf as).names? = some names ∧ d.title ∉ names := by
  induction hd with
  | here hd =>
    -- No other directive has a word there, and of the words of `d` only its name is there.
    obtain ⟨e, he, hf⟩ := mem_ofDirectives hf
    obtain rfl := eq_of_name h hd he hname (on_words_ofDirective hf)
    have hnot := not_on_of_name h he hname
    rcases mem_ofDirective hf with ⟨_, hc⟩ | hargs | ⟨_, hf⟩ | ⟨_, _, _, c, hc, hf⟩
    · exact ⟨_, rfl, mt (Sorted.contains_iff_mem Vocabulary.ascending_siteDirectives _).mpr hc⟩
    · exact absurd (hargs.mono (List.subset_append_left _ _)) hnot
    · exact absurd ((on_words_ofDirectives hf).mono (List.subset_append_right _ _)) hnot
    · exact absurd ((on_wordsOf hc (on_words_ofSubdirective hf)).mono
        (List.subset_append_right _ _)) hnot
  | inside ha hd ih =>
    obtain ⟨e, he, hf⟩ := mem_ofDirectives hf
    obtain rfl := eq_of_inside h ha he hd hname (on_words_ofDirective hf)
    obtain ⟨hne, hnot⟩ := not_on_of_inside h he hd hname
    have hbody := distinct_body h he
    rcases mem_ofDirective hf with ⟨heq, _⟩ | hargs | ⟨hcon, hf⟩ | ⟨hcon, allowed, htakes, c, hc, hf⟩
    · exact absurd heq hne
    · exact absurd hargs hnot
    · -- The review and the cursor both look through containers.
      rw [Cursor.contextOf, if_pos hcon]
      exact ih hbody hf hname
    · simp only [Cursor.contextOf, hcon, htakes]
      exact ofSubdirective_name hbody hd hc hf hname (Vocabulary.ascending_of_bodyOf htakes)

end

end Review

/-! ## The whole document -/

namespace Document

open Directive

variable {doc : Document} {s : Site} {as : List Directive} {d : Directive} {f : Finding}

theorem site_sublist (hs : s ∈ doc.sites) : s.words.Sublist doc.words :=
  (sublist_flatMap Site.words hs).trans (List.sublist_append_right _ _)

theorem not_on_globals (h : Distinct doc.words) (hs : s ∈ doc.sites) (hf : f.On s.words) :
    ¬ f.On (doc.globals.elim [] fun g => wordsOf g.directives) := by
  intro hglobals
  refine hglobals.not_on h (hf.mono ?_)
  exact fun t ht => List.mem_flatMap.mpr ⟨s, hs, ht⟩

theorem eq_of_on_words (h : Distinct doc.words) {r : Site} (hr : r ∈ doc.sites)
    (hs : s ∈ doc.sites) (hfr : f.On r.words) (hfs : f.On s.words) : r = s :=
  Finding.On.eq_of_mem (List.pairwise_append.mp h).2.1 hr hs hfr hfs

theorem on_words_of_within (hd : Within s.directives as d) (hname : f.span = d.name.span) :
    f.On s.words :=
  ⟨d.name, List.mem_append_right _ hd.name_mem, hname⟩

theorem distinct_site (h : Distinct doc.words) (hs : s ∈ doc.sites) :
    Distinct (s.addresses ++ wordsOf s.directives) :=
  h.sublist (site_sublist hs)

theorem on_globals_of_mem {snippets : Array String}
    (hf : f ∈ doc.globals.elim [] (fun g => g.directives.flatMap (Review.ofGlobal snippets))) :
    f.On (doc.globals.elim [] fun g => wordsOf g.directives) := by
  cases hg : doc.globals with
  | none => simp [hg] at hf
  | some g =>
    rw [hg] at hf
    obtain ⟨e, he, hf⟩ := List.mem_flatMap.mp hf
    refine Review.on_wordsOf he ?_
    rcases Review.mem_ofGlobal hf with hname | hargs
    · exact Review.on_words_of_name hname
    · exact Review.on_words_of_args hargs

theorem warnings_name (h : Distinct doc.words) (hs : s ∈ doc.sites) (hd : Within s.directives as d)
    (hf : f ∈ doc.warnings) (hname : f.span = d.name.span) :
    ∃ names, (Cursor.contextOf as).names? = some names ∧ d.title ∉ names := by
  have hsite := on_words_of_within hd hname
  rcases List.mem_append.mp hf with hf | hf
  · exact absurd (on_globals_of_mem hf) (not_on_globals h hs hsite)
  · obtain ⟨r, hr, hf⟩ := List.mem_flatMap.mp hf
    have hon : f.On r.words :=
      (Review.on_words_ofDirectives hf).mono (List.subset_append_right _ _)
    obtain rfl := eq_of_on_words h hr hs hon hsite
    exact Review.ofDirectives_name (List.pairwise_append.mp (distinct_site h hs)).2.1 hd hf hname

theorem not_on_placeholderWords (h : Distinct doc.words) (hs : s ∈ doc.sites)
    (hd : Within s.directives as d) (hname : f.span = d.name.span) :
    ¬ f.On (Review.placeholderWords doc) := by
  rintro ⟨t, ht, hspan⟩
  have hsite := on_words_of_within hd hname
  rcases List.mem_append.mp ht with ht | ht
  · refine not_on_globals h hs hsite ⟨t, ?_, hspan⟩
    cases hg : doc.globals with
    | none => simp [hg] at ht
    | some g =>
      rw [hg] at ht
      exact (Review.argumentsOf_sublist g.directives).subset ht
  · obtain ⟨r, hr, ht⟩ := List.mem_flatMap.mp ht
    have hon : f.On r.words :=
      ⟨t, ((Review.argumentsOf_sublist r.directives).append_left r.addresses).subset ht, hspan⟩
    obtain rfl := eq_of_on_words h hr hs hon hsite
    have hdist := distinct_site h hs
    rcases List.mem_append.mp ht with haddress | hargument
    · exact Finding.On.not_on hdist ⟨t, haddress, hspan⟩ ⟨d.name, hd.name_mem, hname⟩
    · exact Review.not_on_argumentsOf (List.pairwise_append.mp hdist).2.1 hd hname
        ⟨t, hargument, hspan⟩

theorem review_name (h : Distinct doc.words) (hs : s ∈ doc.sites) (hd : Within s.directives as d)
    (hf : f ∈ doc.review) (hname : f.span = d.name.span) :
    ∃ names, (Cursor.contextOf as).names? = some names ∧ d.title ∉ names := by
  rcases List.mem_append.mp hf with hf | hf
  · exact warnings_name h hs hd hf hname
  · obtain ⟨t, ht, hf⟩ := List.mem_filterMap.mp hf
    obtain ⟨cause, _, rfl⟩ := Option.map_eq_some_iff.mp hf
    exact absurd ⟨t, ht, rfl⟩ (not_on_placeholderWords h hs hd hname)

/-! ## The lines of the blocks around a directive -/

variable {source : String}

theorem line_lt_of_sublist {t u : Token} (ht : Leads source t)
    (h : [u, t].Sublist (read source).document.words) : u.line < t.line := by
  have hlt : u.start < t.start := by
    have hpair := (words_read_pairwise source).sublist h
    exact (List.pairwise_cons.mp hpair).1 t (by simp)
  have hu : u ∈ (tokens source).dropLast :=
    (words_read_sublist source).subset (h.subset (by simp))
  exact line_lt_of_leads ht ((List.dropLast_sublist _).subset hu) (kind_ne_finish_of_mem hu) hlt

theorem contextAt_within (hs : s ∈ (read source).document.sites) (hd : Within s.directives as d)
    (hlead : Leads source d.name) (hsite : d.firstLine < s.lastLine)
    (has : ∀ a ∈ as, d.firstLine < a.lastLine) :
    (read source).document.contextAt source d.name.start = Cursor.contextOf as := by
  obtain ⟨last, hstacked⟩ := stacked_read source
  have hsencloses : s.encloses d.firstLine := by
    have hsub : [s.address, d.name].Sublist s.words :=
      (List.singleton_sublist.mpr (List.mem_cons_self ..)).append
        (List.singleton_sublist.mpr hd.name_mem)
    have hlt := line_lt_of_sublist hlead (hsub.trans (site_sublist hs))
    rw [Site.encloses_iff]
    exact ⟨hlt, hsite⟩
  have hencloses : ∀ a ∈ as, a.encloses d.firstLine := by
    intro a ha
    have hsub : [a.name, d.name].Sublist s.words :=
      (hd.ancestor_sublist a ha).trans (List.sublist_append_right _ _)
    have hlt := line_lt_of_sublist hlead (hsub.trans (site_sublist hs))
    rw [encloses_iff]
    exact ⟨hlt, has a ha⟩
  rw [contextAt_leads _ hlead]
  exact Cursor.onLine_within hstacked hs hd hsencloses hencloses

end Document

/-- Findings and suggestions agree on the name of every directive that leads its line, and whose
line is above the last lines of the blocks around it: a name that is suggested there has no finding,
and a name with a warning is not suggested though names are. -/
theorem review_agrees_with_cursor {source : String} {s : Site} {as : List Directive} {d : Directive}
    (hs : s ∈ (Document.read source).document.sites) (hd : Directive.Within s.directives as d)
    (hlead : Leads source d.name) (hsite : d.firstLine < s.lastLine)
    (has : ∀ a ∈ as, d.firstLine < a.lastLine) :
    (∀ names, ((Document.read source).document.contextAt source d.name.start).names? = some names →
        d.title ∈ names → ∀ f ∈ (Document.read source).document.review, f.span ≠ d.name.span) ∧
      ((∃ f ∈ (Document.read source).document.review,
          f.severity = .warning ∧ f.span = d.name.span) →
        ∃ names, ((Document.read source).document.contextAt source d.name.start).names? = some names ∧
          d.title ∉ names) := by
  have hdist : Distinct (Document.read source).document.words :=
    .of_lt (Document.words_read_pairwise source)
  rw [Document.contextAt_within hs hd hlead hsite has]
  constructor
  · intro names hnames hmem f hf hspan
    obtain ⟨names', hnames', hnot⟩ := Document.review_name hdist hs hd hf hspan
    obtain rfl : names = names' := Option.some.inj (hnames.symm.trans hnames')
    exact hnot hmem
  · rintro ⟨f, hf, _, hspan⟩
    exact Document.review_name hdist hs hd hf hspan

theorem unknown_name_not_suggested :
    ⟨.unknownDirective "foo", ⟨2, 2⟩, ⟨2, 5⟩⟩ ∈
        (Document.read "a \x7b\n\thandle \x7b\n\t\tfoo\n\t\x7d\n\x7d\n").document.review ∧
      ∃ names, ((Document.read "a \x7b\n\thandle \x7b\n\t\tfoo\n\t\x7d\n\x7d\n").document.contextAt
          "a \x7b\n\thandle \x7b\n\t\tfoo\n\t\x7d\n\x7d\n" ⟨2, 2⟩).names? = some names ∧
        "foo" ∉ names := by
  let foo : Directive := ⟨⟨.bare, "foo", ⟨2, 2⟩⟩, [], none, [], 2⟩
  let handle : Directive :=
    ⟨⟨.bare, "handle", ⟨1, 1⟩⟩, [], some ⟨.opening, "\x7b", ⟨1, 8⟩⟩, [foo], 3⟩
  let site : Site := ⟨⟨.bare, "a", ⟨0, 0⟩⟩, [], [handle], 4⟩
  have hsite : site ∈
      (Document.read "a \x7b\n\thandle \x7b\n\t\tfoo\n\t\x7d\n\x7d\n").document.sites := by
    decide +kernel
  have hfoo : Directive.Within site.directives [handle] foo :=
    .inside (List.mem_singleton.mpr rfl) (.here (List.mem_singleton.mpr rfl))
  have hlead : Leads "a \x7b\n\thandle \x7b\n\t\tfoo\n\t\x7d\n\x7d\n" foo.name :=
    ⟨"a \x7b\n\thandle \x7b\n".toList, ['\t', '\t'], "\n\t\x7d\n\x7d\n".toList,
      by decide +kernel, by decide +kernel, by simp, by decide +kernel⟩
  have hfound : ⟨.unknownDirective "foo", ⟨2, 2⟩, ⟨2, 5⟩⟩ ∈
      (Document.read "a \x7b\n\thandle \x7b\n\t\tfoo\n\t\x7d\n\x7d\n").document.review := by
    decide +kernel
  refine ⟨hfound, ?_⟩
  exact (review_agrees_with_cursor hsite hfoo hlead (by decide) (by decide)).2
    ⟨_, hfound, rfl, by decide +kernel⟩

end Caddyfile
