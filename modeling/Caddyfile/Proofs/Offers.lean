import Caddyfile.Proofs.Judgement

/-!
# The names that are suggested and the names that are judged

Where names are suggested, a review judges what stands there by the same names, as long as it looks
that far. It does not look `Beyond` a subdirective that is out of place, nor into the blocks inside
a subdirective. Suggestions go on there.
-/

namespace Caddyfile

open Directive Review

/-- The blocks of `as` lead beyond what a review looks at. -/
inductive Beyond : List Directive → Prop where
  | misplaced {cs below : List Directive} {a b : Directive} {allowed : Array String}
    (hcs : AllContainers cs) (ha : TakesNames a allowed) (hb : b.title ∉ allowed) :
    Beyond (cs ++ a :: b :: below)
  | deep {cs below : List Directive} {a b c : Directive} {allowed : Array String}
    (hcs : AllContainers cs) (ha : TakesNames a allowed) : Beyond (cs ++ a :: b :: c :: below)

theorem Beyond.container {c : Directive} {as : List Directive}
    (hc : c.title ∈ Vocabulary.containers) (h : Beyond as) : Beyond (c :: as) := by
  cases h with
  | misplaced hcs ha hb => exact .misplaced (AllContainers.cons hc hcs) ha hb
  | deep hcs ha => exact .deep (AllContainers.cons hc hcs) ha

/-! ## The tables -/

namespace Vocabulary

theorem of_bodyOf_names {name : String} {allowed : Array String}
    (h : bodyOf name = .names allowed) : name ∈ siteDirectives ∧ name ≠ "import" := by
  have hall : bodies.all fun entry => entry.1 ∈ siteDirectives && entry.1 ≠ "import" := by
    decide +kernel
  unfold bodyOf at h
  cases hl : Sorted.lookup bodies name with
  | none => simp [hl] at h
  | some body =>
    simpa using Array.all_eq_true_iff_forall_mem.mp hall _ (Sorted.mem_of_lookup hl)

theorem of_nestedNames {name arg : String} {nested : Array String}
    (h : nestedNames? name arg = some nested) : ¬ isMatcher name ∧ name ≠ "import" := by
  have hall : nestedBodies.all fun entry =>
      !isMatcher entry.1.name && entry.1.name ≠ "import" := by
    decide +kernel
  unfold nestedNames? at h
  simpa using Array.all_eq_true_iff_forall_mem.mp hall _ (Sorted.mem_of_lookup h)

end Vocabulary

/-! ## Where names are suggested -/

theorem takesNested_of_suggested {b : Directive} {names : Array String}
    (h : (Cursor.inSubdirective b).names? = some names) : TakesNested b names := by
  unfold Cursor.inSubdirective at h
  cases harg : b.firstArg? with
  | none => simp [harg, Cursor.Context.names?] at h
  | some arg =>
    cases hnested : Vocabulary.nestedNames? b.title arg with
    | none => simp [harg, hnested, Cursor.Context.names?] at h
    | some nested =>
      obtain rfl : nested = names := by simpa [harg, hnested, Cursor.Context.names?] using h
      obtain ⟨hmatcher, himport⟩ := Vocabulary.of_nestedNames hnested
      exact ⟨hmatcher, himport, arg, harg, hnested⟩

/-- Names are suggested in blocks that a review looks at, and they are those it allows there, or
else in blocks beyond. -/
theorem inspected_or_beyond {as : List Directive} {names : Array String}
    (h : (Cursor.contextOf as).names? = some names) :
    Inspected as none ∧ names = Vocabulary.siteDirectives ∨ Inspected as (some names) ∨
      Beyond as := by
  induction as with
  | nil => exact .inl ⟨.site .nil, (Option.some.inj h).symm⟩
  | cons a as ih =>
    unfold Cursor.contextOf at h
    by_cases hc : Vocabulary.isContainer a.title
    · rw [if_pos hc] at h
      rw [Vocabulary.isContainer_iff] at hc
      rcases ih h with ⟨hin, hnames⟩ | hin | hbeyond
      · exact .inl ⟨hin.container hc, hnames⟩
      · exact .inr (.inl (hin.container hc))
      · exact .inr (.inr (hbeyond.container hc))
    rw [if_neg hc] at h
    cases hbody : Vocabulary.bodyOf a.title with
    | unmodeled | freeform => simp [hbody, Cursor.Context.names?] at h
    | names allowed =>
      obtain ⟨hsite, himport⟩ := Vocabulary.of_bodyOf_names hbody
      have ha : TakesNames a allowed :=
        ⟨hsite, by rwa [Vocabulary.isContainer_iff] at hc, himport, hbody⟩
      rw [hbody] at h
      cases as with
      | nil =>
        obtain rfl := Option.some.inj h
        exact .inr (.inl (.block .nil ha))
      | cons b bs =>
        -- only `b` decides what is suggested, however deep the cursor is inside its block
        have hb : TakesNested b names := takesNested_of_suggested h
        by_cases hmem : b.title ∈ allowed
        · cases bs with
          | nil => exact .inr (.inl (.nested .nil ha hmem hb))
          | cons c bs => exact .inr (.inr (.deep .nil ha))
        · exact .inr (.inr (.misplaced .nil ha hmem))

theorem along_of_beyond {as : List Directive} (h : Beyond as) : Scope.site.along as = none := by
  cases h with
  | @misplaced cs below a b allowed hcs ha hb =>
    have hasc := Vocabulary.ascending_of_bodyOf ha.body
    have henter : (Scope.block a.title allowed).enter b = none := by
      rw [Option.eq_none_iff_forall_ne_some]
      intro inner henter
      exact hb (Scope.of_enter_block _ hasc henter).1
    simp [Scope.along_append, Scope.along_containers hcs, Scope.along, Scope.enter_takesNames ha,
      henter]
  | @deep cs below a b c allowed hcs ha =>
    have hasc := Vocabulary.ascending_of_bodyOf ha.body
    have halong : (Scope.block a.title allowed).along (b :: c :: below) = none := by
      unfold Scope.along
      cases henter : (Scope.block a.title allowed).enter b with
      | none => rfl
      | some inner =>
        obtain ⟨_, sub, names, _, rfl⟩ := Scope.of_enter_block _ hasc henter
        rfl
    rw [Scope.along_append, Scope.along_containers hcs, Option.bind_some, Scope.along,
      Scope.enter_takesNames ha, Option.bind_some, halong]

/-! ## The judgement -/

/-- In a site that is no snippet, names are suggested where `d` leads its line, above the last lines
of the blocks around it. The name of `d` is not one of them, nor one that every block takes. -/
structure NotSuggested (source : String) (s : Site) (as : List Directive) (d : Directive) :
    Prop where
  site : s ∈ (Document.read source).document.sites
  not_snippet : ¬ s.isSnippet
  within : Within s.directives as d
  leads : Leads source d.name
  above_site : d.firstLine < s.lastLine
  above : ∀ a ∈ as, d.firstLine < a.lastLine
  suggested : ∃ names ∈ ((Document.read source).document.contextAt source d.name.start).names?,
    d.title ∉ names
  not_import : d.title ≠ "import"
  not_matcher : ¬ isMatcher d.title

section
variable {source : String} {s : Site} {as : List Directive} {d : Directive}

/-- What is suggested can be told from the blocks around `d`. -/
theorem NotSuggested.of_contextOf (hs : s ∈ (Document.read source).document.sites)
    (hsnippet : ¬ s.isSnippet) (hd : Within s.directives as d) (hlead : Leads source d.name)
    (hsite : d.firstLine < s.lastLine) (has : ∀ a ∈ as, d.firstLine < a.lastLine)
    (hnames : ∃ names ∈ (Cursor.contextOf as).names?, d.title ∉ names)
    (himport : d.title ≠ "import") (hmatcher : ¬ isMatcher d.title) :
    NotSuggested source s as d := by
  refine ⟨hs, hsnippet, hd, hlead, hsite, has, ?_, himport, hmatcher⟩
  rwa [Document.contextAt_within hs hd hlead hsite has]

theorem warned_of_notSuggested (h : NotSuggested source s as d) (has : ¬ Beyond as) :
    Warned s.isSnippet as d := by
  obtain ⟨names, hnames, hnot⟩ := h.suggested
  rw [Document.contextAt_within h.site h.within h.leads h.above_site h.above] at hnames
  refine ⟨h.not_matcher, ?_⟩
  rcases inspected_or_beyond hnames with ⟨hin, rfl⟩ | hin | hbeyond
  · exact .inl ⟨hin, hnot, fun hsnippet => h.not_snippet hsnippet.1⟩
  · exact .inr ⟨names, hin, h.not_import, hnot⟩
  · exact absurd hbeyond has

theorem warningsOn_eq_nil (hs : s ∈ (Document.read source).document.sites)
    (hd : Within s.directives as d) (has : Scope.site.along as = none) :
    (Document.read source).document.warningsOn d.name = [] := by
  rw [Document.warningsOn_name (.of_lt (Document.words_read_pairwise source)) hs hd, has]
  rfl

end

/-- A name that is not suggested though others are has one warning, unless it lies beyond what a
review looks at. There it has none. -/
theorem warned_unless_beyond {source : String} {s : Site} {as : List Directive} {d : Directive}
    (h : NotSuggested source s as d) :
    (¬ Beyond as → ∃ cause, (Document.read source).document.warningsOn d.name =
        [⟨cause, d.name.span⟩]) ∧
      (Beyond as → (Document.read source).document.warningsOn d.name = []) := by
  constructor
  · intro has
    have hdist : Distinct (Document.read source).document.words :=
      .of_lt (Document.words_read_pairwise source)
    have hwarned := warned_iff.mp (warned_of_notSuggested h has)
    obtain ⟨cause, hcause⟩ := Option.isSome_iff_exists.mp hwarned
    exact ⟨cause, by simp [Document.warningsOn_name hdist h.site h.within, hcause]⟩
  · intro has
    exact warningsOn_eq_nil h.site h.within (along_of_beyond has)

theorem warned_in_transport :
    let source := "a \x7b\n\treverse_proxy \x7b\n\t\ttransport http \x7b\n\t\t\tfoo\n" ++
      "\t\t\x7d\n\t\x7d\n\x7d\n"
    ∃ cause, (Document.read source).document.warningsOn ⟨.bare, "foo", ⟨3, 3⟩⟩ =
      [⟨cause, ⟨3, 3⟩, ⟨3, 6⟩⟩] := by
  intro source
  let foo : Directive := ⟨⟨.bare, "foo", ⟨3, 3⟩⟩, [], none, [], 3⟩
  let transport : Directive := ⟨⟨.bare, "transport", ⟨2, 2⟩⟩, [⟨.bare, "http", ⟨2, 12⟩⟩],
    some ⟨.opening, "\x7b", ⟨2, 17⟩⟩, [foo], 4⟩
  let proxy : Directive := ⟨⟨.bare, "reverse_proxy", ⟨1, 1⟩⟩, [],
    some ⟨.opening, "\x7b", ⟨1, 15⟩⟩, [transport], 5⟩
  let site : Site := ⟨⟨.bare, "a", ⟨0, 0⟩⟩, [], [proxy], 6⟩
  have hfoo : Within site.directives [proxy, transport] foo :=
    .inside (.head _) (.inside (.head _) (.here (.head _)))
  have hlead : Leads source foo.name :=
    ⟨"a \x7b\n\treverse_proxy \x7b\n\t\ttransport http \x7b\n".toList, ['\t', '\t', '\t'],
      "\n\t\t\x7d\n\t\x7d\n\x7d\n".toList, by decide +kernel, by decide +kernel, by simp,
      by decide +kernel⟩
  have hnot : NotSuggested source site [proxy, transport] foo :=
    .of_contextOf (by decide +kernel) (by decide +kernel) hfoo hlead (by decide) (by decide)
      (by decide +kernel) (by decide +kernel) (by decide +kernel)
  have halong : (Scope.site.along [proxy, transport]).isSome := by decide +kernel
  have hbeyond : ¬ Beyond [proxy, transport] := by
    intro hbeyond
    simp [along_of_beyond hbeyond] at halong
  have hspan : foo.name.span = ⟨⟨3, 3⟩, ⟨3, 6⟩⟩ := by decide +kernel
  have hwarned := (warned_unless_beyond hnot).1 hbeyond
  rwa [hspan] at hwarned

/-- Names are suggested in every block inside `transport http`, and inside a `transport http` that
is out of place. Other names have no warning there. -/
theorem unjudged_beyond :
    let deep := "a \x7b\nreverse_proxy \x7b\ntransport http \x7b\ntls \x7b\nfoo\n" ++
      "\x7d\n\x7d\n\x7d\n\x7d\n"
    let misplaced := "a \x7b\nencode \x7b\ntransport http \x7b\nfoo\n\x7d\n\x7d\n\x7d\n"
    ∀ source ∈ [deep, misplaced], ∃ s as d, NotSuggested source s as d ∧
      (Document.read source).document.warningsOn d.name = [] := by
  intro deep misplaced
  refine List.forall_mem_cons.mpr ⟨?_, List.forall_mem_singleton.mpr ?_⟩
  · let foo : Directive := ⟨⟨.bare, "foo", ⟨4, 0⟩⟩, [], none, [], 4⟩
    let tls : Directive := ⟨⟨.bare, "tls", ⟨3, 0⟩⟩, [], some ⟨.opening, "\x7b", ⟨3, 4⟩⟩, [foo], 5⟩
    let transport : Directive := ⟨⟨.bare, "transport", ⟨2, 0⟩⟩, [⟨.bare, "http", ⟨2, 10⟩⟩],
      some ⟨.opening, "\x7b", ⟨2, 15⟩⟩, [tls], 6⟩
    let proxy : Directive := ⟨⟨.bare, "reverse_proxy", ⟨1, 0⟩⟩, [],
      some ⟨.opening, "\x7b", ⟨1, 14⟩⟩, [transport], 7⟩
    let site : Site := ⟨⟨.bare, "a", ⟨0, 0⟩⟩, [], [proxy], 8⟩
    have hsite : site ∈ (Document.read deep).document.sites := by decide +kernel
    have hfoo : Within site.directives [proxy, transport, tls] foo :=
      .inside (.head _) (.inside (.head _) (.inside (.head _) (.here (.head _))))
    have hlead : Leads deep foo.name :=
      ⟨"a \x7b\nreverse_proxy \x7b\ntransport http \x7b\ntls \x7b\n".toList, [],
        "\n\x7d\n\x7d\n\x7d\n\x7d\n".toList, by decide +kernel, by decide +kernel, by simp,
        by decide +kernel⟩
    have hnot : NotSuggested deep site [proxy, transport, tls] foo :=
      .of_contextOf hsite (by decide +kernel) hfoo hlead (by decide) (by decide)
        (by decide +kernel) (by decide +kernel) (by decide +kernel)
    exact ⟨site, _, foo, hnot, warningsOn_eq_nil hsite hfoo (by decide +kernel)⟩
  · let foo : Directive := ⟨⟨.bare, "foo", ⟨3, 0⟩⟩, [], none, [], 3⟩
    let transport : Directive := ⟨⟨.bare, "transport", ⟨2, 0⟩⟩, [⟨.bare, "http", ⟨2, 10⟩⟩],
      some ⟨.opening, "\x7b", ⟨2, 15⟩⟩, [foo], 4⟩
    let encode : Directive := ⟨⟨.bare, "encode", ⟨1, 0⟩⟩, [],
      some ⟨.opening, "\x7b", ⟨1, 7⟩⟩, [transport], 5⟩
    let site : Site := ⟨⟨.bare, "a", ⟨0, 0⟩⟩, [], [encode], 6⟩
    have hsite : site ∈ (Document.read misplaced).document.sites := by decide +kernel
    have hfoo : Within site.directives [encode, transport] foo :=
      .inside (.head _) (.inside (.head _) (.here (.head _)))
    have hlead : Leads misplaced foo.name :=
      ⟨"a \x7b\nencode \x7b\ntransport http \x7b\n".toList, [], "\n\x7d\n\x7d\n\x7d\n".toList,
        by decide +kernel, by decide +kernel, by simp, by decide +kernel⟩
    have hnot : NotSuggested misplaced site [encode, transport] foo :=
      .of_contextOf hsite (by decide +kernel) hfoo hlead (by decide) (by decide)
        (by decide +kernel) (by decide +kernel) (by decide +kernel)
    exact ⟨site, _, foo, hnot, warningsOn_eq_nil hsite hfoo (by decide +kernel)⟩

end Caddyfile
