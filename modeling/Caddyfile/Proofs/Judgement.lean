import Caddyfile.Proofs.Scopes

/-!
# Names are judged by the blocks around them

`Inspected as names` says, from the directives `as` around a name alone, that a review looks at the
name, and which names are allowed there: those of a site below containers only, else those of the
last block. A directive has a warning on its name exactly if the name is not allowed (`Warned`), and
an import one on its target exactly if the target is a snippet that no site declares (`Dangling`).
-/

namespace Caddyfile

open Directive

/-- A site directive whose block takes exactly the names `allowed`. -/
structure TakesNames (a : Directive) (allowed : Array String) : Prop where
  site : a.title ∈ Vocabulary.siteDirectives
  not_container : a.title ∉ Vocabulary.containers
  not_import : a.title ≠ "import"
  body : Vocabulary.bodyOf a.title = .names allowed

/-- A subdirective that, with its first argument, takes exactly the names `allowed` in its block. -/
structure TakesNested (b : Directive) (allowed : Array String) : Prop where
  not_matcher : ¬ Review.isMatcher b.title
  not_import : b.title ≠ "import"
  body : ∃ arg, b.firstArg? = some arg ∧ Vocabulary.nestedNames? b.title arg = some allowed

def AllContainers (cs : List Directive) : Prop :=
  ∀ c ∈ cs, c.title ∈ Vocabulary.containers

/-- A review looks at the directives inside the blocks of `as`, the outermost first. They may have
the names given, or those of site directives if none are given. -/
inductive Inspected : List Directive → Option (Array String) → Prop where
  | site {cs : List Directive} (hcs : AllContainers cs) : Inspected cs none
  | block {cs : List Directive} {a : Directive} {allowed : Array String}
    (hcs : AllContainers cs) (ha : TakesNames a allowed) :
    Inspected (cs ++ [a]) (some allowed)
  | nested {cs : List Directive} {a b : Directive} {allowed names : Array String}
    (hcs : AllContainers cs) (ha : TakesNames a allowed)
    (hmem : b.title ∈ allowed) (hb : TakesNested b names) : Inspected (cs ++ [a, b]) (some names)

/-- The name of `d` is out of place inside the blocks of `as`. -/
def Warned (inSnippet : Bool) (as : List Directive) (d : Directive) : Prop :=
  ¬ Review.isMatcher d.title ∧
    (Inspected as none ∧ d.title ∉ Vocabulary.siteDirectives ∧
        ¬ (inSnippet ∧ (Vocabulary.home? d.title).isSome) ∨
      ∃ allowed, Inspected as (some allowed) ∧ d.title ≠ "import" ∧ d.title ∉ allowed)

/-- The word `t` is the target of the import `d`, and names a snippet that no site declares. -/
structure Dangling (doc : Document) (as : List Directive) (d : Directive) (t : Token) : Prop where
  title : d.title = "import"
  target : d.args.head? = some t
  inspected : ∃ names, Inspected as names
  not_file : ¬ Review.isFile t.value.toList
  not_placeholder : ¬ Review.isPlaceholder t.value.toList
  undeclared : ∀ s ∈ doc.sites, s.snippet? ≠ some t.value

theorem AllContainers.nil : AllContainers [] :=
  List.forall_mem_nil _

theorem AllContainers.cons {c : Directive} {cs : List Directive}
    (hc : c.title ∈ Vocabulary.containers) (hcs : AllContainers cs) : AllContainers (c :: cs) :=
  List.forall_mem_cons.mpr ⟨hc, hcs⟩

theorem Inspected.container {c : Directive} {as : List Directive} {names : Option (Array String)}
    (hc : c.title ∈ Vocabulary.containers) (h : Inspected as names) : Inspected (c :: as) names := by
  cases h with
  | site hcs => exact .site (AllContainers.cons hc hcs)
  | block hcs ha => exact .block (AllContainers.cons hc hcs) ha
  | nested hcs ha hmem hb => exact .nested (AllContainers.cons hc hcs) ha hmem hb

/-! ## The tables -/

namespace Vocabulary

theorem ascending_containers : containers.toList.Pairwise (· < ·) :=
  List.isChain_iff_pairwise.mp (by decide +kernel)

theorem not_isMatcher_of_mem {name : String} (h : name ∈ siteDirectives) :
    ¬ Review.isMatcher name := by
  have hall : siteDirectives.all fun n => !Review.isMatcher n := by decide +kernel
  simpa using Array.all_eq_true_iff_forall_mem.mp hall name h

theorem of_mem_containers {name : String} (h : name ∈ containers) :
    name ∈ siteDirectives ∧ name ≠ "import" := by
  have hall : containers.all fun n => n ∈ siteDirectives && n ≠ "import" := by decide +kernel
  simpa using Array.all_eq_true_iff_forall_mem.mp hall name h

theorem isSiteDirective_iff (name : String) : isSiteDirective name ↔ name ∈ siteDirectives :=
  Sorted.contains_iff_mem ascending_siteDirectives name

theorem isContainer_iff (name : String) : isContainer name ↔ name ∈ containers :=
  Sorted.contains_iff_mem ascending_containers name

end Vocabulary

namespace Review.Scope

/-! ## Scopes and the names they allow -/

def names? : Scope → Option (Array String)
  | site => none
  | block _ allowed => some allowed
  | nested _ _ allowed => some allowed

/-- Bisection finds the names that a scope allows. -/
def Ascending (scope : Scope) : Prop :=
  ∀ allowed, scope.names? = some allowed → allowed.toList.Pairwise (· < ·)

theorem enter_container {a : Directive} (hc : a.title ∈ Vocabulary.containers) :
    site.enter a = some site := by
  obtain ⟨hs, hi⟩ := Vocabulary.of_mem_containers hc
  have hm := Vocabulary.not_isMatcher_of_mem hs
  rw [← Vocabulary.isSiteDirective_iff] at hs
  rw [← Vocabulary.isContainer_iff] at hc
  simp [enter, hm, hs, hi, hc]

theorem enter_takesNames {a : Directive} {allowed : Array String} (ha : TakesNames a allowed) :
    site.enter a = some (block a.title allowed) := by
  obtain ⟨hs, hc, hi, hbody⟩ := ha
  have hm := Vocabulary.not_isMatcher_of_mem hs
  rw [← Vocabulary.isSiteDirective_iff] at hs
  rw [← Vocabulary.isContainer_iff] at hc
  simp [enter, hm, hs, hi, hc, hbody]

theorem of_enter_site {a : Directive} {inner : Scope} (h : site.enter a = some inner) :
    a.title ∈ Vocabulary.containers ∧ inner = site ∨
      ∃ allowed, TakesNames a allowed ∧ inner = block a.title allowed := by
  simp only [enter] at h
  split at h
  · cases h
  rename_i hnot
  simp only [Bool.or_eq_true, Bool.not_eq_true', decide_eq_true_eq, not_or,
    Bool.not_eq_false, Vocabulary.isSiteDirective_iff] at hnot
  obtain ⟨⟨_, hs⟩, hi⟩ := hnot
  split at h
  · rename_i hc
    exact .inl ⟨(Vocabulary.isContainer_iff _).mp hc, (Option.some.inj h).symm⟩
  rename_i hc
  rw [Vocabulary.isContainer_iff] at hc
  split at h
  · rename_i allowed hbody
    exact .inr ⟨allowed, ⟨hs, hc, hi, hbody⟩, (Option.some.inj h).symm⟩
  · cases h
  · cases h

section
variable (parent : String) {allowed : Array String} (hasc : allowed.toList.Pairwise (· < ·))
include hasc

theorem enter_takesNested {b : Directive} {names : Array String} (hmem : b.title ∈ allowed)
    (hb : TakesNested b names) :
    ∃ sub, (block parent allowed).enter b = some (nested parent sub names) := by
  obtain ⟨hm, hi, arg, harg, hnames⟩ := hb
  rw [← Sorted.contains_iff_mem hasc] at hmem
  simp [enter, hm, hi, hmem, harg, hnames]

theorem of_enter_block {b : Directive} {inner : Scope}
    (h : (block parent allowed).enter b = some inner) :
    b.title ∈ allowed ∧ ∃ sub names, TakesNested b names ∧ inner = nested parent sub names := by
  simp only [enter] at h
  split at h
  · cases h
  rename_i hnot
  simp only [Bool.or_eq_true, decide_eq_true_eq, Bool.not_eq_true', not_or,
    Bool.not_eq_false, Sorted.contains_iff_mem hasc] at hnot
  obtain ⟨⟨hm, hi⟩, hmem⟩ := hnot
  split at h
  · cases h
  rename_i arg harg
  obtain ⟨names, hnames, rfl⟩ := Option.map_eq_some_iff.mp h
  exact ⟨hmem, _, names, ⟨hm, hi, arg, harg, hnames⟩, rfl⟩

end

/-! ## The scope inside the blocks of a path -/

theorem along_append (scope : Scope) (as bs : List Directive) :
    scope.along (as ++ bs) = (scope.along as).bind (·.along bs) := by
  induction as generalizing scope with
  | nil => rfl
  | cons a as ih =>
    simp only [List.cons_append, along]
    cases scope.enter a with
    | none => rfl
    | some inner => exact ih inner

theorem along_containers {cs : List Directive} (hcs : AllContainers cs) :
    site.along cs = some site := by
  induction cs with
  | nil => rfl
  | cons c cs ih =>
    obtain ⟨hc, hcs⟩ := List.forall_mem_cons.mp hcs
    rw [along, enter_container hc, Option.bind_some, ih hcs]

theorem along_of_inspected {as : List Directive} {names : Option (Array String)}
    (h : Inspected as names) : ∃ scope, site.along as = some scope ∧ scope.names? = names := by
  cases h with
  | site hcs => exact ⟨site, along_containers hcs, rfl⟩
  | @block cs a allowed hcs ha =>
    refine ⟨block a.title allowed, ?_, rfl⟩
    simp [along_append, along_containers hcs, along, enter_takesNames ha]
  | @nested cs a b allowed names hcs ha hmem hb =>
    have hasc := Vocabulary.ascending_of_bodyOf ha.body
    obtain ⟨sub, henter⟩ := enter_takesNested a.title hasc hmem hb
    refine ⟨nested a.title sub names, ?_, rfl⟩
    simp [along_append, along_containers hcs, along, enter_takesNames ha, henter]

theorem inspected_of_along {as : List Directive} {scope : Scope} (h : site.along as = some scope) :
    Inspected as scope.names? ∧ scope.Ascending := by
  induction as with
  | nil =>
    obtain rfl := Option.some.inj h
    exact ⟨.site .nil, by simp [Ascending, names?]⟩
  | cons a as ih =>
    obtain ⟨inner, henter, h⟩ := Option.bind_eq_some_iff.mp h
    rcases of_enter_site henter with ⟨hc, rfl⟩ | ⟨allowed, ha, rfl⟩
    · exact ⟨.container hc (ih h).1, (ih h).2⟩
    -- Below a block that takes names, a review looks at one more block at most.
    have hasc := Vocabulary.ascending_of_bodyOf ha.body
    cases as with
    | nil =>
      obtain rfl := Option.some.inj h
      exact ⟨.block .nil ha, by simpa [Ascending, names?] using hasc⟩
    | cons b bs =>
      obtain ⟨inner, henter, h⟩ := Option.bind_eq_some_iff.mp h
      obtain ⟨hmem, sub, names, hb, rfl⟩ := of_enter_block _ hasc henter
      cases bs with
      | nil =>
        obtain rfl := Option.some.inj h
        obtain ⟨arg, _, hnames⟩ := hb.body
        have hasc' := Vocabulary.ascending_of_nestedNames hnames
        exact ⟨.nested .nil ha hmem hb, by simpa [Ascending, names?] using hasc'⟩
      | cons c bs => cases h

/-! ## The names that a scope objects to -/

theorem cause?_eq_none_iff (inSnippet : Bool) (name : String) {scope : Scope}
    (hasc : scope.Ascending) : scope.cause? inSnippet name = none ↔ isMatcher name ∨
      scope.names?.elim (name ∈ Vocabulary.siteDirectives ∨
          inSnippet ∧ (Vocabulary.home? name).isSome)
        fun allowed => name = "import" ∨ name ∈ allowed := by
  cases scope with
  | site =>
    simp only [cause?, names?, Option.elim_none, ← Vocabulary.isSiteDirective_iff]
    by_cases hm : isMatcher name
    · simp [hm]
    by_cases hs : Vocabulary.isSiteDirective name
    · simp [hs]
    cases Vocabulary.home? name with
    | none => simp [hm, hs]
    | some home => cases inSnippet <;> simp [hm, hs]
  | block parent allowed =>
    simp only [cause?, names?, Option.elim_some, ← Sorted.contains_iff_mem (hasc allowed rfl)]
    split
    · rename_i hok
      simpa [or_assoc] using hok
    · rename_i hbad
      cases Vocabulary.home? name <;> simpa [or_assoc] using hbad
  | nested parent sub allowed =>
    simp only [cause?, names?, Option.elim_some, ← Sorted.contains_iff_mem (hasc allowed rfl)]
    split
    · rename_i hok
      simpa [or_assoc] using hok
    · rename_i hbad
      simpa [or_assoc] using hbad

end Review.Scope

open Review

theorem inspected_iff {as : List Directive} {names : Option (Array String)} :
    Inspected as names ↔ ∃ scope, Scope.site.along as = some scope ∧ scope.names? = names := by
  constructor
  · exact Scope.along_of_inspected
  · rintro ⟨scope, halong, rfl⟩
    exact (Scope.inspected_of_along halong).1

theorem warned_iff {inSnippet : Bool} {as : List Directive} {d : Directive} :
    Warned inSnippet as d ↔
      ((Scope.site.along as).bind (·.cause? inSnippet d.title)).isSome := by
  unfold Warned
  cases halong : Scope.site.along as with
  | none => simp [inspected_iff, halong]
  | some scope =>
    have hcause := Scope.cause?_eq_none_iff inSnippet d.title (Scope.inspected_of_along halong).2
    simp only [inspected_iff, halong, Option.bind_some, Option.isSome_iff_ne_none, ne_eq, hcause]
    cases hnames : scope.names? with
    | none => simp [hnames]
    | some allowed => simp [hnames]

/-! ## The snippets of a document -/

theorem mem_insertName {name n : String} {ns : List String} :
    n ∈ insertName name ns ↔ n = name ∨ n ∈ ns := by
  fun_induction insertName name ns with
  | case1 => simp
  | case2 => simp
  | case3 ns _ => simp
  | case4 m ns _ _ ih =>
    simp only [List.mem_cons, ih]
    exact or_left_comm

theorem pairwise_insertName {name : String} {ns : List String} (h : ns.Pairwise (· < ·)) :
    (insertName name ns).Pairwise (· < ·) := by
  fun_induction insertName name ns with
  | case1 => exact List.pairwise_singleton _ _
  | case2 m ns hlt =>
    refine List.pairwise_cons.mpr ⟨?_, h⟩
    intro k hk
    rcases List.mem_cons.mp hk with rfl | hk
    · exact hlt
    · exact String.lt_trans hlt ((List.pairwise_cons.mp h).1 k hk)
  | case3 => exact h
  | case4 m ns hlt hne ih =>
    obtain ⟨hm, hns⟩ := List.pairwise_cons.mp h
    refine List.pairwise_cons.mpr ⟨?_, ih hns⟩
    intro k hk
    rcases mem_insertName.mp hk with rfl | hk
    · exact Std.lt_of_le_of_ne hlt (Ne.symm hne)
    · exact hm k hk

theorem pairwise_snippetNames (doc : Document) : doc.snippetNames.Pairwise (· < ·) := by
  unfold Document.snippetNames
  induction doc.sites.filterMap Site.snippet? with
  | nil => exact .nil
  | cons n ns ih => exact pairwise_insertName ih

theorem mem_snippetNames {doc : Document} {name : String} :
    name ∈ doc.snippetNames ↔ ∃ s ∈ doc.sites, s.snippet? = some name := by
  unfold Document.snippetNames
  rw [← List.mem_filterMap]
  induction doc.sites.filterMap Site.snippet? with
  | nil => rfl
  | cons n ns ih => rw [List.foldr_cons, mem_insertName, ih, List.mem_cons]

theorem contains_snippetNames (doc : Document) (name : String) :
    Sorted.contains doc.snippetNames.toArray name ↔ ∃ s ∈ doc.sites, s.snippet? = some name := by
  have hasc : doc.snippetNames.toArray.toList.Pairwise (· < ·) := pairwise_snippetNames doc
  rw [Sorted.contains_iff_mem hasc, List.mem_toArray, mem_snippetNames]

/-! ## The judgement -/

theorem ofImport_eq_of_dangling {doc : Document} {as : List Directive} {d : Directive} {t : Token}
    (h : Dangling doc as d t) :
    ofImport doc.snippetNames.toArray d = [⟨.undefinedSnippet t.value, t.span⟩] := by
  obtain ⟨args, hargs⟩ := List.head?_eq_some_iff.mp h.target
  have hnot : ¬ Sorted.contains doc.snippetNames.toArray t.value := by
    rw [contains_snippetNames]
    rintro ⟨s, hs, hsnippet⟩
    exact h.undeclared s hs hsnippet
  simp [ofImport, hargs, h.not_file, h.not_placeholder, hnot]

theorem ofImport_eq_nil_of_not_dangling {doc : Document} {as : List Directive} {d : Directive}
    {t : Token} (htitle : d.title = "import") (htarget : d.args.head? = some t)
    (hin : ∃ names, Inspected as names) (h : ¬ Dangling doc as d t) :
    ofImport doc.snippetNames.toArray d = [] := by
  obtain ⟨args, hargs⟩ := List.head?_eq_some_iff.mp htarget
  by_cases hfile : isFile t.value.toList
  · simp [ofImport, hargs, hfile]
  by_cases hplaceholder : isPlaceholder t.value.toList
  · simp [ofImport, hargs, hplaceholder]
  by_cases hc : Sorted.contains doc.snippetNames.toArray t.value
  · simp [ofImport, hargs, hc]
  refine absurd ⟨htitle, htarget, hin, hfile, hplaceholder, fun s hs hsnippet => hc ?_⟩ h
  exact (contains_snippetNames doc _).mpr ⟨s, hs, hsnippet⟩

/-- A directive in a site has one warning on its name if the name is out of place inside the blocks
around it, and none if not. An argument of a directive has a warning, one on a missing snippet, if it
is the target of an import that nothing declares, and none if not. -/
theorem warnings_by_path {source : String} {s : Site} {as : List Directive} {d : Directive}
    (hs : s ∈ (Document.read source).document.sites) (hd : Within s.directives as d) :
    (Warned s.isSnippet as d → ∃ cause, (Document.read source).document.warningsOn d.name =
        [⟨cause, d.name.span⟩]) ∧
      (¬ Warned s.isSnippet as d → (Document.read source).document.warningsOn d.name = []) ∧
      ∀ t ∈ d.args,
        (Dangling (Document.read source).document as d t →
          (Document.read source).document.warningsOn t = [⟨.undefinedSnippet t.value, t.span⟩]) ∧
        (¬ Dangling (Document.read source).document as d t →
          (Document.read source).document.warningsOn t = []) := by
  have hdist : Distinct (Document.read source).document.words :=
    .of_lt (Document.words_read_pairwise source)
  rw [Document.warningsOn_name hdist hs hd, warned_iff]
  refine ⟨?_, ?_, ?_⟩
  · intro h
    obtain ⟨cause, hcause⟩ := Option.isSome_iff_exists.mp h
    exact ⟨cause, by simp [hcause]⟩
  · intro h
    simp [Option.not_isSome_iff_eq_none.mp h]
  · intro t ht
    rw [Document.warningsOn_arg hdist hs hd ht]
    constructor
    · intro h
      obtain ⟨names, hin⟩ := h.inspected
      obtain ⟨scope, halong, _⟩ := inspected_iff.mp hin
      rw [if_pos ⟨by simp [halong], h.title, h.target⟩]
      exact ofImport_eq_of_dangling h
    · intro h
      split
      · rename_i hwhere
        obtain ⟨halong, htitle, htarget⟩ := hwhere
        obtain ⟨scope, halong⟩ := Option.isSome_iff_exists.mp halong
        have hin : ∃ names, Inspected as names := ⟨_, inspected_iff.mpr ⟨scope, halong, rfl⟩⟩
        exact ofImport_eq_nil_of_not_dangling htitle htarget hin h
      · rfl

theorem warnings_below_transport :
    let source := "a \x7b\nreverse_proxy \x7b\ntransport http \x7b\nbogus\nimport lost\n"
      ++ "\x7d\n\x7d\n\x7d\n"
    (∃ cause, (Document.read source).document.warningsOn ⟨.bare, "bogus", ⟨3, 0⟩⟩ =
        [⟨cause, ⟨3, 0⟩, ⟨3, 5⟩⟩]) ∧
      (Document.read source).document.warningsOn ⟨.bare, "lost", ⟨4, 7⟩⟩ =
        [⟨.undefinedSnippet "lost", ⟨4, 7⟩, ⟨4, 11⟩⟩] := by
  intro source
  let lost : Token := ⟨.bare, "lost", ⟨4, 7⟩⟩
  let bogus : Directive := ⟨⟨.bare, "bogus", ⟨3, 0⟩⟩, [], none, [], 3⟩
  let missing : Directive := ⟨⟨.bare, "import", ⟨4, 0⟩⟩, [lost], none, [], 4⟩
  let transport : Directive := ⟨⟨.bare, "transport", ⟨2, 0⟩⟩, [⟨.bare, "http", ⟨2, 10⟩⟩],
    some ⟨.opening, "\x7b", ⟨2, 15⟩⟩, [bogus, missing], 5⟩
  let proxy : Directive := ⟨⟨.bare, "reverse_proxy", ⟨1, 0⟩⟩, [],
    some ⟨.opening, "\x7b", ⟨1, 14⟩⟩, [transport], 6⟩
  let site : Site := ⟨⟨.bare, "a", ⟨0, 0⟩⟩, [], [proxy], 7⟩
  have hsite : site ∈ (Document.read source).document.sites := by decide +kernel
  have hwithin : ∀ d ∈ transport.body, Within site.directives [proxy, transport] d := by
    intro d hd
    exact .inside (.head _) (.inside (.head _) (.here hd))
  have hwarned : Warned site.isSnippet [proxy, transport] bogus :=
    warned_iff.mpr (by decide +kernel)
  obtain ⟨scope, halong⟩ : ∃ scope, Scope.site.along [proxy, transport] = some scope :=
    Option.isSome_iff_exists.mp (by decide +kernel)
  have hdangling : Dangling (Document.read source).document [proxy, transport] missing lost :=
    ⟨by decide +kernel, rfl, ⟨_, inspected_iff.mpr ⟨scope, halong, rfl⟩⟩, by decide +kernel,
      by decide +kernel, by decide +kernel⟩
  have hbogus : bogus.name.span = ⟨⟨3, 0⟩, ⟨3, 5⟩⟩ := by decide +kernel
  have hlost : lost.value = "lost" ∧ lost.span = ⟨⟨4, 7⟩, ⟨4, 11⟩⟩ := by decide +kernel
  have hname := (warnings_by_path hsite (hwithin bogus (.head _))).1 hwarned
  have harg := (warnings_by_path hsite (hwithin missing (.tail _ (.head _)))).2.2 lost (.head _)
  rw [hbogus] at hname
  rw [hlost.1, hlost.2] at harg
  exact ⟨hname, harg.1 hdangling⟩

end Caddyfile
