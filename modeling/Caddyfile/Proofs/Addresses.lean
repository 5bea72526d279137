import Caddyfile.Proofs.Chains

/-!
# Lines of addresses

The addresses of a site may go on over several lines, while the site counts as begun below the first
of them. On a further line of addresses that lies above the end of the block, directives are offered
as if the block had been opened; on every other line of addresses nothing is (`context_on_address`).
-/

namespace Caddyfile

namespace Document

variable {source : String} {s : Site} {a : Token}

/-! ## The order of words by lines -/

theorem words_read_lines (source : String) :
    (read source).document.words.Pairwise fun t u => t.line ≤ u.line := by
  refine (words_read_pairwise source).imp fun h => ?_
  rw [Position.lt_iff] at h
  unfold Token.line
  omega

theorem firstLine_le_address (hs : s ∈ (read source).document.sites) (ha : a ∈ s.addresses) :
    s.firstLine ≤ a.line := by
  have hpair := (words_read_lines source).sublist (site_sublist hs)
  rcases List.mem_cons.mp ha with rfl | hother
  · exact Nat.le_refl _
  · exact (List.pairwise_cons.mp hpair).1 a (List.mem_append_left _ hother)

theorem address_le_directive (hs : s ∈ (read source).document.sites) (ha : a ∈ s.addresses) :
    ∀ d ∈ s.directives, a.line ≤ d.firstLine := by
  intro d hd
  have hpair := (words_read_lines source).sublist (site_sublist hs)
  exact (List.pairwise_append.mp hpair).2.2 a ha d.name (Directive.Within.here hd).name_mem

theorem address_le_later {before later : List Site}
    (hsites : (read source).document.sites = before ++ s :: later) (ha : a ∈ s.addresses) :
    ∀ r ∈ later, a.line ≤ r.firstLine := by
  intro r hr
  have hsub : (s.words ++ later.flatMap Site.words).Sublist (read source).document.words := by
    rw [words, hsites, List.flatMap_append, List.flatMap_cons]
    exact (List.sublist_append_right _ _).trans (List.sublist_append_right _ _)
  have hpair := (words_read_lines source).sublist hsub
  refine (List.pairwise_append.mp hpair).2.2 a (List.mem_append_left _ ha) r.address ?_
  exact List.mem_flatMap.mpr ⟨r, hr, List.mem_append_left _ (List.mem_cons_self ..)⟩

/-! ## The cursor on such a line -/

theorem not_encloses_address (hs : s ∈ (read source).document.sites) (ha : a ∈ s.addresses)
    (hline : ¬ s.encloses a.line) :
    ∀ r ∈ (read source).document.sites, ¬ r.encloses a.line := by
  obtain ⟨last, hstacked⟩ := stacked_read source
  have hfirst := firstLine_le_address hs ha
  obtain ⟨before, later, hsites⟩ := List.append_of_mem hs
  have hpair := hstacked.row.pairwise
  rw [hsites] at hpair ⊢
  intro r hr
  rcases List.mem_append.mp hr with hr | hr
  · -- what comes before `s` has ended where `s` begins
    have hlast : r.lastLine ≤ s.firstLine := (List.pairwise_append.mp hpair).2.2 r hr s (by simp)
    rw [Site.encloses_iff]
    omega
  rcases List.mem_cons.mp hr with rfl | hr
  · exact hline
  · have hnext : a.line ≤ r.firstLine := address_le_later hsites ha r hr
    rw [Site.encloses_iff]
    omega

theorem onLine_address (hs : s ∈ (read source).document.sites) (ha : a ∈ s.addresses) :
    Cursor.onLine (read source).document a.line =
      if s.encloses a.line then .siteDirective else .nothing := by
  obtain ⟨last, hstacked⟩ := stacked_read source
  by_cases hline : s.encloses a.line
  · have hnone : s.directives.find? (·.encloses a.line) = none := by
      refine List.find?_eq_none.mpr fun d hd => ?_
      have := address_le_directive hs ha d hd
      rw [Directive.encloses_iff]
      omega
    rw [if_pos hline, Cursor.onLine_around hstacked hs hline,
      (hstacked.inside s hs).around_eq_find?, hnone]
    rfl
  · rw [if_neg hline]
    exact Cursor.onLine_eq_nothing (not_encloses_address hs ha hline)

end Document

/-- Where a name would be typed on a line of addresses, directives are offered if the line is
strictly between the first address and the end of the block, and nothing otherwise. -/
theorem context_on_address {source : String} {s : Site} {a : Token} {p : Position}
    (hs : s ∈ (Document.read source).document.sites) (ha : a ∈ s.addresses)
    (hp : Cursor.BeginsLine source p) (hline : p.line = a.line) :
    (Document.read source).document.contextAt source p =
      if s.firstLine < a.line ∧ a.line < s.lastLine then .siteDirective else .nothing := by
  rw [Cursor.contextAt_of_beginsLine _ hp, hline, Document.onLine_address hs ha]
  simp [Site.encloses]

/-- On the second of three lines of addresses, a cursor in front of the address. -/
theorem context_on_second_address :
    (Document.read "a,\nb,\nc \x7b\n\x7d\n").document.contextAt "a,\nb,\nc \x7b\n\x7d\n" ⟨1, 0⟩ =
      .siteDirective := by
  let b : Token := ⟨.bare, "b,", ⟨1, 0⟩⟩
  let site : Site := ⟨⟨.bare, "a,", ⟨0, 0⟩⟩, [b, ⟨.bare, "c", ⟨2, 0⟩⟩], [], 3⟩
  have hsite : site ∈ (Document.read "a,\nb,\nc \x7b\n\x7d\n").document.sites := by decide +kernel
  have hbegins : Cursor.BeginsLine "a,\nb,\nc \x7b\n\x7d\n" ⟨1, 0⟩ :=
    ⟨['b', ','], [], [], by decide +kernel, rfl, by simp, by simp⟩
  have hb : b ∈ site.addresses := by decide
  exact context_on_address hsite hb hbegins rfl

/-- Lines of addresses are not closed to names. -/
theorem directives_offered_on_address : ¬ ∀ (source : String) (s : Site) (a : Token) (p : Position),
    s ∈ (Document.read source).document.sites → a ∈ s.addresses → Cursor.BeginsLine source p →
      p.line = a.line → (Document.read source).document.contextAt source p = .nothing := by
  intro h
  let b : Token := ⟨.bare, "b", ⟨1, 0⟩⟩
  let site : Site := ⟨⟨.bare, "a,", ⟨0, 0⟩⟩, [b], [], 2⟩
  have hsite : site ∈ (Document.read "a,\nb \x7b\n\x7d\n").document.sites := by decide +kernel
  have hbegins : Cursor.BeginsLine "a,\nb \x7b\n\x7d\n" ⟨1, 0⟩ :=
    ⟨['b', ' ', '{'], [], [], by decide +kernel, rfl, by simp, by simp⟩
  have hnothing := h "a,\nb \x7b\n\x7d\n" site b ⟨1, 0⟩ hsite (by decide) hbegins rfl
  have hoffered :
      (Document.read "a,\nb \x7b\n\x7d\n").document.contextAt "a,\nb \x7b\n\x7d\n" ⟨1, 0⟩ =
        .siteDirective := by decide +kernel
  rw [hoffered] at hnothing
  cases hnothing

end Caddyfile
