import Caddyfile.Proofs.Paths

/-!
# From which line to which

Every directive of a document, at any depth, is `Formed`, and the directives of one block are
`Nested` in its lines. The same holds of the blocks of the sites and of the global options, which
follow one another in turn (`lines_nest`). None of it needs a text without faults.
-/

namespace Caddyfile

/-- Directives that lie from line `lo` to line `hi`, each ending no later than the next starts. -/
structure Nested (lo hi : Nat) (ds : List Directive) : Prop where
  inside : ∀ d ∈ ds, lo ≤ d.firstLine ∧ d.lastLine ≤ hi
  order : ds.Pairwise fun d e => d.lastLine ≤ e.firstLine

namespace Stacked

variable {lo hi : Nat} {ds : List Directive}

theorem nested (h : Stacked lo hi ds) : Nested lo hi ds :=
  ⟨fun d hd => ⟨h.row.le_first d hd, h.row.last_le d hd⟩, h.row.pairwise⟩

/-- What holds of a stack holds at every depth of it. -/
theorem of_within {as : List Directive} {d : Directive} (h : Stacked lo hi ds)
    (hd : Directive.Within ds as d) :
    d.Formed ∧ d.firstLine ≤ d.lastLine ∧ Nested d.firstLine d.lastLine d.body := by
  induction hd generalizing lo hi with
  | here hmem => exact ⟨h.formed _ hmem, h.row.first_le_last _ hmem, (h.inside _ hmem).nested⟩
  | inside hmem _ ih => exact ih (h.inside _ hmem)

end Stacked

/-- A directive in the block of the global options or of a site, at any depth. -/
def Document.Has (doc : Document) (d : Directive) : Prop :=
  (∃ g ∈ doc.globals, ∃ as, Directive.Within g.directives as d) ∨
    ∃ s ∈ doc.sites, ∃ as, Directive.Within s.directives as d

/-- In every document that is read, with or without faults, blocks lie in the lines of the blocks
around them, and what stands side by side comes in the order of its lines, the global options
first. -/
theorem lines_nest (source : String) :
    (∀ d, (Document.read source).document.Has d → d.name.line = d.firstLine ∧
      d.firstLine ≤ d.lastLine ∧ d.Formed ∧ Nested d.firstLine d.lastLine d.body) ∧
    (∀ g ∈ (Document.read source).document.globals, g.firstLine ≤ g.lastLine ∧
      Nested g.firstLine g.lastLine g.directives ∧
      ∀ s ∈ (Document.read source).document.sites, g.lastLine ≤ s.firstLine) ∧
    (∀ s ∈ (Document.read source).document.sites, s.addresses ≠ [] ∧ s.firstLine ≤ s.lastLine ∧
      Nested s.firstLine s.lastLine s.directives) ∧
    (Document.read source).document.sites.Pairwise fun s r => s.lastLine ≤ r.firstLine := by
  obtain ⟨last, hsites⟩ := Document.stacked_read source
  have hglobals := Document.stacked_globals source
  refine ⟨?_, ?_, ?_, hsites.row.pairwise⟩
  · intro d hd
    have hown : d.Formed ∧ d.firstLine ≤ d.lastLine ∧ Nested d.firstLine d.lastLine d.body := by
      rcases hd with ⟨g, hg, as, hd⟩ | ⟨s, hs, as, hd⟩
      · exact (hglobals g hg).1.of_within hd
      · exact (hsites.inside s hs).of_within hd
    exact ⟨rfl, hown.2.1, hown.1, hown.2.2⟩
  · intro g hg
    obtain ⟨hown, _, hafter⟩ := hglobals g hg
    exact ⟨hown.row.le, hown.nested, hafter.row.le_first⟩
  · intro s hs
    exact ⟨by simp [Site.addresses], hsites.row.first_le_last s hs, (hsites.inside s hs).nested⟩

end Caddyfile
