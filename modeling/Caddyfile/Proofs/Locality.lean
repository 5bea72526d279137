import Caddyfile.Proofs.Concatenation
import Caddyfile.Proofs.Paths

/-!
# The cursor in one of two texts

The blocks around a line decide what may be typed there. Where a text without faults stands above
another text, no block of the one has a line of the other in it, and the lines of the text below keep
their blocks. So a cursor is answered as if its own text stood alone (`context_append`).
-/

namespace Caddyfile

/-! ## Blocks further down -/

theorem Directive.encloses_shift (k line : Nat) (d : Directive) :
    (d.map (Token.shift k) (Token.shift k) (· + k)).encloses (line + k) = d.encloses line := by
  obtain ⟨name, args, opener, body, lastLine⟩ := d
  have hfirst : (name.shift k).line = name.line + k := rfl
  rw [Bool.eq_iff_iff, encloses_iff, encloses_iff]
  simp only [firstLine, map, hfirst]
  omega

theorem Site.firstLine_shift (k : Nat) (s : Site) :
    (s.map (Token.shift k) (· + k)).firstLine = s.firstLine + k := rfl

theorem Site.encloses_shift (k line : Nat) (s : Site) :
    (s.map (Token.shift k) (· + k)).encloses (line + k) = s.encloses line := by
  have hlast : (s.map (Token.shift k) (· + k)).lastLine = s.lastLine + k := rfl
  rw [Bool.eq_iff_iff, encloses_iff, encloses_iff, firstLine_shift, hlast]
  omega

namespace Cursor

theorem inSubdirective_shift (k : Nat) (d : Directive) :
    inSubdirective (d.map (Token.shift k) (Token.shift k) (· + k)) = inSubdirective d := by
  obtain ⟨name, args, opener, body, lastLine⟩ := d
  have harg : Option.map Token.value (args.map (Token.shift k)).head? =
      Option.map Token.value args.head? := by
    cases args <;> rfl
  unfold inSubdirective Directive.firstArg?
  simp only [Directive.map, harg]
  rfl

theorem inBlock_shift (k line : Nat) (parent : String) (names : Array String)
    (body : List Directive) :
    inBlock (line + k) parent names (Directive.mapAll (Token.shift k) (Token.shift k) (· + k) body) =
      inBlock line parent names body := by
  rw [inBlock_eq_find?, inBlock_eq_find?, Directive.mapAll_eq_map, List.find?_map]
  simp only [Function.comp_def, Directive.encloses_shift]
  cases body.find? (·.encloses line) with
  | none => rfl
  | some d => exact inSubdirective_shift k d

mutual

theorem inDirective_shift (k line : Nat) : ∀ d : Directive,
    inDirective (line + k) (d.map (Token.shift k) (Token.shift k) (· + k)) = inDirective line d
  | ⟨token, args, opener, body, lastLine⟩ => by
    have hvalue : (token.shift k).value = token.value := rfl
    simp only [Directive.map, inDirective, hvalue, inDirectives_shift k line body, inBlock_shift]

theorem inDirectives_shift (k line : Nat) : ∀ ds : List Directive,
    inDirectives (line + k) (Directive.mapAll (Token.shift k) (Token.shift k) (· + k) ds) = inDirectives line ds
  | [] => rfl
  | d :: ds => by
    rw [Directive.mapAll, inDirectives, Directive.encloses_shift, inDirective_shift k line d,
      inDirectives_shift k line ds, inDirectives]

end

/-! ## Sites above and below -/

theorem onLine_above {doc above : Document} {later : List Site} {line : Nat}
    (hsites : doc.sites = above.sites ++ later) (hlater : ∀ s ∈ later, ¬ s.encloses line) :
    onLine doc line = onLine above line := by
  have hnone : later.find? (·.encloses line) = none := List.find?_eq_none.mpr hlater
  unfold onLine
  rw [hsites, List.find?_append, hnone, Option.or_none]

theorem onLine_below {doc below : Document} {earlier : List Site} {k line : Nat}
    (hsites : doc.sites = earlier ++ below.sites.map (Site.map (Token.shift k) (· + k)))
    (hearlier : ∀ s ∈ earlier, ¬ s.encloses (line + k)) :
    onLine doc (line + k) = onLine below line := by
  have hnone : earlier.find? (·.encloses (line + k)) = none := List.find?_eq_none.mpr hearlier
  unfold onLine
  rw [hsites, List.find?_append, hnone, Option.none_or, List.find?_map]
  simp only [Function.comp_def, Site.encloses_shift]
  cases below.sites.find? (·.encloses line) with
  | none => rfl
  | some s =>
    have hshift := inDirectives_shift k line s.directives
    rwa [Directive.mapAll_eq_map] at hshift

/-- Nothing but the text of its line and the blocks around the line counts. -/
theorem contextAt_congr {doc doc' : Document} {source source' : String} {line line' : Nat}
    (htext : (Text.lines source.toList)[line]? = (Text.lines source'.toList)[line']?)
    (hblocks : onLine doc line = onLine doc' line') (column : Nat) :
    doc.contextAt source ⟨line, column⟩ = doc'.contextAt source' ⟨line', column⟩ := by
  unfold Document.contextAt
  simp only [htext, hblocks]

end Cursor

/-! ## Two texts -/

section
variable {s₁ s₂ : String} (hfaults : (Document.read s₁).faults = [])
  (hend : s₁.toList = [] ∨ s₁.toList.getLast? = some '\n')
  (hopen : (tokens s₁).dropLast = [] ∨ ∀ t ∈ (tokens s₂).head?, t.kind ≠ .opening)
include hfaults hend hopen

theorem sites_append : (Document.read (s₁ ++ s₂)).document.sites =
    (Document.read s₁).document.sites ++ (Document.read s₂).document.sites.map
      (Site.map (Token.shift (s₁.toList.count '\n')) (· + s₁.toList.count '\n')) := by
  obtain ⟨f, hf, htok⟩ := Grammar.exists_of_faultless hfaults
  rw [Grammar.read_of_tokens hf htok]
  rw [← htok] at hopen
  by_cases hnil : f.tokens = []
  · obtain rfl := Grammar.File.tokens_eq_nil hnil
    rw [read_append_of_nil hf htok hend hnil]
    rfl
  · rw [read_append_of_ne_nil hf htok hend hnil (hopen.resolve_left hnil)]
    rfl

theorem contextAt_above {line : Nat} (hline : line < s₁.toList.count '\n') (column : Nat) :
    (Document.read (s₁ ++ s₂)).document.contextAt (s₁ ++ s₂) ⟨line, column⟩ =
      (Document.read s₁).document.contextAt s₁ ⟨line, column⟩ := by
  apply Cursor.contextAt_congr
  · rw [String.toList_append]
    exact Text.getElem?_lines_append_left _ hline
  · apply Cursor.onLine_above (sites_append hfaults hend hopen)
    intro s hs
    obtain ⟨r, _, rfl⟩ := List.mem_map.mp hs
    rw [Site.encloses_iff, Site.firstLine_shift]
    omega

theorem contextAt_below (line column : Nat) :
    (Document.read (s₁ ++ s₂)).document.contextAt (s₁ ++ s₂)
        ⟨line + s₁.toList.count '\n', column⟩ =
      (Document.read s₂).document.contextAt s₂ ⟨line, column⟩ := by
  apply Cursor.contextAt_congr
  · rw [String.toList_append, Nat.add_comm]
    exact Text.getElem?_lines_append_right _ line hend
  · apply Cursor.onLine_below (sites_append hfaults hend hopen)
    intro s hs
    have hlast : s.lastLine ≤ s₁.toList.count '\n' := Document.lastLine_le_feeds hs
    rw [Site.encloses_iff]
    omega

/-- Where a text without faults that ends with a line feed stands above another text, a cursor finds
on each line what it would find on that line of its own text. -/
theorem context_append (line column : Nat) :
    (Document.read (s₁ ++ s₂)).document.contextAt (s₁ ++ s₂) ⟨line, column⟩ =
      if line < s₁.toList.count '\n' then
        (Document.read s₁).document.contextAt s₁ ⟨line, column⟩
      else (Document.read s₂).document.contextAt s₂ ⟨line - s₁.toList.count '\n', column⟩ := by
  by_cases hline : line < s₁.toList.count '\n'
  · rw [if_pos hline]
    exact contextAt_above hfaults hend hopen hline column
  · obtain ⟨below, rfl⟩ := Nat.exists_eq_add_of_le' (Nat.le_of_not_lt hline)
    rw [if_neg hline, Nat.add_sub_cancel]
    exact contextAt_below hfaults hend hopen below column

end

/-- A cursor in the text above, and one in a block of the text below. -/
theorem context_append_transport :
    let above := "a \x7b\n\tlog\n\x7d\n"
    let below := "b \x7b\n\treverse_proxy \x7b\n\t\ttransport http \x7b\n\t\t\tt\n\t\t\x7d\n\t\x7d\n\x7d\n"
    (Document.read above).faults = [] ∧
      (Document.read (above ++ below)).document.contextAt (above ++ below) ⟨1, 2⟩ =
        .siteDirective ∧
      (Document.read (above ++ below)).document.contextAt (above ++ below) ⟨6, 4⟩ =
        .subdirective "transport http" ((Vocabulary.nestedNames? "transport" "http").getD #[]) := by
  intro above below
  have hfaults : (Document.read above).faults = [] := by decide +kernel
  have hend : above.toList = [] ∨ above.toList.getLast? = some '\n' := .inr (by decide +kernel)
  have hopen : ∀ t ∈ (tokens below).head?, t.kind ≠ .opening := by decide +kernel
  have hcontext := context_append hfaults hend (.inr hopen)
  refine ⟨hfaults, ?_, ?_⟩
  · rw [hcontext]
    decide +kernel
  · rw [hcontext]
    decide +kernel

end Caddyfile
