import Mathlib.Data.List.Flatten
import Caddyfile.Report
import Caddyfile.Proofs.Agreement
import Caddyfile.Proofs.Braces
import Caddyfile.Proofs.Offsets

/-!
# Reports stand where their subject stands

A report finds its place again from an offset, by rules of its own for the ends of lines. Where lines
end with a line feed, or with a carriage return and a line feed, and with nothing else, it comes back
to the position that the offset was computed from (`report_locations`).
-/

namespace Caddyfile

namespace Text

/-- The characters that end a line in a report only. -/
def otherLineEnds : List Char :=
  ['\x0b', '\x0c', '\u0085', '\u2028', '\u2029']

/-- Lines end with a line feed, alone or behind a carriage return, and with nothing else. -/
def feedsOnly (cs : List Char) : Bool :=
  returnsPaired cs && cs.all fun c => !otherLineEnds.contains c

theorem feedsOnly_of_append {u v : List Char} (h : feedsOnly (u ++ v)) : feedsOnly v := by
  simp only [feedsOnly, Bool.and_eq_true, List.all_append] at h ⊢
  exact ⟨returnsPaired_of_append h.1, h.2.2⟩

end Text

/-! ## Walking to an offset -/

namespace Report

open Text

theorem endsLine_iff {c : Char} {cs : List Char} (h : feedsOnly (c :: cs)) (hne : cs ≠ []) :
    endsLine c cs ↔ c = '\n' := by
  obtain ⟨next, cs, rfl⟩ := List.exists_cons_of_ne_nil hne
  simp only [feedsOnly, returnsPaired, List.all_cons, otherLineEnds, Bool.and_eq_true] at h
  obtain ⟨⟨hreturn, _⟩, hother, _⟩ := h
  by_cases hc : c = '\r'
  · subst hc
    have hnext : next = '\n' := by simpa using hreturn
    simp [endsLine, hnext]
  · simp_all [endsLine]

section
variable {rest : List Char} (hrest : rest ≠ [])
include hrest

theorem locate_cons {c : Char} {cs : List Char} (h : feedsOnly (c :: (cs ++ rest))) (n : Nat)
    (p : Position) : locate (n + 1) p (c :: (cs ++ rest)) =
      locate n (if c = '\n' then ⟨p.line + 1, 0⟩ else ⟨p.line, p.column + 1⟩) (cs ++ rest) := by
  simp only [locate, endsLine_iff h (by simp [hrest])]

theorem locate_lines {above : List Char} (h : feedsOnly (above ++ rest)) (n : Nat) (p : Position)
    (habove : above.getLast? = some '\n') : locate (above.length + n) p (above ++ rest) =
      locate n ⟨p.line + above.count '\n', 0⟩ rest := by
  induction above generalizing p with
  | nil => cases habove
  | cons c above ih =>
    have hrec : feedsOnly (above ++ rest) := feedsOnly_of_append (u := [c]) h
    rw [List.length_cons, Nat.add_right_comm, List.cons_append, locate_cons hrest h]
    rcases feeds_of_cons habove with ⟨rfl, rfl⟩ | hlast
    · simp
    · rw [ih hrec _ hlast]
      by_cases hc : c = '\n'
      · simp only [hc, if_true, List.count_cons_self]
        rw [Nat.add_assoc, Nat.add_comm 1]
      · rw [if_neg hc, List.count_cons_of_ne hc]

theorem locate_line {line : List Char} (h : feedsOnly (line ++ rest)) (p : Position)
    (hfeed : '\n' ∉ line) :
    locate line.length p (line ++ rest) = ⟨p.line, p.column + line.length⟩ := by
  induction line generalizing p with
  | nil => rw [List.length_nil, locate, Nat.add_zero]
  | cons c line ih =>
    have hc : c ≠ '\n' := fun e => hfeed (by simp [e])
    have hrec : feedsOnly (line ++ rest) := feedsOnly_of_append (u := [c]) h
    rw [List.length_cons, List.cons_append, locate_cons hrest h, if_neg hc,
      ih hrec _ fun hmem => hfeed (List.mem_cons_of_mem c hmem)]
    simp only [Position.mk.injEq, true_and]
    omega

end

theorem placeAt_behind {source : String} {past rest : List Char} {c : Char}
    (hs : source.toList = past ++ c :: rest) (h : feedsOnly source.toList) (hc : c ≠ '\n') :
    placeAt source past.length = .behind past := by
  have hne : c :: rest ≠ [] := by simp
  obtain ⟨above, line, rfl, habove, hfeed⟩ := exists_lines past
  rw [hs, List.append_assoc] at h
  have hline := feedsOnly_of_append h
  have hreturn : '\r' ∉ line :=
    return_not_mem (Bool.and_eq_true_iff.mp hline).1 hfeed fun _ => by simpa using hc
  rw [Position.behind_line habove hfeed hreturn, placeAt, hs, List.append_assoc, List.length_append]
  have hstart : locate (above.length + line.length) ⟨0, 0⟩ (above ++ (line ++ c :: rest)) =
      locate line.length ⟨above.count '\n', 0⟩ (line ++ c :: rest) := by
    rcases habove with rfl | habove
    · simp
    · rw [locate_lines (by simp) h _ _ habove, Nat.zero_add]
  rw [hstart, locate_line hne hline _ hfeed, Nat.zero_add]

/-- A report on a token comes back to its start. -/
theorem placeOf_token {source : String} (h : feedsOnly source.toList) {t : Token}
    (ht : t ∈ (tokens source).dropLast) : placeOf source t.span = t.start := by
  have hmem : t ∈ tokens source := (List.dropLast_sublist _).subset ht
  obtain ⟨past, c, rest, hs, hstart, hc⟩ := exists_visible hmem (kind_ne_finish_of_mem ht)
  have hfeed : c ≠ '\n' := by
    rintro rfl
    cases hc
  have hoffset : t.start.offset source = past.length := by
    rw [hstart]
    exact Position.offset_behind hs (Bool.and_eq_true_iff.mp h).1 fun _ => by simpa using hfeed
  calc placeOf source t.span
      = placeAt source (t.start.offset source) := rfl
    _ = .behind past := by rw [hoffset, placeAt_behind hs h hfeed]
    _ = t.start := hstart.symm

end Report

/-! ## What faults and findings are about -/

namespace Document

theorem faults_on_tokens (source : String) :
    ∀ f ∈ (read source).faults, ∃ t ∈ (tokens source).dropLast, f.span = t.span :=
  (reported_dropLast source).orderly.within

theorem placeholderWords_sublist (doc : Document) :
    (Review.placeholderWords doc).Sublist doc.words := by
  refine List.Sublist.append ?_ (List.Sublist.flatMap_right _ fun s _ => ?_)
  · cases doc.globals with
    | none => exact List.Sublist.refl _
    | some g => exact Review.argumentsOf_sublist g.directives
  · exact (Review.argumentsOf_sublist s.directives).append_left s.addresses

theorem review_on_words {doc : Document} {f : Finding} (hf : f ∈ doc.review) : f.On doc.words := by
  rcases List.mem_append.mp hf with hf | hf
  · rcases List.mem_append.mp hf with hf | hf
    · exact (on_globals_of_mem hf).mono (List.subset_append_left _ _)
    · obtain ⟨s, hs, hf⟩ := List.mem_flatMap.mp hf
      have hon : f.On s.words :=
        (Review.on_words_ofDirectives hf).mono (List.subset_append_right _ _)
      exact hon.mono (site_sublist hs).subset
  · obtain ⟨t, ht, hf⟩ := List.mem_filterMap.mp hf
    obtain ⟨cause, _, rfl⟩ := Option.map_eq_some_iff.mp hf
    exact ⟨t, (placeholderWords_sublist doc).subset ht, rfl⟩

theorem review_on_tokens (source : String) : ∀ f ∈ (read source).document.review,
    ∃ t ∈ (tokens source).dropLast, f.span = t.span := by
  intro f hf
  exact (review_on_words hf).mono (words_read_sublist source).subset

end Document

/-- The location of a report has the line and the column that its fault or finding names in its own
text. -/
theorem report_locations (filename : String) {source : String}
    (h : Text.feedsOnly source.toList) :
    (∀ f ∈ (Document.read source).faults,
      let place := s!"{f.span.start.line + 1}:{f.span.start.column + 1}"
      (Report.ofFault filename source f).location = s!"{filename}:{place}" ∧
        f.line = s!"{place}: {f.message}") ∧
    ∀ f ∈ (Document.read source).document.review,
      let place := s!"{f.span.start.line + 1}:{f.span.start.column + 1}"
      (Report.ofFinding filename source f).location = s!"{filename}:{place}" ∧
        f.line = s!"{place}: {f.severity.word}: {f.message}" := by
  have hplace : ∀ span : Span, (∃ t ∈ (tokens source).dropLast, span = t.span) →
      Report.placeOf source span = span.start := by
    rintro span ⟨t, ht, rfl⟩
    exact Report.placeOf_token h ht
  constructor
  · intro f hf
    have hstart := hplace f.span (Document.faults_on_tokens source f hf)
    simp [Report.location, Report.ofFault, Fault.line, hstart, toString, String.append_assoc]
  · intro f hf
    have hstart := hplace f.span (Document.review_on_tokens source f hf)
    simp [Report.location, Report.ofFinding, Finding.line, hstart, toString, String.append_assoc]

theorem report_locations_returns :
    let source := "a \"\r\n\" \x7bc \x7b\r\n\tlog\r\n\x7d\r\n\x7d"
    Text.feedsOnly source.toList ∧
      (∃ f ∈ (Document.read source).faults, f.line = "5:1: unexpected '\x7d'" ∧
        (Report.ofFault "x" source f).location = "x:5:1") ∧
      ∃ f ∈ (Document.read source).document.review,
        f.line = "2:3: error: unclosed placeholder: '\x7b' without matching '\x7d'" ∧
        (Report.ofFinding "x" source f).location = "x:2:3" := by
  intro source
  have h : Text.feedsOnly source.toList := by decide +kernel
  have hfault : (⟨.strayClose, ⟨4, 0⟩, ⟨4, 1⟩⟩ : Fault) ∈ (Document.read source).faults := by
    decide +kernel
  have hfinding : (⟨.unclosedPlaceholder, ⟨1, 2⟩, ⟨1, 4⟩⟩ : Finding) ∈
      (Document.read source).document.review := by
    decide +kernel
  obtain ⟨hfaults, hfindings⟩ := report_locations "x" h
  refine ⟨h, ⟨_, hfault, by decide +kernel, ?_⟩, ⟨_, hfinding, by decide +kernel, ?_⟩⟩
  · rw [(hfaults _ hfault).1]
    decide +kernel
  · rw [(hfindings _ hfinding).1]
    decide +kernel

end Caddyfile
