import Mathlib.Data.List.Flatten
import Caddyfile.Proofs.Locations
import Caddyfile.Proofs.Verdict

/-!
# Where notices lie

Every notice lies on one token of the text (`notices_on_tokens`). A review takes the words of a
document in their order and says at most one thing about each: the places of its warnings are a
sublist of the places of the words, and so are the places of its errors. So no two findings of the
same severity lie on the same word.
-/

namespace Caddyfile

theorem Distinct.nodup {ts : List Token} (h : Distinct ts) : (ts.map Token.span).Nodup :=
  List.pairwise_map.mpr h

namespace Review

open Directive

/-! ## Warnings go along the words -/

section
variable {snippets : Array String} {inSnippet : Bool}

theorem ofImport_spans (d : Directive) :
    ((ofImport snippets d).map Finding.span).Sublist (d.args.map Token.span) := by
  unfold ofImport
  cases d.args with
  | nil => exact List.Sublist.refl _
  | cons arg args =>
    simp only
    split
    · exact List.nil_sublist _
    · split
      · exact List.nil_sublist _
      · exact (List.nil_sublist _).cons_cons arg.span

theorem ofGlobal_spans (d : Directive) :
    ((ofGlobal snippets d).map Finding.span).Sublist (d.words.map Token.span) := by
  have hown : ((ofGlobal snippets d).map Finding.span).Sublist
      ((d.name :: d.args).map Token.span) := by
    simp only [ofGlobal]
    split
    · exact List.nil_sublist _
    split
    · exact (List.nil_sublist _).cons_cons d.name.span
    split
    · exact (ofImport_spans d).cons d.name.span
    · exact List.nil_sublist _
  exact hown.trans ((own_sublist d).map Token.span)

theorem own_spans (scope : Scope) (d : Directive) :
    ((scope.own snippets inSnippet d).map Finding.span).Sublist
      ((d.name :: d.args).map Token.span) := by
  have hname : (((scope.cause? inSnippet d.title).toList.map
      (⟨·, d.name.span⟩ : _ → Finding)).map Finding.span).Sublist [d.name.span] := by
    cases scope.cause? inSnippet d.title with
    | none => exact List.nil_sublist _
    | some cause => exact List.Sublist.refl _
  have himport : ((if d.title = "import" then ofImport snippets d else []).map
      Finding.span).Sublist (d.args.map Token.span) := by
    split
    · exact ofImport_spans d
    · exact List.nil_sublist _
  rw [Scope.own, List.map_append]
  exact hname.append himport

theorem findings_spans (scope : Scope) (d : Directive) :
    ((scope.findings snippets inSnippet d).map Finding.span).Sublist (d.words.map Token.span) := by
  rw [Scope.findings_eq, words_eq, ← List.cons_append, List.map_append, List.map_append]
  refine (own_spans scope d).append ?_
  cases scope.enter d with
  | none => exact List.nil_sublist _
  | some inner =>
    rw [Option.elim_some, wordsOf_eq_flatMap, List.map_flatMap, List.map_flatMap]
    exact List.Sublist.flatMap_right _ fun e he => findings_spans inner e
termination_by sizeOf d
decreasing_by exact Directive.sizeOf_lt_of_mem_body he

end

/-! ## Errors go along the words -/

theorem ofWord_spans (ts : List Token) :
    ((ts.filterMap ofWord).map Finding.span).Sublist (ts.map Token.span) := by
  induction ts with
  | nil => exact List.Sublist.refl _
  | cons t ts ih =>
    cases hword : ofWord t with
    | none =>
      rw [List.filterMap_cons_none hword]
      exact ih.cons t.span
    | some f =>
      obtain ⟨cause, _, rfl⟩ := Option.map_eq_some_iff.mp hword
      rw [List.filterMap_cons_some hword]
      exact ih.cons_cons t.span

end Review

/-! ## Findings of one severity -/

namespace Document

open Review

variable {doc : Document}

theorem warnings_spans (doc : Document) :
    (doc.warnings.map Finding.span).Sublist (doc.words.map Token.span) := by
  have hglobals : ((doc.globals.elim [] fun g =>
      g.directives.flatMap (ofGlobal doc.snippetNames.toArray)).map Finding.span).Sublist
      ((doc.globals.elim [] fun g => Directive.wordsOf g.directives).map Token.span) := by
    cases doc.globals with
    | none => exact List.Sublist.refl _
    | some g =>
      rw [Option.elim_some, Option.elim_some, Directive.wordsOf_eq_flatMap, List.map_flatMap,
        List.map_flatMap]
      exact List.Sublist.flatMap_right _ fun d _ => ofGlobal_spans d
  have hsite : ∀ s : Site, ((ofSite doc.snippetNames.toArray s).map Finding.span).Sublist
      (s.words.map Token.span) := by
    intro s
    rw [ofSite, Scope.ofDirectives_eq_flatMap, Site.words, Directive.wordsOf_eq_flatMap,
      List.map_append, List.map_flatMap, List.map_flatMap]
    refine List.Sublist.trans ?_ (List.sublist_append_right _ _)
    exact List.Sublist.flatMap_right _ fun d _ => findings_spans .site d
  rw [warnings, words, List.map_append, List.map_append, List.map_flatMap, List.map_flatMap]
  exact hglobals.append (List.Sublist.flatMap_right _ fun s _ => hsite s)

theorem pairwise_review (h : Distinct doc.words) :
    doc.review.Pairwise fun f g => f.severity = g.severity → f.span ≠ g.span := by
  have hwarnings : doc.warnings.Pairwise fun f g => f.span ≠ g.span :=
    List.pairwise_map.mp (h.nodup.sublist (warnings_spans doc))
  have herrors : ((placeholderWords doc).filterMap ofWord).Pairwise fun f g => f.span ≠ g.span := by
    have hwords : Distinct (placeholderWords doc) := h.sublist (placeholderWords_sublist doc)
    exact List.pairwise_map.mp (hwords.nodup.sublist (ofWord_spans _))
  refine List.pairwise_append.mpr ⟨hwarnings.imp ?_, herrors.imp ?_, ?_⟩
  · intro f g hne _
    exact hne
  · intro f g hne _
    exact hne
  · intro f hf g hg hseverity
    obtain ⟨t, _, hg⟩ := List.mem_filterMap.mp hg
    rw [severity_of_mem_warnings hf, severity_of_ofWord hg] at hseverity
    cases hseverity

end Document

/-! ## Notices -/

/-- A notice is on one of the tokens of the text, other than the end token. So it covers a stretch of
the text that is not empty. No two findings of the same severity are on the same token. -/
theorem notices_on_tokens (source : String) :
    (∀ n ∈ Editor.notices source, ∃ t ∈ tokens source, t.kind ≠ .finish ∧ n.span = t.span ∧
      n.span.start < n.span.stop ∧
      ∃ past rest, source.toList = past ++ (t.text.toList ++ rest) ∧
        n.span = ⟨.behind past, .behind (past ++ t.text.toList)⟩) ∧
    (Document.read source).document.review.Pairwise fun f g =>
      f.severity = g.severity → f.span ≠ g.span := by
  constructor
  · intro n hn
    obtain ⟨t, ht, hspan⟩ : ∃ t ∈ (tokens source).dropLast, n.span = t.span := by
      rcases List.mem_append.mp hn with hn | hn
      · obtain ⟨f, hf, rfl⟩ := List.mem_map.mp hn
        exact Document.faults_on_tokens source f hf
      · obtain ⟨f, hf, rfl⟩ := List.mem_map.mp hn
        exact Document.review_on_tokens source f hf
    have hmem : t ∈ tokens source := (List.dropLast_sublist _).subset ht
    have hkind := kind_ne_finish_of_mem ht
    obtain ⟨past, rest, hsource, hstart, hstop⟩ := exists_around hmem
    refine ⟨t, hmem, hkind, hspan, ?_, past, rest, hsource, ?_⟩
    · rw [hspan]
      exact tokens_lt_stop source t hmem hkind
    · rw [hspan, Token.span, hstart, hstop]
  · exact Document.pairwise_review (.of_lt (Document.words_read_pairwise source))

end Caddyfile
