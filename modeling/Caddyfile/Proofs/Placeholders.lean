import Caddyfile.Proofs.Relabeling
import Caddyfile.Proofs.Verdict

/-!
# Errors are about placeholders

A review names its errors after all warnings: one for each address and each argument whose braces do
not pair up, in the order of the text (`errors_on_words`). The vocabulary has no say in it. Blocks
that are not entered for warnings are entered here, and the name of a directive and its brace are
not looked at.
-/

namespace Caddyfile

/-- What is said about a word whose braces have this balance. -/
def Placeholder.Balance.complaint? : Balance → Option String
  | balanced => none
  | unclosed => some "unclosed placeholder: '\x7b' without matching '\x7d'"
  | unmatched => some "unmatched '\x7d': no opening '\x7b' for this placeholder"

theorem Placeholder.Balance.map_cause? (b : Balance) :
    b.cause?.map Finding.Cause.message = b.complaint? := by
  cases b with
  | balanced | unclosed | unmatched => rfl

/-! ## Other names and braces -/

/-- The document with every name of a directive and every opening brace replaced. -/
def Document.rename (token : Token → Token) (doc : Document) : Document where
  globals := doc.globals.map fun g =>
    { g with opener := token g.opener, directives := g.directives.map (Directive.map token id id) }
  sites := doc.sites.map fun s =>
    { s with directives := s.directives.map (Directive.map token id id) }

/-! ## Arguments in the order of the text -/

namespace Review

open Directive

mutual

theorem arguments_eq_tree : ∀ d : Directive, arguments d = d.tree.flatMap Directive.args
  | ⟨name, args, opener, body, lastLine⟩ => by
    rw [arguments, tree, List.flatMap_cons, argumentsOf_eq_tree body]

theorem argumentsOf_eq_tree : ∀ ds : List Directive,
    argumentsOf ds = (treeOf ds).flatMap Directive.args
  | [] => rfl
  | d :: ds => by
    rw [argumentsOf, treeOf, List.flatMap_append, arguments_eq_tree d, argumentsOf_eq_tree ds]

end

section
variable (title word : Token → Token) (line : Nat → Nat)

mutual

theorem arguments_map : ∀ d : Directive,
    arguments (d.map title word line) = (arguments d).map word
  | ⟨name, args, opener, body, lastLine⟩ => by
    rw [Directive.map, arguments, arguments, argumentsOf_mapAll body, List.map_append]

theorem argumentsOf_mapAll : ∀ ds : List Directive,
    argumentsOf (mapAll title word line ds) = (argumentsOf ds).map word
  | [] => rfl
  | d :: ds => by
    rw [mapAll, argumentsOf, argumentsOf, arguments_map d, argumentsOf_mapAll ds, List.map_append]

end

end

/-- Other names and braces leave the arguments alone. -/
theorem argumentsOf_rename (token : Token → Token) (ds : List Directive) :
    argumentsOf (ds.map (Directive.map token id id)) = argumentsOf ds := by
  rw [← mapAll_eq_map, argumentsOf_mapAll, List.map_id]

theorem placeholderWords_rename (token : Token → Token) (doc : Document) :
    placeholderWords (doc.rename token) = placeholderWords doc := by
  obtain ⟨globals, sites⟩ := doc
  cases globals with
  | none | some g =>
    simp [placeholderWords, Document.rename, List.flatMap_map, argumentsOf_rename, Site.addresses]

end Review

/-! ## Errors behind warnings -/

namespace Document

open Review

theorem severity_of_mem_filterMap {ts : List Token} {f : Finding} (h : f ∈ ts.filterMap ofWord) :
    f.severity = .error := by
  obtain ⟨t, _, hf⟩ := List.mem_filterMap.mp h
  exact severity_of_ofWord hf

theorem filter_error_review (doc : Document) :
    doc.review.filter (·.severity = .error) = (placeholderWords doc).filterMap ofWord := by
  rw [review, List.filter_append, List.filter_eq_nil_iff.mpr, List.filter_eq_self.mpr,
    List.nil_append]
  · intro f hf
    simp [severity_of_mem_filterMap hf]
  · intro f hf
    simp [severity_of_mem_warnings hf]

theorem filter_warning_review (doc : Document) :
    doc.review.filter (·.severity = .warning) = doc.warnings := by
  rw [review, List.filter_append, List.filter_eq_self.mpr, List.filter_eq_nil_iff.mpr,
    List.append_nil]
  · intro f hf
    simp [severity_of_mem_filterMap hf]
  · intro f hf
    simp [severity_of_mem_warnings hf]

end Document

theorem Review.ofWord_said (t : Token) : (ofWord t).map (fun f => (f.span, f.message)) =
    (Placeholder.balance t.text).complaint?.map (t.span, ·) := by
  rw [← Placeholder.Balance.map_cause?, ofWord, Option.map_map, Option.map_map]
  rfl

/-- The errors of a review come after its warnings. They are on the arguments of the global options,
then for each site on its addresses and on the arguments of its directives, at every depth and in
the order of the text: one for each of these words whose braces do not pair up. They stay the same
whatever the directives are called and wherever their braces are. -/
theorem errors_on_words (doc : Document) :
    (doc.review.filter (·.severity = .error)).map (fun f => (f.span, f.message)) =
      (doc.globals.elim [] (fun g => (Directive.treeOf g.directives).flatMap Directive.args) ++
        doc.sites.flatMap fun s =>
          s.addresses ++ (Directive.treeOf s.directives).flatMap Directive.args).filterMap
        (fun t => (Placeholder.balance t.text).complaint?.map (t.span, ·)) ∧
    doc.review = doc.review.filter (·.severity = .warning) ++
      doc.review.filter (·.severity = .error) ∧
    ∀ token : Token → Token, (doc.rename token).review.filter (·.severity = .error) =
      doc.review.filter (·.severity = .error) := by
  refine ⟨?_, ?_, fun token => ?_⟩
  · rw [Document.filter_error_review, List.map_filterMap]
    simp only [Review.ofWord_said, Review.placeholderWords, Review.argumentsOf_eq_tree]
  · rw [Document.filter_warning_review, Document.filter_error_review]
    rfl
  · rw [Document.filter_error_review, Document.filter_error_review, Review.placeholderWords_rename]

end Caddyfile
