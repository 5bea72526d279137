import Caddyfile.Proofs.Grammar
import Caddyfile.Proofs.Relabeling
import Caddyfile.Proofs.Seams

/-!
# Reading one text after another

A text without faults leaves nothing open, neither a quoted string nor a block. What is written
below it is read as if it stood alone, only so many lines further down (`read_append`).
-/

namespace Caddyfile

/-- Every token `k` lines further down. -/
def Relabeling.shift (k : Nat) : Relabeling where
  fits _ := True
  token := Token.shift k
  line := (· + k)
  span := Span.shift k
  value := id
  kind_token _ := rfl
  line_token _ := rfl
  stop_token t := by rw [Token.stop_shift]; rfl
  span_token t := by rw [Token.span, Token.stop_shift]; rfl
  value_token _ _ := rfl
  line_inj _ _ h := Nat.add_right_cancel h
  comma _ := Iff.rfl

theorem Fault.relabel_shift (k : Nat) :
    Fault.relabel (.shift k) = fun f => ⟨f.cause, f.span.shift k⟩ := by
  funext f
  obtain ⟨cause, span⟩ := f
  cases cause <;> rfl

namespace Grammar

/-! ## Derivations in front of more tokens -/

theorem Block.WF.getLast?_tokens {b : Block} (hb : b.WF) :
    ∀ t ∈ b.tokens.getLast?, t.kind = .closing := by
  intro t ht
  have hlast : b.tokens.getLast? = some b.closer := by
    rw [Block.tokens, ← List.cons_append, List.getLast?_concat]
  obtain rfl : b.closer = t := by simpa [hlast] using ht
  exact hb.closer

theorem Site.WF.getLast?_tokens {s : Site} (hs : s.WF) :
    ∀ t ∈ s.tokens.getLast?, t.kind = .closing := by
  intro t ht
  have hne : s.block.tokens ≠ [] := by simp [Block.tokens]
  rw [Site.tokens, ← List.cons_append, List.getLast?_append_of_ne_nil _ hne] at ht
  exact hs.block.getLast?_tokens t ht

theorem getLast?_sites_tokens {ss : List Site} (hss : ∀ s ∈ ss, s.WF) :
    ∀ t ∈ (ss.flatMap Site.tokens).getLast?, t.kind = .closing := by
  induction ss with
  | nil => simp
  | cons s ss ih =>
    intro t ht
    rw [List.flatMap_cons] at ht
    by_cases hnil : ss.flatMap Site.tokens = []
    · rw [hnil, List.append_nil] at ht
      exact (hss s (by simp)).getLast?_tokens t ht
    · rw [List.getLast?_append_of_ne_nil _ hnil] at ht
      exact ih (fun r hr => hss r (by simp [hr])) t ht

/-- The last token of a file closes a block. -/
theorem File.WF.getLast?_tokens {f : File} (hf : f.WF) :
    ∀ t ∈ f.tokens.getLast?, t.kind = .closing := by
  intro t ht
  have hsites := getLast?_sites_tokens hf.sites
  by_cases hnil : f.sites.flatMap Site.tokens = []
  · rw [File.tokens, hnil, List.append_nil] at ht
    cases hg : f.globals with
    | none => simp [hg] at ht
    | some b =>
      rw [hg] at ht
      exact (hf.globals b hg).getLast?_tokens t ht
  · rw [File.tokens, List.getLast?_append_of_ne_nil _ hnil] at ht
    exact hsites t ht

open Document

theorem File.tokens_eq_nil {f : File} (h : f.tokens = []) : f = ⟨none, []⟩ := by
  obtain ⟨globals, sites⟩ := f
  obtain ⟨hg, hs⟩ := List.append_eq_nil_iff.mp h
  cases globals with
  | some b => simp [Block.tokens] at hg
  | none =>
    cases sites with
    | nil => rfl
    | cons s ss => simp [Site.tokens] at hs

/-- Reading goes on behind a file as if the file were not there, unless the first block that follows
could be taken for global options. -/
theorem ofForest_append (finish : Nat) {f : File} (hf : f.WF) (hne : f.tokens ≠ []) {g : Forest}
    (hg : ∀ opener inside closer rest, g ≠ .block opener inside closer rest)
    (later : List (Token × Forest)) :
    Document.ofForest finish ⟨f.forest.append g, later⟩ =
      ⟨⟨f.document.globals, f.document.sites ++ (Document.ofForest finish ⟨g, later⟩).document.sites⟩,
        (Document.ofForest finish ⟨g, later⟩).faults⟩ := by
  obtain ⟨globals, sites⟩ := f
  have hsites := stretch_sites_append finish g hf.sites
  have hother : Document.ofForest finish ⟨g, later⟩ =
      ⟨⟨none, (stretch finish none g).sites ++ (laterStretches finish later).sites⟩,
        (stretch finish none g).faults ++ (laterStretches finish later).faults⟩ := by
    cases g with
    | nil | word t rest => rfl
    | block opener inside closer rest => exact absurd rfl (hg opener inside closer rest)
  rw [hother]
  cases globals with
  | some b =>
    have hb := topBlock_forest finish (hf.globals b rfl) .unclosedGlobals
    simp [File.forest, Block.forest, Forest.append, Document.ofForest, hb, hsites, Stretch.append,
      File.document, closingLine]
  | none =>
    cases sites with
    | nil => exact absurd rfl hne
    | cons s ss =>
      simp only [forestOfSites, words, Forest.append] at hsites
      simp [File.forest, forestOfSites, words, Forest.append, Document.ofForest, hsites,
        Stretch.append, File.document]

end Grammar

/-! ## Two texts -/

theorem first_not_block {source : String} (h : ∀ t ∈ (tokens source).head?, t.kind ≠ .opening)
    (hblock : ∃ opener inside closer rest,
      (Forest.ofTokens (tokens source)).first = .block opener inside closer rest) : False := by
  obtain ⟨opener, inside, closer, rest, hfirst⟩ := hblock
  obtain ⟨ws, e, hts, _, hgroup, hws⟩ := Forest.exists_ofTokens source
  rw [hgroup] at hfirst
  have hgrouped := (Forest.grouped_ofTokens ws).grouped
  rw [hfirst] at hgrouped
  refine h opener ?_ hgrouped.of_opener
  rw [hts, ← hws, Forest.Split.tokens, hfirst]
  rfl

section
variable {s₁ : String} {f : Grammar.File} (hf : f.WF) (htok : f.tokens = (tokens s₁).dropLast)
  (hend : s₁.toList = [] ∨ s₁.toList.getLast? = some '\n')

include hf htok hend

theorem tokens_append (s₂ : String) :
    tokens (s₁ ++ s₂) = f.tokens ++ (tokens s₂).map (Token.shift (s₁.toList.count '\n')) := by
  have hlast : ∀ t ∈ (tokens s₁).dropLast.getLast?, t.kind ≠ .quoted := by
    intro t ht
    rw [← htok] at ht
    rw [hf.getLast?_tokens t ht]
    simp
  have hstart : (⟨0, 0⟩ : Position).after s₁.toList =
      Position.shift (s₁.toList.count '\n') ⟨0, 0⟩ := by
    rw [← Position.behind_nil, ← Position.behind_append, List.nil_append, Position.behind_lines hend,
      Position.behind_nil, Position.shift, Nat.zero_add]
  rw [tokens_eq] at hlast htok
  rw [tokens_eq, String.toList_append, Scanner.tokensFrom_append s₂.toList hend hlast, hstart,
    Scanner.tokensFrom_shift, htok, tokens_eq]

/-- Behind nothing but trivia. -/
theorem read_append_of_nil (hnil : f.tokens = []) (s₂ : String) : Document.read (s₁ ++ s₂) =
    (Document.read s₂).relabel (.shift (s₁.toList.count '\n')) := by
  obtain ⟨ws, e, hts, _, _, _⟩ := Forest.exists_ofTokens s₂
  rw [Document.read, tokens_append hf htok hend, hnil, List.nil_append]
  exact Document.ofTokens_relabel (.shift (s₁.toList.count '\n')) (by simp [hts]) fun _ _ => trivial

theorem read_append_of_ne_nil (hne : f.tokens ≠ []) {s₂ : String}
    (hopen : ∀ t ∈ (tokens s₂).head?, t.kind ≠ .opening) :
    Document.read (s₁ ++ s₂) =
      let below := (Document.read s₂).relabel (.shift (s₁.toList.count '\n'))
      ⟨⟨f.document.globals, f.document.sites ++ below.document.sites⟩, below.faults⟩ := by
  let r : Relabeling := .shift (s₁.toList.count '\n')
  obtain ⟨ws, e, hts, _, _, _⟩ := Forest.exists_ofTokens s₂
  have hbelow : Document.ofTokens ((tokens s₂).map r.token) = (Document.read s₂).relabel r :=
    Document.ofTokens_relabel r (by simp [hts]) fun _ _ => trivial
  have hfirst : ∀ opener inside closer rest,
      (Forest.ofTokens ((tokens s₂).map r.token)).first ≠ .block opener inside closer rest := by
    intro opener inside closer rest heq
    rw [r.ofTokens_map] at heq
    exact first_not_block hopen (Forest.map_eq_block heq)
  have hfinish : (f.tokens ++ (tokens s₂).map r.token).getLast? =
      ((tokens s₂).map r.token).getLast? := List.getLast?_append_of_ne_nil _ (by simp [hts])
  rw [Document.read, tokens_append hf htok hend]
  change Document.ofTokens (f.tokens ++ (tokens s₂).map r.token) = _
  rw [← hbelow, Document.ofTokens, hfinish, ← f.tokens_forest,
    Forest.ofTokens_tokens_append hf.closed, Grammar.ofForest_append _ hf hne hfirst]
  rfl

end

/-- A text without faults that ends with a line feed does not touch what is written below it. Its
sites come before those of the text below, which is read as if it stood alone, as many lines further
down as the first text has. Global options come from the first text, unless it has no tokens. -/
theorem read_append {s₁ s₂ : String} (hfaults : (Document.read s₁).faults = [])
    (hend : s₁.toList = [] ∨ s₁.toList.getLast? = some '\n')
    (hopen : (tokens s₁).dropLast = [] ∨ ∀ t ∈ (tokens s₂).head?, t.kind ≠ .opening) :
    let k := s₁.toList.count '\n'
    (Document.read (s₁ ++ s₂)).document.globals =
        (if (tokens s₁).dropLast = [] then
          (Document.read s₂).document.globals.map (Globals.map (Token.shift k) (· + k))
        else (Document.read s₁).document.globals) ∧
      (Document.read (s₁ ++ s₂)).document.sites =
        (Document.read s₁).document.sites ++
          (Document.read s₂).document.sites.map (Site.map (Token.shift k) (· + k)) ∧
      (Document.read (s₁ ++ s₂)).faults =
        (Document.read s₂).faults.map fun f => ⟨f.cause, f.span.shift k⟩ := by
  intro k
  obtain ⟨f, hf, htok⟩ := Grammar.exists_of_faultless hfaults
  rw [Grammar.read_of_tokens hf htok, ← htok, ← Fault.relabel_shift]
  rw [← htok] at hopen
  by_cases hnil : f.tokens = []
  · obtain rfl := Grammar.File.tokens_eq_nil hnil
    rw [read_append_of_nil hf htok hend hnil, if_pos hnil]
    exact ⟨rfl, rfl, rfl⟩
  · rw [read_append_of_ne_nil hf htok hend hnil (hopen.resolve_left hnil), if_neg hnil]
    exact ⟨rfl, rfl, rfl⟩

theorem read_append_open_site :
    (Document.read "\x7b\n\tdebug\n\x7d\na \"b\" \x7b\n\x7d # c\n").faults = [] ∧
      (Document.read ("\x7b\n\tdebug\n\x7d\na \"b\" \x7b\n\x7d # c\n" ++ "d\n e \x7b\n\tf")).faults =
        [⟨.missingBlock, ⟨5, 0⟩, ⟨5, 1⟩⟩, ⟨.unclosedSite "e", ⟨6, 3⟩, ⟨6, 4⟩⟩] := by
  have hfirst : (Document.read "\x7b\n\tdebug\n\x7d\na \"b\" \x7b\n\x7d # c\n").faults = [] := by
    decide +kernel
  have hopen : ∀ t ∈ (tokens "d\n e \x7b\n\tf").head?, t.kind ≠ .opening := by decide +kernel
  refine ⟨hfirst, ?_⟩
  rw [(read_append hfirst (.inr (by decide +kernel)) (.inr hopen)).2.2]
  decide +kernel

end Caddyfile
