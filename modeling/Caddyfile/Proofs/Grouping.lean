import Caddyfile.Forest
import Caddyfile.Proofs.Scanning

/-!
# Grouping by braces and back

A forest spells the tokens it was built from (`tokens_ofTokens`), and tokens that already come from
a forest without open blocks are grouped into that forest (`ofTokens_tokens_append`). So the closed
forests are in step with the token rows whose braces pair up.
-/

namespace Caddyfile

namespace Forest

def tokens : Forest → List Token
  | nil => []
  | word t rest => t :: rest.tokens
  | block opener inside closer rest =>
    opener :: (inside.tokens ++ (closer.toList ++ rest.tokens))

def append : Forest → Forest → Forest
  | nil, g => g
  | word t rest, g => word t (rest.append g)
  | block opener inside closer rest, g => block opener inside closer (rest.append g)

@[simp] theorem append_nil : ∀ f : Forest, f.append nil = f
  | nil => rfl
  | word t rest => by rw [append, append_nil rest]
  | block opener inside closer rest => by rw [append, append_nil rest]

/-- Every token is where its kind belongs, and every block is closed. -/
def Closed : Forest → Prop
  | nil => True
  | word t rest => t.isWord ∧ rest.Closed
  | block _ _ none _ => False
  | block opener inside (some closer) rest =>
    opener.kind = .opening ∧ inside.Closed ∧ closer.kind = .closing ∧ rest.Closed

/-- Every token is where its kind belongs, and a block that is not closed holds all the rest. -/
def Grouped : Forest → Prop
  | nil => True
  | word t rest => t.isWord ∧ rest.Grouped
  | block opener inside none rest => opener.kind = .opening ∧ inside.Grouped ∧ rest = nil
  | block opener inside (some closer) rest =>
    opener.kind = .opening ∧ inside.Closed ∧ closer.kind = .closing ∧ rest.Grouped

theorem Closed.grouped : ∀ {f : Forest}, f.Closed → f.Grouped
  | nil, _ => trivial
  | word _ _, ⟨ht, hr⟩ => ⟨ht, hr.grouped⟩
  | block _ _ (some _) _, ⟨ho, hi, hc, hr⟩ => ⟨ho, hi, hc, hr.grouped⟩

section
variable {opener : Token} {inside : Forest} {closer : Option Token} {rest : Forest}
  (h : (block opener inside closer rest).Grouped)
include h

theorem Grouped.of_opener : opener.kind = .opening := by
  cases closer with
  | none | some _ => exact h.1

theorem Grouped.of_inside : inside.Grouped := by
  cases closer with
  | none => exact h.2.1
  | some _ => exact h.2.1.grouped

theorem Grouped.of_rest : rest.Grouped := by
  cases closer with
  | none => rw [h.2.2]; trivial
  | some _ => exact h.2.2.2

end

/-! ## Stretches between stray closing braces -/

namespace Split

def tokens (s : Split) : List Token :=
  s.first.tokens ++ s.later.flatMap fun p => p.1 :: p.2.tokens

/-- A block may be left open only in the last stretch: any closing brace after it would close it. -/
def GroupedFrom : Forest → List (Token × Forest) → Prop
  | f, [] => f.Grouped
  | f, (closer, g) :: later => f.Closed ∧ closer.kind = .closing ∧ GroupedFrom g later

theorem GroupedFrom.grouped {f : Forest} {later : List (Token × Forest)}
    (h : GroupedFrom f later) : f.Grouped := by
  cases later with
  | nil => exact h
  | cons p later => exact h.1.grouped

theorem GroupedFrom.of_rest {opener : Token} {inside rest : Forest} {closer : Option Token}
    {later : List (Token × Forest)} (h : GroupedFrom (block opener inside closer rest) later) :
    GroupedFrom rest later := by
  cases later with
  | nil => exact Forest.Grouped.of_rest h
  | cons p later =>
    cases closer with
    | none => exact absurd h.1 id
    | some closer => exact ⟨h.1.2.2.2, h.2⟩

def Grouped (s : Split) : Prop :=
  GroupedFrom s.first s.later

theorem grouped_cons {t : Token} {s : Split} (h : s.Grouped) : (cons t s).Grouped := by
  obtain ⟨first, later⟩ := s
  cases hk : t.kind with
  | bare | quoted =>
    have ht : t.isWord := by simp [Token.isWord, hk, Token.Kind.isWord]
    cases later with
    | nil => simpa [cons, hk, Grouped, GroupedFrom, Forest.Grouped, ht] using h
    | cons p later => simpa [cons, hk, Grouped, GroupedFrom, Closed, ht] using h
  | opening =>
    cases later with
    | nil => simpa [cons, hk, Grouped, GroupedFrom, Forest.Grouped] using h
    | cons p later =>
      obtain ⟨hf, hc, hl⟩ := h
      cases later with
      | nil => simpa [cons, hk, Grouped, GroupedFrom, Forest.Grouped] using ⟨hf, hc, hl⟩
      | cons q later => simpa [cons, hk, Grouped, GroupedFrom, Closed, hf, hc] using hl
  | closing => simpa [cons, hk, Grouped, GroupedFrom, Closed] using h
  | finish => simpa [cons, hk] using h

theorem tokens_cons {t : Token} (hk : t.kind ≠ .finish) (s : Split) :
    (cons t s).tokens = t :: s.tokens := by
  obtain ⟨first, later⟩ := s
  cases h : t.kind with
  | bare | quoted | closing => simp [cons, h, tokens, Forest.tokens]
  | opening => cases later <;> simp [cons, h, tokens, Forest.tokens]
  | finish => exact absurd h hk

end Split

theorem ofTokens_nil : ofTokens [] = ⟨nil, []⟩ := rfl

theorem ofTokens_cons (t : Token) (ts : List Token) :
    ofTokens (t :: ts) = Split.cons t (ofTokens ts) := rfl

theorem grouped_ofTokens : ∀ ts : List Token, (ofTokens ts).Grouped
  | [] => trivial
  | _ :: ts => Split.grouped_cons (grouped_ofTokens ts)

theorem ofTokens_finish {e : Token} (he : e.kind = .finish) (ts : List Token) :
    ofTokens (ts ++ [e]) = ofTokens ts := by
  simp [ofTokens, Split.cons, he]

theorem tokens_ofTokens {ts : List Token} (h : ∀ t ∈ ts, t.kind ≠ .finish) :
    (ofTokens ts).tokens = ts := by
  induction ts with
  | nil => rfl
  | cons t ts ih =>
    rw [ofTokens_cons, Split.tokens_cons (h t (by simp)), ih fun u hu => h u (by simp [hu])]

theorem ofTokens_subset (ts : List Token) : (ofTokens ts).tokens ⊆ ts := by
  induction ts with
  | nil => exact List.nil_subset _
  | cons t ts ih =>
    rw [ofTokens_cons]
    by_cases hk : t.kind = .finish
    · simp only [Split.cons, hk]
      exact List.subset_cons_of_subset t ih
    · rw [Split.tokens_cons hk]
      exact List.cons_subset_cons t ih

theorem ofTokens_tokens_append {f : Forest} (h : f.Closed) (ts : List Token) :
    ofTokens (f.tokens ++ ts) = ⟨f.append (ofTokens ts).first, (ofTokens ts).later⟩ := by
  induction f generalizing ts with
  | nil => rfl
  | word t rest ih =>
    obtain ⟨ht, hr⟩ := h
    rw [tokens, List.cons_append, ofTokens_cons, ih hr]
    cases hk : t.kind with
    | bare | quoted => simp [Split.cons, hk, append]
    | _ => simp [Token.isWord, hk, Token.Kind.isWord] at ht
  | block opener inside closer rest ihi ihr =>
    cases closer with
    | none => exact absurd h id
    | some closer =>
      obtain ⟨ho, hi, hc, hr⟩ := h
      have e : (block opener inside (some closer) rest).tokens ++ ts =
          opener :: (inside.tokens ++ (closer :: (rest.tokens ++ ts))) := by simp [tokens]
      rw [e, ofTokens_cons, ihi hi, ofTokens_cons, ihr hr]
      simp [Split.cons, ho, hc, append]

theorem ofTokens_tokens {f : Forest} (h : f.Closed) : ofTokens f.tokens = ⟨f, []⟩ := by
  have := ofTokens_tokens_append h []
  rwa [List.append_nil, ofTokens_nil, append_nil] at this

theorem exists_ofTokens (source : String) :
    ∃ ws e, Caddyfile.tokens source = ws ++ [e] ∧ e.kind = .finish ∧
      ofTokens (Caddyfile.tokens source) = ofTokens ws ∧ (ofTokens ws).tokens = ws := by
  obtain ⟨ws, e, hts, he, _, hws⟩ := tokens_finish_last source
  exact ⟨ws, e, hts, he, by rw [hts, ofTokens_finish he], tokens_ofTokens hws⟩

end Forest

end Caddyfile
