import Mathlib.Data.List.Basic
import Caddyfile.Proofs.Indentation

/-!
# Scanning a text in two parts

A scan that comes to the end of a line outside of a quoted string starts there as if nothing had
gone before, but for its position. So the tokens of two texts put together are those of the first
and then those of the second (`tokensFrom_append`), and a position further down moves tokens without
changing them (`tokensFrom_shift`).
-/

namespace Caddyfile

namespace Token

/-! ## Steps of a scan -/

theorem splitTrivia_comment (c : Char) (cs : List Char) : splitTrivia true (c :: cs) =
    (c :: (splitTrivia (c != '\n') cs).1, (splitTrivia (c != '\n') cs).2) := rfl

theorem splitTrivia_skip {c : Char} (h : isSpace c || c = '#') (cs : List Char) :
    splitTrivia false (c :: cs) =
      (c :: (splitTrivia (c = '#') cs).1, (splitTrivia (c = '#') cs).2) := by
  simp only [splitTrivia, if_pos h]
  rfl

theorem splitTrivia_stop {c : Char} (h : ¬ (isSpace c || c = '#')) (cs : List Char) :
    splitTrivia false (c :: cs) = ([], c :: cs) := by
  simp only [splitTrivia, if_neg h]
  rfl

theorem splitLexeme_closing (cs : List Char) :
    splitLexeme ('}' :: cs) = some ⟨.closing, ['}'], cs⟩ := rfl

theorem splitLexeme_opening {cs : List Char} (h : standsAlone cs) :
    splitLexeme ('{' :: cs) = some ⟨.opening, ['{'], cs⟩ := by
  simp [splitLexeme, h]

theorem splitLexeme_quoted {q : Char} (h : q = '"' ∨ q = '\x60') (cs : List Char) :
    splitLexeme (q :: cs) = some ⟨.quoted, q :: (splitQuoted q (q = '"') false cs).1,
      (splitQuoted q (q = '"') false cs).2⟩ := by
  rcases h with rfl | rfl <;> simp [splitLexeme]

/-- The characters that a bare word cannot start with. In front of `cs`, an opening brace can be a
block of its own. -/
def startsBare (c : Char) (cs : List Char) : Bool :=
  c != '}' && !(c = '{' && standsAlone cs) && c != '"' && c != '\x60'

theorem splitLexeme_bare {c : Char} {cs : List Char} (h : startsBare c cs) :
    splitLexeme (c :: cs) =
      some ⟨.bare, c :: cs.takeWhile (!isSpace ·), cs.dropWhile (!isSpace ·)⟩ := by
  simp only [startsBare, Bool.and_eq_true, bne_iff_ne, ne_eq, Bool.not_eq_true'] at h
  obtain ⟨⟨⟨hclose, hopen⟩, hquote⟩, htick⟩ := h
  simp [splitLexeme, hclose, hopen, hquote, htick]

theorem splitLexeme_cases {cs : List Char} {l : Lexeme} (h : splitLexeme cs = some l) :
    ∃ c rest, cs = c :: rest ∧
      (c = '}' ∧ l = ⟨.closing, [c], rest⟩ ∨
        c = '{' ∧ standsAlone rest ∧ l = ⟨.opening, [c], rest⟩ ∨
        (c = '"' ∨ c = '\x60') ∧ l = ⟨.quoted, c :: (splitQuoted c (c = '"') false rest).1,
          (splitQuoted c (c = '"') false rest).2⟩ ∨
        startsBare c rest ∧
          l = ⟨.bare, c :: rest.takeWhile (!isSpace ·), rest.dropWhile (!isSpace ·)⟩) := by
  cases cs with
  | nil => simp [splitLexeme] at h
  | cons c rest =>
    refine ⟨c, rest, rfl, ?_⟩
    by_cases hclose : c = '}'
    · subst hclose
      exact .inl ⟨rfl, by simpa [splitLexeme] using h.symm⟩
    by_cases hopen : c = '{' ∧ standsAlone rest
    · obtain ⟨rfl, halone⟩ := hopen
      rw [splitLexeme_opening halone] at h
      exact .inr (.inl ⟨rfl, halone, by simpa using h.symm⟩)
    by_cases hquote : c = '"' ∨ c = '\x60'
    · rw [splitLexeme_quoted hquote] at h
      exact .inr (.inr (.inl ⟨hquote, by simpa using h.symm⟩))
    · have hbare : startsBare c rest := by
        have halone : (c = '{' && standsAlone rest) = false := by simpa using hopen
        simp only [not_or] at hquote
        simp [startsBare, hclose, hquote, halone]
      rw [splitLexeme_bare hbare] at h
      exact .inr (.inr (.inr ⟨hbare, by simpa using h.symm⟩))

end Token

namespace Scanner

open Token

theorem tokensFrom_eq (start : Position) (cs : List Char) : tokensFrom start cs =
    match splitLexeme (splitTrivia false cs).2 with
    | none => [⟨.finish, "", start.after (splitTrivia false cs).1⟩]
    | some l => ⟨l.kind, String.ofList l.text, start.after (splitTrivia false cs).1⟩ ::
        tokensFrom ((start.after (splitTrivia false cs).1).after l.text) l.rest := by
  rw [tokensFrom]
  split <;> rename_i h <;> simp only [h]

theorem tokensFrom_ne_nil (start : Position) (cs : List Char) : tokensFrom start cs ≠ [] := by
  rw [tokensFrom_eq]
  split <;> simp

end Scanner

theorem tokens_eq (source : String) : tokens source = Scanner.tokensFrom ⟨0, 0⟩ source.toList := rfl

namespace Token

/-! ## Trivia and lexemes in front of more text -/

theorem splitTrivia_append_right {comment : Bool} {cs : List Char} (ds : List Char)
    (h : (splitTrivia comment cs).2 ≠ []) :
    splitTrivia comment (cs ++ ds) =
      ((splitTrivia comment cs).1, (splitTrivia comment cs).2 ++ ds) := by
  induction cs generalizing comment with
  | nil => exact absurd rfl h
  | cons c cs ih =>
    rw [List.cons_append]
    cases comment with
    | true =>
      rw [splitTrivia_comment] at h ⊢
      rw [splitTrivia_comment, ih h]
    | false =>
      by_cases hc : isSpace c || c = '#'
      · rw [splitTrivia_skip hc] at h ⊢
        rw [splitTrivia_skip hc, ih h]
      · rw [splitTrivia_stop hc, splitTrivia_stop hc, List.cons_append]

theorem splitTrivia_append_of_nil {comment : Bool} {cs : List Char} (ds : List Char)
    (h : (splitTrivia comment cs).2 = [])
    (hend : cs = [] ∧ comment = false ∨ cs.getLast? = some '\n') :
    splitTrivia comment (cs ++ ds) =
      (cs ++ (splitTrivia false ds).1, (splitTrivia false ds).2) := by
  induction cs generalizing comment with
  | nil =>
    obtain rfl : comment = false := by simpa using hend
    rfl
  | cons c cs ih =>
    -- Behind the last line feed no comment is open.
    have hnext : ∀ inside : Bool, (c = '\n' → inside = false) →
        cs = [] ∧ inside = false ∨ cs.getLast? = some '\n' := by
      intro inside hfeed
      have hlast : (c :: cs).getLast? = some '\n' := by simpa using hend
      cases cs with
      | nil => exact .inl ⟨rfl, hfeed (by simpa using hlast)⟩
      | cons d cs => exact .inr (by simpa using hlast)
    rw [List.cons_append]
    cases comment with
    | true =>
      rw [splitTrivia_comment] at h ⊢
      rw [ih h (hnext _ (by rintro rfl; rfl)), List.cons_append]
    | false =>
      by_cases hc : isSpace c || c = '#'
      · rw [splitTrivia_skip hc] at h ⊢
        rw [ih h (hnext _ (by rintro rfl; rfl)), List.cons_append]
      · rw [splitTrivia_stop hc] at h
        cases h

theorem splitQuoted_append_right {quote : Char} {escapes escaped : Bool} {cs : List Char}
    (ds : List Char) (h : (splitQuoted quote escapes escaped cs).2 ≠ []) :
    splitQuoted quote escapes escaped (cs ++ ds) =
      ((splitQuoted quote escapes escaped cs).1, (splitQuoted quote escapes escaped cs).2 ++ ds) := by
  induction cs generalizing escaped with
  | nil => exact absurd rfl h
  | cons c cs ih =>
    rw [List.cons_append]
    unfold splitQuoted at h ⊢
    split
    · rfl
    · rename_i hc
      rw [if_neg hc] at h
      rw [ih h]

theorem standsAlone_append {cs : List Char} (h : cs ≠ []) (ds : List Char) :
    standsAlone (cs ++ ds) = standsAlone cs := by
  cases cs with
  | nil => exact absurd rfl h
  | cons c cs => rfl

theorem splitLexeme_append_right {cs : List Char} {l : Lexeme} (ds : List Char)
    (h : splitLexeme cs = some l) (hrest : l.rest ≠ []) :
    splitLexeme (cs ++ ds) = some ⟨l.kind, l.text, l.rest ++ ds⟩ := by
  obtain ⟨c, rest, rfl, hc⟩ := splitLexeme_cases h
  rw [List.cons_append]
  rcases hc with ⟨rfl, rfl⟩ | ⟨rfl, halone, rfl⟩ | ⟨hq, rfl⟩ | ⟨hbare, rfl⟩
  · rfl
  · rw [splitLexeme_opening (by rwa [standsAlone_append hrest])]
  · rw [splitLexeme_quoted hq, splitQuoted_append_right ds hrest]
  · -- The word ends before the end of the text, so what follows is not its own.
    have hrest : rest.dropWhile (!isSpace ·) ≠ [] := hrest
    have hne : rest ≠ [] := by rintro rfl; exact hrest rfl
    have hshort : (rest.takeWhile (!isSpace ·)).length ≠ rest.length := by
      have hall := congrArg List.length
        (List.takeWhile_append_dropWhile (p := (!isSpace ·)) (l := rest))
      have hpos := List.length_pos_iff.mpr hrest
      rw [List.length_append] at hall
      omega
    rw [splitLexeme_bare (by rwa [startsBare, standsAlone_append hne]), List.takeWhile_append,
      if_neg hshort, List.dropWhile_append, if_neg (by simpa using hrest)]

/-- Outside of quoted strings a token has no line feed in it. -/
theorem feed_not_mem_lexeme {cs : List Char} {l : Lexeme} (h : splitLexeme cs = some l)
    (hhead : ∀ c ∈ cs.head?, isSpace c = false) (hk : l.kind ≠ .quoted) : '\n' ∉ l.text := by
  obtain ⟨c, rest, rfl, hl⟩ := splitLexeme_cases h
  rcases hl with ⟨rfl, rfl⟩ | ⟨rfl, _, rfl⟩ | ⟨_, rfl⟩ | ⟨_, rfl⟩
  · simp
  · simp
  · exact absurd rfl hk
  · intro hmem
    rcases List.mem_cons.mp hmem with rfl | hmem
    · exact absurd (hhead _ rfl) (by decide)
    · have hall := List.all_eq_true.mp (List.all_takeWhile (p := (!isSpace ·)) (l := rest)) _ hmem
      exact absurd hall (by decide)

/-- In a text that ends with a line feed, only a quoted string can run up to the end. -/
theorem splitLexeme_rest_ne_nil {cs : List Char} {l : Lexeme} (h : splitLexeme cs = some l)
    (hhead : ∀ c ∈ cs.head?, isSpace c = false) (hend : cs.getLast? = some '\n')
    (hk : l.kind ≠ .quoted) : l.rest ≠ [] := by
  intro hnil
  have htext := splitLexeme_append h
  rw [hnil, List.append_nil] at htext
  rw [← htext] at hend
  exact feed_not_mem_lexeme h hhead hk (List.mem_of_getLast? hend)

end Token

namespace Scanner

open Token

/-! ## The tokens of two texts -/

theorem tokensFrom_append {start : Position} {cs : List Char} (ds : List Char)
    (hend : cs = [] ∨ cs.getLast? = some '\n')
    (hlast : ∀ t ∈ (tokensFrom start cs).dropLast.getLast?, t.kind ≠ .quoted) :
    tokensFrom start (cs ++ ds) =
      (tokensFrom start cs).dropLast ++ tokensFrom (start.after cs) ds := by
  fun_induction tokensFrom start cs with
  | case1 start cs gap start' hnone =>
    have hrest : gap.2 = [] := splitLexeme_eq_none hnone
    have hsplit := splitTrivia_append_of_nil ds hrest (hend.imp_left fun h => ⟨h, rfl⟩)
    rw [tokensFrom_eq, hsplit, tokensFrom_eq (start.after cs), Position.after_append]
    rfl
  | case2 start cs gap start' l hl ih =>
    have htrivia : gap.1 ++ gap.2 = cs := splitTrivia_append false cs
    have htext : l.text ++ l.rest = gap.2 := splitLexeme_append hl
    have hne : gap.2 ≠ [] := by
      intro hnil
      simp [hnil, splitLexeme] at hl
    have hfeed : gap.2.getLast? = some '\n' := by
      rw [← htrivia, List.getLast?_append_of_ne_nil _ hne] at hend
      exact hend.resolve_left (by simp [hne])
    have hrest : l.rest ≠ [] := by
      intro hnil
      refine splitLexeme_rest_ne_nil hl (fun c hc => (head_splitTrivia hc).1) hfeed ?_ hnil
      exact hlast ⟨l.kind, String.ofList l.text, start'⟩
        (by simp [hnil, tokensFrom_eq, splitTrivia, splitLexeme])
    have hsplit : splitTrivia false (cs ++ ds) = (gap.1, gap.2 ++ ds) :=
      splitTrivia_append_right ds hne
    have hafter : start.after cs = (start'.after l.text).after l.rest := by
      rw [← htrivia, ← htext, Position.after_append, Position.after_append]
    rw [← htext, List.getLast?_append_of_ne_nil _ hrest] at hfeed
    have hnil := tokensFrom_ne_nil (start'.after l.text) l.rest
    rw [tokensFrom_eq, hsplit, splitLexeme_append_right ds hl hrest, hafter]
    simp only
    rw [ih (.inr hfeed) ?_, List.dropLast_cons_of_ne_nil hnil]
    · rfl
    · intro t ht
      rw [List.dropLast_cons_of_ne_nil hnil] at hlast
      refine hlast t ?_
      rw [List.getLast?_cons, Option.mem_def.mp ht]
      rfl

end Scanner

/-! ## Further down -/

def Position.shift (k : Nat) (p : Position) : Position :=
  ⟨p.line + k, p.column⟩

def Span.shift (k : Nat) (s : Span) : Span :=
  ⟨s.start.shift k, s.stop.shift k⟩

/-- The same token `k` lines further down. -/
def Token.shift (k : Nat) (t : Token) : Token :=
  { t with start := t.start.shift k }

theorem Position.step_shift (k : Nat) (p : Position) (c : Char) :
    (p.shift k).step c = (p.step c).shift k := by
  unfold step shift
  split
  · simp only [Position.mk.injEq, and_true]
    omega
  · split <;> rfl

theorem Position.after_shift (k : Nat) : ∀ (p : Position) (cs : List Char),
    (p.shift k).after cs = (p.after cs).shift k
  | _, [] => rfl
  | p, c :: cs => by rw [after_cons, step_shift, after_shift k _ cs, after_cons]

theorem Token.stop_shift (k : Nat) (t : Token) : (t.shift k).stop = t.stop.shift k :=
  Position.after_shift k t.start t.text.toList

open Token in
theorem Scanner.tokensFrom_shift (k : Nat) (start : Position) (cs : List Char) :
    tokensFrom (start.shift k) cs = (tokensFrom start cs).map (Token.shift k) := by
  fun_induction tokensFrom start cs with
  | case1 start cs gap start' hnone =>
    rw [tokensFrom_eq, show splitLexeme (splitTrivia false cs).2 = none from hnone,
      Position.after_shift]
    rfl
  | case2 start cs gap start' l hl ih =>
    rw [tokensFrom_eq, show splitLexeme (splitTrivia false cs).2 = some l from hl]
    simp only [Position.after_shift, List.map_cons, ← ih]
    rfl

end Caddyfile
