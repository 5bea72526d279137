import Caddyfile.Proofs.Rendering

/-!
# The shape of tokens

`Shaped` says how a token of each kind is spelled and what may stand behind it. Together with the
rule for what stands between tokens this leaves only one way to cut a text, and it is the way of a
scan (`tokens_shaped`).
-/

namespace Caddyfile

namespace Token

/-- How a token of each kind is spelled, in front of the text `rest`. A string ends with the first
quote that closes it; if there is none, it takes all of the text. -/
inductive Shaped : Kind → List Char → List Char → Prop where
  | bare {text rest : List Char} (ht : isBareText text) (hr : ∀ c ∈ rest.head?, isSpace c) :
    Shaped .bare text rest
  | opening {rest : List Char} (hr : ∀ c ∈ rest.head?, c = '}' ∨ isSpace c) :
    Shaped .opening ['{'] rest
  | closing {rest : List Char} : Shaped .closing ['}'] rest
  | quoted {q : Char} {body rest : List Char} (hq : q = '"' ∨ q = '\x60') (hb : closes q body) :
    Shaped .quoted (q :: body) rest
  | unterminated {q : Char} {body : List Char} (hq : q = '"' ∨ q = '\x60')
    (hb : ∀ inner, inner <+: body → ¬ closes q inner) : Shaped .quoted (q :: body) []

/-! ## Strings -/

/-- A quote left open stays open behind a backslash and the character it takes along. -/
theorem not_closes_of_escape {d : Char} {cs : List Char}
    (h : ∀ inner, inner <+: '\\' :: d :: cs → ¬ closes '"' inner) :
    ∀ inner, inner <+: cs → ¬ closes '"' inner := by
  intro inner hinner hcloses
  exact h ('\\' :: d :: inner) (by simpa using hinner) (by simpa [closes] using hcloses)

theorem not_closes_of_cons {quote c : Char} {cs : List Char}
    (hesc : ¬ (quote = '"' && c = '\\')) (h : ∀ inner, inner <+: c :: cs → ¬ closes quote inner) :
    c ≠ quote ∧ ∀ inner, inner <+: cs → ¬ closes quote inner := by
  have hc : c ≠ quote := by simpa [closes] using h [c] (by simp)
  have hback : (decide (quote = '"') && decide (c = '\\')) = false := by simpa using hesc
  refine ⟨hc, fun inner hinner hcloses => ?_⟩
  cases inner with
  | nil => cases hcloses
  | cons e inner =>
    exact h (c :: e :: inner) (by simpa using hinner) (by simp [closes, hback, hc, hcloses])

theorem splitQuoted_of_not_closes {quote : Char} {cs : List Char}
    (h : ∀ inner, inner <+: cs → ¬ closes quote inner) :
    splitQuoted quote (quote = '"') false cs = (cs, []) := by
  fun_induction closes quote cs with
  | case1 => rfl
  | case2 c =>
    have hc : c ≠ quote := by simpa [closes] using h [c] List.prefix_rfl
    simp [splitQuoted, hc]
  | case3 c d cs hesc ih =>
    simp only [Bool.and_eq_true, decide_eq_true_eq] at hesc
    obtain ⟨rfl, rfl⟩ := hesc
    have hrest : splitQuoted '"' true false cs = (cs, []) := ih (not_closes_of_escape h)
    simp [splitQuoted, hrest]
  | case4 c d cs hesc ih =>
    obtain ⟨hc, htail⟩ := not_closes_of_cons hesc h
    have hback : (decide (quote = '"') && decide (c = '\\')) = false := by simpa using hesc
    rw [splitQuoted]
    simp [hc, hback, ih htail]

theorem shaped_splitQuoted {q : Char} (hq : q = '"' ∨ q = '\x60') (cs : List Char) :
    Shaped .quoted (q :: (splitQuoted q (q = '"') false cs).1)
      (splitQuoted q (q = '"') false cs).2 := by
  by_cases h : ∃ inner, inner <+: cs ∧ closes q inner
  · obtain ⟨inner, ⟨rest, rfl⟩, hcloses⟩ := h
    rw [splitQuoted_closes hcloses]
    exact .quoted hq hcloses
  · have hnone : ∀ inner, inner <+: cs → ¬ closes q inner := by simpa using h
    rw [splitQuoted_of_not_closes hnone]
    exact .unterminated hq hnone

/-! ## Words -/

theorem isBareText_of_startsBare {c : Char} {cs : List Char} (h : startsBare c cs)
    (hspace : isSpace c = false) (hhash : c ≠ '#') :
    isBareText (c :: cs.takeWhile (!isSpace ·)) := by
  have hall : (cs.takeWhile (!isSpace ·)).all (!isSpace ·) := List.all_takeWhile
  simp only [startsBare, Bool.and_eq_true, bne_iff_ne, ne_eq, Bool.not_eq_true'] at h
  obtain ⟨⟨⟨hclose, hopen⟩, hquote⟩, htick⟩ := h
  by_cases hc : c = '{'
  · -- the brace does not stand alone, so the word goes on
    subst hc
    cases cs with
    | nil => simp [standsAlone] at hopen
    | cons d cs =>
      have hd : d ≠ '}' ∧ isSpace d = false := by simpa [standsAlone] using hopen
      simp only [isBareText, hall, Bool.true_and]
      simp [hd]
  · unfold isBareText
    split
    · rename_i heq; cases heq
    · rename_i heq
      exact absurd (List.cons.inj heq).1 hc
    · rename_i heq
      obtain ⟨rfl, rfl⟩ := List.cons.inj heq
      simp [hspace, hclose, hquote, htick, hhash]

/-! ## Lexemes -/

theorem shaped_splitLexeme {cs : List Char} {l : Lexeme} (h : splitLexeme cs = some l)
    (hhead : ∀ c ∈ cs.head?, isSpace c = false ∧ c ≠ '#') : Shaped l.kind l.text l.rest := by
  obtain ⟨c, rest, rfl, hl⟩ := splitLexeme_cases h
  obtain ⟨hspace, hhash⟩ := hhead c rfl
  rcases hl with ⟨rfl, rfl⟩ | ⟨rfl, halone, rfl⟩ | ⟨hq, rfl⟩ | ⟨hbare, rfl⟩
  · exact .closing
  · refine .opening fun d hd => ?_
    obtain ⟨tail, rfl⟩ := List.head?_eq_some_iff.mp hd
    simpa [standsAlone] using halone
  · exact shaped_splitQuoted hq rest
  · refine .bare (isBareText_of_startsBare hbare hspace hhash) fun d hd => ?_
    have := List.head?_dropWhile_not (!isSpace ·) rest
    simp [Option.mem_def.mp hd] at this
    exact this

variable {kind : Kind} {text rest : List Char}

theorem splitLexeme_shaped (h : Shaped kind text rest) :
    splitLexeme (text ++ rest) = some ⟨kind, text, rest⟩ := by
  cases h with
  | bare ht hr => exact splitLexeme_isBareText ht hr
  | opening hr =>
    refine splitLexeme_opening ?_
    cases rest with
    | nil => rfl
    | cons c rest => simpa [standsAlone] using hr c rfl
  | closing => exact splitLexeme_closing rest
  | quoted hq hb => rw [List.cons_append, splitLexeme_quoted hq, splitQuoted_closes hb]
  | unterminated hq hb =>
    rw [List.append_nil, splitLexeme_quoted hq, splitQuoted_of_not_closes hb]

theorem Shaped.exists_cons (h : Shaped kind text rest) :
    ∃ c cs, text = c :: cs ∧ ¬ (isSpace c || c = '#') := by
  cases h with
  | bare ht _ =>
    cases text with
    | nil => cases ht
    | cons c cs =>
      have hspace := not_isSpace_of_isBareText ht c (by simp)
      exact ⟨c, cs, rfl, by simpa [ne_hash_of_isBareText ht] using hspace⟩
  | opening _ | closing => exact ⟨_, _, rfl, by decide⟩
  | quoted hq _ | unterminated hq _ => exact ⟨_, _, rfl, by rcases hq with rfl | rfl <;> decide⟩

/-! ## Trivia -/

theorem splitTrivia_comment_append {body : List Char} (more : List Char) (hb : '\n' ∉ body)
    (hm : ∀ c ∈ more.head?, c = '\n') : splitTrivia true (body ++ more) =
      (body ++ (splitTrivia false more).1, (splitTrivia false more).2) := by
  induction body with
  | nil =>
    cases more with
    | nil => rfl
    | cons c more =>
      obtain rfl := hm c rfl
      rfl
  | cons c body ih =>
    have hc : (c != '\n') = true := by
      simp only [bne_iff_ne]
      exact fun e => hb (by simp [e])
    rw [List.cons_append, splitTrivia_comment, hc, ih fun h => hb (List.mem_cons_of_mem c h)]
    rfl

/-- Trivia in front of a text that starts with none is cut off as a whole. -/
theorem splitTrivia_trivia {gap : List Char} (h : Trivia rest gap)
    (hr : ∀ c ∈ rest.head?, ¬ (isSpace c || c = '#')) :
    splitTrivia false (gap ++ rest) = (gap, rest) := by
  induction h with
  | nil =>
    cases rest with
    | nil => rfl
    | cons c rest => exact splitTrivia_stop (hr c rfl) rest
  | @space c cs hc _ ih =>
    have hhash : c ≠ '#' := by
      rintro rfl
      exact absurd hc (by decide)
    rw [List.cons_append, splitTrivia_skip (by simp [hc])]
    simp [hhash, ih]
  | comment hb hc _ ih =>
    rw [List.cons_append, splitTrivia_skip (by decide), List.append_assoc]
    simp [splitTrivia_comment_append _ hb hc, ih]

end Token

/-! ## Cutting a text -/

/-- A text cut into tokens of these kinds and spellings, with trivia in front of each. -/
inductive Cut : List Char → List (Token.Kind × List Char) → Prop where
  | finish {gap : List Char} (hg : Trivia [] gap) : Cut gap [(.finish, [])]
  | token {kind : Token.Kind} {gap text rest : List Char} {ls : List (Token.Kind × List Char)}
    (hg : Trivia (text ++ rest) gap) (ht : Token.Shaped kind text rest) (hs : Cut rest ls) :
    Cut (gap ++ (text ++ rest)) ((kind, text) :: ls)

def Token.spelling (t : Token) : Token.Kind × List Char :=
  (t.kind, t.text.toList)

namespace Scanner

open Token

theorem cut_tokensFrom (start : Position) (cs : List Char) :
    Cut cs ((tokensFrom start cs).map spelling) := by
  fun_induction tokensFrom start cs with
  | case1 start cs gap start' hnone =>
    have hrest : gap.2 = [] := splitLexeme_eq_none hnone
    have hgap : gap.1 ++ gap.2 = cs := splitTrivia_append false cs
    have htrivia : Trivia gap.2 gap.1 := trivia_splitTrivia cs
    rw [hrest, List.append_nil] at hgap
    rw [hrest, hgap] at htrivia
    exact .finish htrivia
  | case2 start cs gap start' l hl ih =>
    have hgap : gap.1 ++ gap.2 = cs := splitTrivia_append false cs
    have htext : l.text ++ l.rest = gap.2 := splitLexeme_append hl
    have hshaped : Shaped l.kind l.text l.rest :=
      shaped_splitLexeme hl fun _ hc => head_splitTrivia hc
    have htrivia : Trivia gap.2 gap.1 := trivia_splitTrivia cs
    rw [← htext] at hgap htrivia
    rw [← hgap]
    simpa [spelling] using Cut.token htrivia hshaped ih

theorem eq_of_cut {cs : List Char} {ls : List (Kind × List Char)} (h : Cut cs ls)
    (start : Position) : ls = (tokensFrom start cs).map spelling := by
  induction h generalizing start with
  | finish hg =>
    have hsplit := splitTrivia_trivia hg (by simp)
    rw [List.append_nil] at hsplit
    rw [tokensFrom_eq, hsplit]
    rfl
  | token hg ht _ ih =>
    -- neither the gap nor the token can be any longer or shorter
    obtain ⟨c, cs, hcons, hc⟩ := ht.exists_cons
    have hsplit := splitTrivia_trivia hg fun d hd => by
      obtain rfl : c = d := by simpa [hcons] using hd
      exact hc
    rw [tokensFrom_eq, hsplit]
    simp only [splitLexeme_shaped ht, List.map_cons, ← ih]
    simp [spelling]

theorem shaped_of_mem (past : List Char) {cs : List Char} {t : Token}
    (ht : t ∈ tokensFrom (.behind past) cs) (hk : t.kind ≠ .finish) : ∃ before rest,
      past ++ cs = before ++ (t.text.toList ++ rest) ∧ t.start = .behind before ∧
        Shaped t.kind t.text.toList rest := by
  generalize hstart : Position.behind past = start at ht
  fun_induction tokensFrom start cs generalizing past with
  | case1 start cs gap start' =>
    obtain rfl := List.mem_singleton.mp ht
    exact absurd rfl hk
  | case2 start cs gap start' l hl ih =>
    have htext : l.text ++ l.rest = gap.2 := splitLexeme_append hl
    have hcs : gap.1 ++ (l.text ++ l.rest) = cs := by
      rw [htext]
      exact splitTrivia_append false cs
    have hplace : Position.behind (past ++ gap.1) = start' := by
      rw [Position.behind_append, hstart]
    rcases List.mem_cons.mp ht with rfl | ht
    · refine ⟨past ++ gap.1, l.rest, ?_, hplace.symm, ?_⟩
      · simp [← hcs]
      · simpa using shaped_splitLexeme hl fun _ hc => head_splitTrivia hc
    · have hpast : Position.behind (past ++ gap.1 ++ l.text) = start'.after l.text := by
        rw [Position.behind_append, hplace]
      obtain ⟨before, rest, heq, hrest⟩ := ih _ hpast ht
      refine ⟨before, rest, ?_, hrest⟩
      rw [← heq, ← hcs]
      simp

end Scanner

/-- Every token has the shape of its kind, in front of the text that follows it. No other row of
shapes, with trivia in between, makes up the text. -/
theorem tokens_shaped (source : String) :
    (∀ t ∈ tokens source, t.kind ≠ .finish → ∃ before rest,
      source.toList = before ++ (t.text.toList ++ rest) ∧ t.start = .behind before ∧
        Token.Shaped t.kind t.text.toList rest) ∧
    ∀ ls, Cut source.toList ls ↔ ls = (tokens source).map Token.spelling := by
  refine ⟨fun t ht hk => ?_, fun ls => ⟨fun h => ?_, ?_⟩⟩
  · exact Scanner.shaped_of_mem [] ht hk
  · exact Scanner.eq_of_cut h ⟨0, 0⟩
  · rintro rfl
    exact Scanner.cut_tokensFrom ⟨0, 0⟩ source.toList

end Caddyfile
