import Caddyfile.Proofs.Place
import Caddyfile.Token.Scanner

/-!
# Nothing is lost in scanning, and every place is exact

`Trivia` says what may stand between two tokens. A scan lays the text out as tokens with trivia in
front of each (`exists_layout`); put back together they are the text, and the position of a token is
the place behind everything before it.
-/

namespace Caddyfile

/-- Blanks, line ends and comments in front of `rest`. A comment runs from a hash up to the next
line feed, or up to the end of the text. -/
inductive Trivia (rest : List Char) : List Char → Prop where
  | nil : Trivia rest []
  | space {c : Char} {cs : List Char} (h : isSpace c) : Trivia rest cs → Trivia rest (c :: cs)
  | comment {body cs : List Char} (hb : '\n' ∉ body) (hc : ∀ c ∈ (cs ++ rest).head?, c = '\n') :
    Trivia rest cs → Trivia rest ('#' :: (body ++ cs))

namespace Token

/-! ## Trivia and lexemes -/

theorem splitTrivia_spec (cs : List Char) :
    Trivia (splitTrivia false cs).2 (splitTrivia false cs).1 ∧
      ∃ body more, (splitTrivia true cs).1 = body ++ more ∧ '\n' ∉ body ∧
        (∀ c ∈ (more ++ (splitTrivia true cs).2).head?, c = '\n') ∧
        Trivia (splitTrivia true cs).2 more := by
  induction cs with
  | nil => exact ⟨.nil, [], [], rfl, by simp, by simp [splitTrivia], .nil⟩
  | cons c cs ih =>
    obtain ⟨hplain, body, more, heq, hbody, hmore, htail⟩ := ih
    constructor
    · by_cases hh : c = '#'
      · subst hh
        have e : splitTrivia false ('#' :: cs) =
            ('#' :: (splitTrivia true cs).1, (splitTrivia true cs).2) := rfl
        rw [e, heq]
        exact .comment hbody hmore htail
      · by_cases hs : isSpace c
        · simpa [splitTrivia, hs, hh] using Trivia.space hs hplain
        · simpa [splitTrivia, hs, hh] using Trivia.nil
    · by_cases hn : c = '\n'
      · subst hn
        have e : splitTrivia true ('\n' :: cs) =
            ('\n' :: (splitTrivia false cs).1, (splitTrivia false cs).2) := rfl
        rw [e]
        exact ⟨[], _, rfl, by simp, by simp, .space rfl hplain⟩
      · have e : splitTrivia true (c :: cs) =
            (c :: (splitTrivia true cs).1, (splitTrivia true cs).2) := by
          have hne : (c != '\n') = true := by simpa using hn
          simp [splitTrivia, hne]
        rw [e, heq]
        exact ⟨c :: body, more, rfl, by simp [hbody, Ne.symm hn], hmore, htail⟩

theorem trivia_splitTrivia (cs : List Char) :
    Trivia (splitTrivia false cs).2 (splitTrivia false cs).1 :=
  (splitTrivia_spec cs).1

theorem head_splitTrivia {comment : Bool} {cs : List Char} {c : Char}
    (h : (splitTrivia comment cs).2.head? = some c) : isSpace c = false ∧ c ≠ '#' := by
  induction cs generalizing comment with
  | nil => simp [splitTrivia] at h
  | cons b cs ih =>
    unfold splitTrivia at h
    split at h
    · exact ih h
    · split at h
      · exact ih h
      · simp only [List.head?_cons, Option.some.injEq] at h
        subst h
        rename_i hne
        simpa using hne

theorem splitLexeme_kind {cs : List Char} {l : Lexeme} (h : splitLexeme cs = some l) :
    l.kind ≠ .finish := by
  cases cs with
  | nil => simp [splitLexeme] at h
  | cons c cs =>
    simp only [splitLexeme] at h
    repeat' split at h
    all_goals cases h; simp

theorem splitLexeme_eq_none {cs : List Char} (h : splitLexeme cs = none) : cs = [] := by
  cases cs with
  | nil => rfl
  | cons c cs =>
    simp only [splitLexeme] at h
    repeat' split at h
    all_goals cases h

theorem lt_stop {t : Token} {c : Char} (h : t.text.toList.head? = some c) (hc : c ≠ '\r') :
    t.start < t.stop := by
  unfold stop
  cases ht : t.text.toList with
  | nil => simp [ht] at h
  | cons b cs =>
    obtain rfl : b = c := by simpa [ht] using h
    exact Position.lt_after_cons _ hc cs

end Token

/-! ## The layout of a text -/

/-- A token with the trivia in front of it. -/
structure Laid where
  gap : List Char
  token : Token

namespace Laid

def chars (p : Laid) : List Char :=
  p.gap ++ p.token.text.toList

/-- The text that a row of tokens was cut from. -/
def spell (ps : List Laid) : List Char :=
  ps.flatMap chars

/-- The token stands in its place: behind `past` and its gap, in front of `rest`. -/
structure Exact (past : List Char) (p : Laid) (rest : List Char) : Prop where
  trivia : Trivia (p.token.text.toList ++ rest) p.gap
  start_eq : p.token.start = .behind (past ++ p.gap)
  stop_eq : p.token.stop = .behind (past ++ p.gap ++ p.token.text.toList)
  visible : p.token.kind ≠ .finish → ∃ c, p.token.text.toList.head? = some c ∧ isSpace c = false

theorem Exact.of_start {past rest : List Char} {p : Laid}
    (ht : Trivia (p.token.text.toList ++ rest) p.gap)
    (hs : p.token.start = .behind (past ++ p.gap))
    (hv : p.token.kind ≠ .finish →
      ∃ c, p.token.text.toList.head? = some c ∧ isSpace c = false) : p.Exact past rest :=
  ⟨ht, hs, by rw [Token.stop, hs, ← Position.behind_append], hv⟩

end Laid

/-- A row of tokens with their gaps that covers `cs`, which comes after `past`. The end token is the
last one, and only the last one. -/
inductive Layout : List Char → List Laid → List Char → Prop where
  | finish {past : List Char} {p : Laid} (hk : p.token.kind = .finish) (ht : p.token.text = "")
    (hp : p.Exact past []) : Layout past [p] p.gap
  | token {past rest : List Char} {p : Laid} {ps : List Laid} (hk : p.token.kind ≠ .finish)
    (hp : p.Exact past rest) (hs : Layout (past ++ p.chars) ps rest) :
    Layout past (p :: ps) (p.chars ++ rest)

namespace Layout

theorem spell_eq {past cs : List Char} {ps : List Laid} (h : Layout past ps cs) :
    Laid.spell ps = cs := by
  induction h with
  | finish _ ht _ => simp [Laid.spell, Laid.chars, ht]
  | token _ _ _ ih => simpa [Laid.spell] using ih

theorem exact {past cs : List Char} {ps l r : List Laid} {p : Laid} (h : Layout past ps cs)
    (hps : ps = l ++ p :: r) : p.Exact (past ++ Laid.spell l) (Laid.spell r) := by
  induction h generalizing l with
  | finish _ _ hp =>
    cases l with
    | nil =>
      obtain ⟨rfl, rfl⟩ := List.cons.inj hps
      simpa [Laid.spell] using hp
    | cons q l => simp at hps
  | token _ hp hs ih =>
    cases l with
    | nil =>
      obtain ⟨rfl, rfl⟩ := List.cons.inj hps
      rw [hs.spell_eq]
      simpa [Laid.spell] using hp
    | cons q l =>
      obtain ⟨rfl, rfl⟩ := List.cons.inj hps
      have := ih rfl
      simpa [Laid.spell] using this

theorem finish_last {past cs : List Char} {ps : List Laid} (h : Layout past ps cs) :
    ∃ ws e, ps.map Laid.token = ws ++ [e] ∧ e.kind = .finish ∧ e.text = "" ∧
      ∀ t ∈ ws, t.kind ≠ .finish := by
  induction h with
  | finish hk ht _ => exact ⟨[], _, rfl, hk, ht, by simp⟩
  | token hk _ _ ih =>
    obtain ⟨ws, e, heq, he, ht, hws⟩ := ih
    refine ⟨_ :: ws, e, by rw [List.map_cons, heq]; rfl, he, ht, ?_⟩
    intro t hmem
    rcases List.mem_cons.mp hmem with rfl | hmem
    · exact hk
    · exact hws t hmem

theorem behind_le {past cs : List Char} {ps : List Laid} (h : Layout past ps cs) :
    ∀ p ∈ ps, Position.behind past ≤ p.token.start := by
  induction h with
  | finish _ _ hp =>
    intro q hq
    obtain rfl := List.mem_singleton.mp hq
    rw [hp.start_eq, Position.behind_append]
    exact Position.le_after _ _
  | token _ hp _ ih =>
    intro q hq
    rcases List.mem_cons.mp hq with rfl | hq
    · rw [hp.start_eq, Position.behind_append]
      exact Position.le_after _ _
    · refine Position.le_trans ?_ (ih q hq)
      rw [Position.behind_append]
      exact Position.le_after _ _

theorem pairwise {past cs : List Char} {ps : List Laid} (h : Layout past ps cs) :
    ps.Pairwise fun p q => p.token.stop ≤ q.token.start := by
  induction h with
  | finish => exact List.pairwise_singleton _ _
  | token _ hp hs ih =>
    refine List.pairwise_cons.mpr ⟨?_, ih⟩
    intro q hq
    have := hs.behind_le q hq
    rwa [Laid.chars, ← List.append_assoc, ← hp.stop_eq] at this

theorem lt_stop {past cs : List Char} {ps : List Laid} (h : Layout past ps cs) :
    ∀ p ∈ ps, p.token.kind ≠ .finish → p.token.start < p.token.stop := by
  intro p hp hk
  obtain ⟨l, r, rfl⟩ := List.append_of_mem hp
  obtain ⟨c, hc, hs⟩ := (h.exact rfl).visible hk
  exact Token.lt_stop hc (by rintro rfl; cases hs)

end Layout

theorem tokensFrom_layout (past cs : List Char) :
    ∃ ps, ps.map Laid.token = Scanner.tokensFrom (.behind past) cs ∧ Layout past ps cs := by
  generalize hstart : Position.behind past = start
  fun_induction Scanner.tokensFrom start cs generalizing past with
  | case1 start cs gap start' hnone =>
    have hrest : gap.2 = [] := Token.splitLexeme_eq_none hnone
    have hgap : gap.1 = cs := by
      have := Token.splitTrivia_append false cs
      rwa [show (Token.splitTrivia false cs).2 = [] from hrest, List.append_nil] at this
    have htrivia : Trivia [] gap.1 := hrest ▸ Token.trivia_splitTrivia cs
    refine ⟨[⟨gap.1, .finish, "", start'⟩], rfl, ?_⟩
    rw [← hgap]
    refine .finish rfl rfl (.of_start htrivia ?_ fun h => absurd rfl h)
    rw [Position.behind_append, hstart]
  | case2 start cs gap start' l hl ih =>
    have htext : l.text ++ l.rest = gap.2 := Token.splitLexeme_append hl
    have hcs : (gap.1 ++ l.text) ++ l.rest = cs := by
      rw [List.append_assoc, htext]
      exact Token.splitTrivia_append false cs
    have hpast : Position.behind (past ++ (gap.1 ++ l.text)) = start'.after l.text := by
      rw [← List.append_assoc, Position.behind_append, Position.behind_append, hstart]
    obtain ⟨ps, hps, hlay⟩ := ih _ hpast
    let p : Laid := ⟨gap.1, l.kind, String.ofList l.text, start'⟩
    have hchars : p.chars = gap.1 ++ l.text := by simp [p, Laid.chars]
    refine ⟨p :: ps, by rw [List.map_cons, hps], ?_⟩
    rw [← hcs, ← hchars]
    refine .token (Token.splitLexeme_kind hl) (.of_start ?_ ?_ fun _ => ?_) (hchars ▸ hlay)
    · rw [show p.token.text.toList = l.text by simp [p], htext]
      exact Token.trivia_splitTrivia cs
    · rw [Position.behind_append, hstart]
    · -- a lexeme is never empty, and the trivia before it took every space
      obtain ⟨c, text, hc⟩ := List.exists_cons_of_ne_nil (Token.splitLexeme_text_ne_nil hl)
      have hhead : gap.2.head? = some c := by rw [← htext, hc]; rfl
      exact ⟨c, by simp [p, hc], (Token.head_splitTrivia hhead).1⟩

theorem exists_layout (source : String) :
    ∃ ps, ps.map Laid.token = tokens source ∧ Layout [] ps source.toList :=
  tokensFrom_layout [] source.toList

/-! ## What holds of all tokens of a text -/

/-- A token other than the end token is a lexeme, cut off where no trivia stands. -/
theorem Scanner.mem_tokensFrom {start : Position} {cs : List Char} {t : Token}
    (ht : t ∈ tokensFrom start cs) : t.kind = .finish ∧ t.text = "" ∨
      ∃ rest l, Token.splitLexeme rest = some l ∧ (∀ c ∈ rest.head?, isSpace c = false) ∧
        t.kind = l.kind ∧ t.text.toList = l.text := by
  fun_induction tokensFrom start cs with
  | case1 start cs gap start' hnone =>
    obtain rfl := List.mem_singleton.mp ht
    exact .inl ⟨rfl, rfl⟩
  | case2 start cs gap start' l hl ih =>
    rcases List.mem_cons.mp ht with rfl | ht
    · refine .inr ⟨gap.2, l, hl, ?_, rfl, String.toList_ofList⟩
      intro c hc
      exact (Token.head_splitTrivia hc).1
    · exact ih ht

theorem tokens_finish_last (source : String) :
    ∃ ws e, tokens source = ws ++ [e] ∧ e.kind = .finish ∧ e.text = "" ∧
      ∀ t ∈ ws, t.kind ≠ .finish := by
  obtain ⟨ps, hps, hlay⟩ := exists_layout source
  rw [← hps]
  exact hlay.finish_last

theorem tokens_pairwise (source : String) :
    (tokens source).Pairwise fun t u => t.stop ≤ u.start := by
  obtain ⟨ps, hps, hlay⟩ := exists_layout source
  rw [← hps, List.pairwise_map]
  exact hlay.pairwise

theorem tokens_lt_stop (source : String) :
    ∀ t ∈ tokens source, t.kind ≠ .finish → t.start < t.stop := by
  obtain ⟨ps, hps, hlay⟩ := exists_layout source
  intro t ht
  rw [← hps] at ht
  obtain ⟨p, hp, rfl⟩ := List.mem_map.mp ht
  exact hlay.lt_stop p hp

theorem exists_around {source : String} {t : Token} (ht : t ∈ tokens source) :
    ∃ past rest, source.toList = past ++ (t.text.toList ++ rest) ∧ t.start = .behind past ∧
      t.stop = .behind (past ++ t.text.toList) := by
  obtain ⟨ps, hps, hlay⟩ := exists_layout source
  rw [← hps] at ht
  obtain ⟨p, hp, rfl⟩ := List.mem_map.mp ht
  obtain ⟨l, r, rfl⟩ := List.append_of_mem hp
  have hexact : p.Exact (Laid.spell l) (Laid.spell r) := hlay.exact rfl
  refine ⟨Laid.spell l ++ p.gap, Laid.spell r, ?_, hexact.start_eq, hexact.stop_eq⟩
  rw [← hlay.spell_eq]
  simp [Laid.spell, Laid.chars]

theorem line_le_feeds {source : String} {t : Token} (ht : t ∈ tokens source) :
    t.line ≤ source.toList.count '\n' := by
  obtain ⟨past, rest, hsource, hstart, _⟩ := exists_around ht
  rw [Token.line, hstart, hsource, List.count_append]
  exact Nat.le_add_right _ _

theorem exists_visible {source : String} {t : Token} (ht : t ∈ tokens source)
    (hk : t.kind ≠ .finish) : ∃ past c rest, source.toList = past ++ c :: rest ∧
      t.start = .behind past ∧ isSpace c = false := by
  obtain ⟨ps, hps, hlay⟩ := exists_layout source
  rw [← hps] at ht
  obtain ⟨p, hp, rfl⟩ := List.mem_map.mp ht
  obtain ⟨l, r, rfl⟩ := List.append_of_mem hp
  have hexact : p.Exact (Laid.spell l) (Laid.spell r) := hlay.exact rfl
  obtain ⟨c, hc, hspace⟩ := hexact.visible hk
  obtain ⟨text, htext⟩ := List.head?_eq_some_iff.mp hc
  refine ⟨Laid.spell l ++ p.gap, c, text ++ Laid.spell r, ?_, hexact.start_eq, hspace⟩
  rw [← hlay.spell_eq]
  simp [Laid.spell, Laid.chars, htext]

theorem kind_ne_finish_of_mem {source : String} {t : Token} (h : t ∈ (tokens source).dropLast) :
    t.kind ≠ .finish := by
  obtain ⟨ws, e, hts, _, _, hws⟩ := tokens_finish_last source
  rw [hts, List.dropLast_concat] at h
  exact hws t h

theorem dropLast_tokens_pairwise (source : String) :
    (tokens source).dropLast.Pairwise fun t u => t.start < u.start := by
  obtain ⟨ws, e, hts, _, _, hws⟩ := tokens_finish_last source
  have hlt := tokens_lt_stop source
  have hpair := tokens_pairwise source
  rw [hts] at hlt hpair ⊢
  rw [List.dropLast_concat]
  refine (List.pairwise_append.mp hpair).1.imp_of_mem fun ht _ hle => ?_
  exact Position.lt_of_lt_of_le (hlt _ (List.mem_append_left _ ht) (hws _ ht)) hle

/-- Tokens and the trivia between them are the text, in order and with nothing left over. Each token
starts at the place behind all that comes before it, and stops at the place behind its last
character. -/
theorem tokens_exact (source : String) :
    ∃ ps : List Laid, ps.map Laid.token = tokens source ∧ Laid.spell ps = source.toList ∧
      (∀ l p r, ps = l ++ p :: r →
        Trivia (p.token.text.toList ++ Laid.spell r) p.gap ∧
        p.token.start = .behind (Laid.spell l ++ p.gap) ∧
        p.token.stop = .behind (Laid.spell l ++ p.gap ++ p.token.text.toList)) ∧
      (∃ ws e, tokens source = ws ++ [e] ∧ e.kind = .finish ∧ e.text = "" ∧
        ∀ t ∈ ws, t.kind ≠ .finish) ∧
      ((tokens source).Pairwise fun t u => t.stop ≤ u.start) ∧
      ∀ t ∈ tokens source, t.kind ≠ .finish → t.start < t.stop := by
  obtain ⟨ps, hps, hlay⟩ := exists_layout source
  refine ⟨ps, hps, hlay.spell_eq, ?_, tokens_finish_last source, tokens_pairwise source,
    tokens_lt_stop source⟩
  intro l p r h
  have hp : p.Exact (Laid.spell l) (Laid.spell r) := hlay.exact h
  exact ⟨hp.trivia, hp.start_eq, hp.stop_eq⟩

end Caddyfile
