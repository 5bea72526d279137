import Caddyfile.Proofs.Shapes

/-!
# Tokens with spaces in between

Tokens may stand close together, and what a token is depends on what follows it. Their texts say
enough all the same: put one after another, with any runs of spaces between them, they are cut into
tokens of the same kinds and texts again (`tokens_joined`).
-/

namespace Caddyfile

/-- Texts one after another, with a run of spaces between each two. -/
inductive Joined : List (List Char) → List Char → Prop where
  | nil : Joined [] []
  | one (text : List Char) : Joined [text] text
  | cons {text gap next cs : List Char} {texts : List (List Char)} (hne : gap ≠ [])
    (hgap : ∀ c ∈ gap, isSpace c) (h : Joined (next :: texts) cs) :
    Joined (text :: next :: texts) (text ++ (gap ++ cs))

/-! ## Spaces around tokens -/

theorem Trivia.spaces_append {rest gap spaces : List Char} (h : Trivia rest gap)
    (hs : ∀ c ∈ spaces, isSpace c) : Trivia rest (spaces ++ gap) := by
  induction spaces with
  | nil => exact h
  | cons c spaces ih =>
    obtain ⟨hc, hs⟩ := List.forall_mem_cons.mp hs
    exact .space hc (ih hs)

theorem Cut.spaces_append {cs spaces : List Char} {ls : List (Token.Kind × List Char)}
    (h : Cut cs ls) (hs : ∀ c ∈ spaces, isSpace c) : Cut (spaces ++ cs) ls := by
  cases h with
  | finish hg => exact .finish (hg.spaces_append hs)
  | token hg ht hrest =>
    rw [← List.append_assoc]
    exact .token (hg.spaces_append hs) ht hrest

/-- A token keeps its shape in front of a space. Only a string without an end has to stay at the end
of the text. -/
theorem Token.Shaped.before_space {kind : Kind} {text rest rest' : List Char}
    (h : Shaped kind text rest) (hspace : ∀ c ∈ rest'.head?, isSpace c)
    (hend : rest = [] → rest' = []) : Shaped kind text rest' := by
  cases h with
  | bare ht _ => exact .bare ht hspace
  | opening _ => exact .opening fun c hc => .inr (hspace c hc)
  | closing => exact .closing
  | quoted hq hb => exact .quoted hq hb
  | unterminated hq hb =>
    rw [hend rfl]
    exact .unterminated hq hb

theorem Token.Shaped.kind_ne_finish {kind : Kind} {text rest : List Char}
    (h : Shaped kind text rest) : kind ≠ .finish := by
  cases h <;> decide

/-! ## Cutting the texts again -/

namespace Cut

/-- The texts of all but the end token. -/
def texts (ls : List (Token.Kind × List Char)) : List (List Char) :=
  (ls.filter (·.1 ≠ .finish)).map Prod.snd

theorem texts_cons {kind : Token.Kind} (hk : kind ≠ .finish) (text : List Char)
    (ls : List (Token.Kind × List Char)) : texts ((kind, text) :: ls) = text :: texts ls := by
  simp [texts, hk]

variable {cs : List Char} {ls : List (Token.Kind × List Char)}

theorem texts_of_nil (h : Cut [] ls) : texts ls = [] := by
  generalize hcs : [] = cs at h
  cases h with
  | finish _ => rfl
  | token _ ht _ =>
    obtain ⟨c, cs, rfl, _⟩ := ht.exists_cons
    simp at hcs

theorem joined {text : List Char} (h : Cut cs ls) (hj : Joined (texts ls) text) : Cut text ls := by
  induction h generalizing text with
  | finish _ =>
    cases hj with
    | nil => exact .finish .nil
  | @token kind gap word rest ls hg ht hs ih =>
    rw [texts_cons ht.kind_ne_finish] at hj
    generalize htexts : texts ls = words at hj ih
    cases hj with
    | one =>
      have hcut := Cut.token .nil (ht.before_space (by simp) fun _ => rfl) (ih .nil)
      simpa using hcut
    | @cons _ spaces next cs words hne hspaces hrest =>
      -- another token follows, so this one is no string without an end
      have hmore : rest ≠ [] := by
        rintro rfl
        simp [texts_of_nil hs] at htexts
      refine .token .nil (ht.before_space ?_ fun h => absurd h hmore) ((ih hrest).spaces_append hspaces)
      intro c hc
      obtain ⟨d, spaces, rfl⟩ := List.exists_cons_of_ne_nil hne
      obtain rfl : d = c := by simpa using hc
      exact hspaces d (List.mem_cons_self ..)

end Cut

/-- The texts of the tokens, put one after another with a run of spaces between each two, are cut
into the same tokens: the kinds and the texts are equal, and the end token follows. -/
theorem tokens_joined {source text : String}
    (h : Joined (((tokens source).filter (·.kind ≠ .finish)).map (·.text.toList)) text.toList) :
    (tokens text).map Token.spelling =
      ((tokens source).filter (·.kind ≠ .finish)).map Token.spelling ++ [(.finish, [])] := by
  have hcut : Cut source.toList ((tokens source).map Token.spelling) :=
    Scanner.cut_tokensFrom ⟨0, 0⟩ source.toList
  have htexts : Cut.texts ((tokens source).map Token.spelling) =
      ((tokens source).filter (·.kind ≠ .finish)).map (·.text.toList) := by
    rw [Cut.texts, List.filter_map, List.map_map]
    rfl
  obtain ⟨ws, e, hts, he, hempty, hws⟩ := tokens_finish_last source
  have hfilter : (tokens source).filter (·.kind ≠ .finish) = ws := by
    rw [hts]
    simpa [he] using hws
  calc (tokens text).map Token.spelling = (tokens source).map Token.spelling :=
        (Scanner.eq_of_cut (hcut.joined (htexts ▸ h)) ⟨0, 0⟩).symm
    _ = ws.map Token.spelling ++ [(.finish, [])] := by simp [hts, Token.spelling, he, hempty]
    _ = _ := by rw [hfilter]

theorem tokens_joined_close_together :
    let source := "\x7b\x7d#a\n\"b\\\"\"c\x7d#\t\"d e"
    let text := "\x7b\n\x7d \t\"b\\\"\" c\x7d# \"d e"
    Joined (((tokens source).filter (·.kind ≠ .finish)).map (·.text.toList)) text.toList ∧
      (tokens text).map Token.spelling =
        [(.opening, ['{']), (.closing, ['}']), (.quoted, ['"', 'b', '\\', '"', '"']),
          (.bare, ['c', '}', '#']), (.quoted, ['"', 'd', ' ', 'e']), (.finish, [])] := by
  intro source text
  have hjoined : Joined (((tokens source).filter (·.kind ≠ .finish)).map (·.text.toList))
      text.toList := by
    have hwords : ((tokens source).filter (·.kind ≠ .finish)).map (·.text.toList) =
        [['{'], ['}'], ['"', 'b', '\\', '"', '"'], ['c', '}', '#'], ['"', 'd', ' ', 'e']] := by
      decide +kernel
    have htext : text.toList = ['{'] ++ (['\n'] ++ (['}'] ++ ([' ', '\t'] ++
        (['"', 'b', '\\', '"', '"'] ++ ([' '] ++ (['c', '}', '#'] ++ ([' '] ++
          ['"', 'd', ' ', 'e']))))))) := by
      decide +kernel
    rw [hwords, htext]
    refine .cons ?_ ?_ (.cons ?_ ?_ (.cons ?_ ?_ (.cons ?_ ?_ (.one _))))
    all_goals simp [isSpace]
  refine ⟨hjoined, ?_⟩
  rw [tokens_joined hjoined]
  decide +kernel

end Caddyfile
