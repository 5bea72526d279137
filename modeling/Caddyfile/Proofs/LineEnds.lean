import Caddyfile.Editor.Completion
import Caddyfile.Editor.Hover
import Caddyfile.Editor.Notice
import Caddyfile.Proofs.Relabeling
import Caddyfile.Proofs.Seams

/-!
# Carriage returns at the ends of lines

A carriage return in front of every line feed changes nothing but the texts of quoted strings that
run over lines. The tokens have the same kinds and places, and the document is read the same way
(`read_crlf`). Where no quoted string runs over lines, an editor shows the same (`crlf_like_feed`).
-/

namespace Caddyfile

/-! ## Carriage returns in a text -/

namespace Text

/-- The text with a carriage return in front of every line feed. -/
def withReturns : List Char → List Char
  | [] => []
  | c :: cs => if c = '\n' then '\r' :: '\n' :: withReturns cs else c :: withReturns cs

def crlf (s : String) : String :=
  String.ofList (withReturns s.toList)

@[simp] theorem withReturns_nil : withReturns [] = [] := rfl

@[simp] theorem withReturns_feed (cs : List Char) :
    withReturns ('\n' :: cs) = '\r' :: '\n' :: withReturns cs := rfl

theorem withReturns_cons {c : Char} (h : c ≠ '\n') (cs : List Char) :
    withReturns (c :: cs) = c :: withReturns cs := by
  rw [withReturns, if_neg h]

theorem withReturns_eq_self {cs : List Char} (h : '\n' ∉ cs) : withReturns cs = cs := by
  induction cs with
  | nil => rfl
  | cons c cs ih =>
    have hc : c ≠ '\n' := fun e => h (by simp [e])
    rw [withReturns_cons hc, ih fun hmem => h (List.mem_cons_of_mem c hmem)]

theorem withReturns_append (u v : List Char) :
    withReturns (u ++ v) = withReturns u ++ withReturns v := by
  induction u with
  | nil => rfl
  | cons c u ih =>
    by_cases hc : c = '\n'
    · simp [hc, ih]
    · simp [withReturns_cons hc, ih]

theorem getLast?_withReturns (cs : List Char) : (withReturns cs).getLast? = cs.getLast? := by
  induction cs with
  | nil => rfl
  | cons c cs ih =>
    by_cases hc : c = '\n'
    · simp [hc, List.getLast?_cons, ih]
    · rw [withReturns_cons hc, List.getLast?_cons, List.getLast?_cons, ih]

theorem dropLast_withReturns {cs : List Char} {c : Char} (h : cs.getLast? = some c)
    (hc : c ≠ '\n') : (withReturns cs).dropLast = withReturns cs.dropLast := by
  obtain ⟨init, rfl⟩ := List.getLast?_eq_some_iff.mp h
  rw [withReturns_append, withReturns_cons hc, withReturns_nil, List.dropLast_concat,
    List.dropLast_concat]

end Text

open Text

theorem Position.after_withReturns (p : Position) (cs : List Char) :
    p.after (withReturns cs) = p.after cs := by
  induction cs generalizing p with
  | nil => rfl
  | cons c cs ih =>
    by_cases hc : c = '\n'
    · subst hc
      have hstep : (p.step '\r').step '\n' = p.step '\n' := rfl
      rw [withReturns_feed, after_cons, after_cons, hstep, ih, after_cons]
    · rw [withReturns_cons hc, after_cons, ih, after_cons]

/-! ## Scanning -/

namespace Token

def withReturns (t : Token) : Token :=
  { t with text := crlf t.text }

theorem stop_withReturns (t : Token) : t.withReturns.stop = t.stop := by
  simp only [stop, withReturns, crlf, String.toList_ofList]
  exact Position.after_withReturns t.start t.text.toList

theorem span_withReturns (t : Token) : t.withReturns.span = t.span := by
  rw [span, stop_withReturns]
  rfl

theorem splitTrivia_withReturns (comment : Bool) (cs : List Char) :
    splitTrivia comment (Text.withReturns cs) =
      (Text.withReturns (splitTrivia comment cs).1, Text.withReturns (splitTrivia comment cs).2) := by
  induction cs generalizing comment with
  | nil => rfl
  | cons c cs ih =>
    by_cases hc : c = '\n'
    · subst hc
      cases comment with
      | true => simp [splitTrivia, ih]
      | false => simp [splitTrivia, isSpace, ih]
    · rw [withReturns_cons hc]
      cases comment with
      | true => rw [splitTrivia_comment, splitTrivia_comment, ih, withReturns_cons hc]
      | false =>
        by_cases hs : isSpace c || c = '#'
        · rw [splitTrivia_skip hs, splitTrivia_skip hs, ih, withReturns_cons hc]
        · rw [splitTrivia_stop hs, splitTrivia_stop hs, withReturns_cons hc]
          rfl

/-- A line feed ends neither a string nor an escape, and after a backslash the carriage return is
taken along in its place. -/
theorem splitQuoted_withReturns {quote : Char} (hq : quote = '"' ∨ quote = '\x60')
    (escapes escaped : Bool) (cs : List Char) :
    splitQuoted quote escapes escaped (Text.withReturns cs) =
      (Text.withReturns (splitQuoted quote escapes escaped cs).1,
        Text.withReturns (splitQuoted quote escapes escaped cs).2) := by
  induction cs generalizing escaped with
  | nil => rfl
  | cons c cs ih =>
    by_cases hc : c = '\n'
    · subst hc
      have hne : '\r' ≠ quote ∧ '\n' ≠ quote := by rcases hq with rfl | rfl <;> decide
      simp [splitQuoted, hne, ih]
    · rw [withReturns_cons hc]
      unfold splitQuoted
      split
      · simp [withReturns_cons hc]
      · simp [withReturns_cons hc, ih]

theorem standsAlone_withReturns (cs : List Char) :
    standsAlone (Text.withReturns cs) = standsAlone cs := by
  cases cs with
  | nil => rfl
  | cons c cs =>
    by_cases hc : c = '\n'
    · subst hc; rfl
    · rw [withReturns_cons hc]; rfl

theorem takeWhile_withReturns (cs : List Char) :
    (Text.withReturns cs).takeWhile (!isSpace ·) = Text.withReturns (cs.takeWhile (!isSpace ·)) ∧
      (Text.withReturns cs).dropWhile (!isSpace ·) =
        Text.withReturns (cs.dropWhile (!isSpace ·)) := by
  induction cs with
  | nil => exact ⟨rfl, rfl⟩
  | cons c cs ih =>
    by_cases hc : c = '\n'
    · subst hc; exact ⟨rfl, rfl⟩
    · rw [withReturns_cons hc]
      by_cases hs : isSpace c
      · simp [hs, withReturns_cons hc]
      · simp [hs, ih, withReturns_cons hc]

theorem splitLexeme_withReturns {cs : List Char} {l : Lexeme} (h : splitLexeme cs = some l)
    (hhead : ∀ c ∈ cs.head?, isSpace c = false) : splitLexeme (Text.withReturns cs) =
      some ⟨l.kind, Text.withReturns l.text, Text.withReturns l.rest⟩ := by
  obtain ⟨c, rest, rfl, hl⟩ := splitLexeme_cases h
  have hc : c ≠ '\n' := by
    rintro rfl
    exact absurd (hhead _ rfl) (by decide)
  rw [withReturns_cons hc]
  rcases hl with ⟨rfl, rfl⟩ | ⟨rfl, halone, rfl⟩ | ⟨hq, rfl⟩ | ⟨hbare, rfl⟩
  · rfl
  · rw [splitLexeme_opening (by rwa [standsAlone_withReturns])]
    rfl
  · rw [splitLexeme_quoted hq, splitQuoted_withReturns hq, withReturns_cons hc]
  · obtain ⟨htake, hdrop⟩ := takeWhile_withReturns rest
    rw [splitLexeme_bare (by rwa [startsBare, standsAlone_withReturns]), htake, hdrop,
      withReturns_cons hc]

end Token

open Token in
theorem Scanner.tokensFrom_withReturns (start : Position) (cs : List Char) :
    tokensFrom start (Text.withReturns cs) = (tokensFrom start cs).map Token.withReturns := by
  fun_induction tokensFrom start cs with
  | case1 start cs gap start' hnone =>
    have hrest : gap.2 = [] := splitLexeme_eq_none hnone
    rw [tokensFrom_eq, splitTrivia_withReturns, show (splitTrivia false cs).2 = [] from hrest,
      Position.after_withReturns]
    rfl
  | case2 start cs gap start' l hl ih =>
    have hlex := splitLexeme_withReturns hl fun c hc => (head_splitTrivia hc).1
    rw [tokensFrom_eq, splitTrivia_withReturns, hlex]
    simp only [Position.after_withReturns, List.map_cons, ← ih]
    simp [Token.withReturns, crlf, gap, start']

theorem tokens_crlf (source : String) :
    tokens (crlf source) = (tokens source).map Token.withReturns := by
  rw [tokens_eq, tokens_eq, crlf, String.toList_ofList]
  exact Scanner.tokensFrom_withReturns ⟨0, 0⟩ source.toList

/-! ## Texts of tokens -/

theorem head?_text_ne_feed {source : String} {t : Token} (ht : t ∈ tokens source) :
    t.text.toList.head? ≠ some '\n' := by
  rcases Scanner.mem_tokensFrom ht with ⟨_, htext⟩ | ⟨rest, l, hl, hhead, _, htext⟩
  · simp [htext]
  · intro hfeed
    have hrest : rest.head? = some '\n' := by
      rw [← Token.splitLexeme_append hl, List.head?_append, ← htext, hfeed]
      rfl
    exact absurd (hhead _ hrest) (by decide)

theorem feed_not_mem_text {source : String} {t : Token} (ht : t ∈ tokens source)
    (hk : t.kind ≠ .quoted) : '\n' ∉ t.text.toList := by
  rcases Scanner.mem_tokensFrom ht with ⟨_, htext⟩ | ⟨rest, l, hl, hhead, hkind, htext⟩
  · simp [htext]
  · rw [htext]
    exact Token.feed_not_mem_lexeme hl hhead (hkind ▸ hk)

/-! ## Reading -/

theorem Token.unquote_withReturns {cs : List Char} (h : cs.head? ≠ some '\n') :
    unquote (Text.withReturns cs) = Text.withReturns (unquote cs) := by
  cases cs with
  | nil => rfl
  | cons q inner =>
    have hq : q ≠ '\n' := by simpa using h
    rw [withReturns_cons hq]
    simp only [unquote, getLast?_withReturns]
    split
    · rename_i hlast
      exact dropLast_withReturns hlast hq
    · rfl

theorem Token.value_withReturns {t : Token} (h : t.text.toList.head? ≠ some '\n') :
    t.withReturns.value = crlf t.value := by
  obtain ⟨kind, text, start⟩ := t
  cases kind with
  | quoted => simp [withReturns, value, crlf, unquote_withReturns h]
  | bare | opening | closing | finish => rfl

/-- Carriage returns in the texts of tokens that do not start with a line feed. -/
def Relabeling.crlf : Relabeling where
  fits t := t.text.toList.head? ≠ some '\n'
  token := Token.withReturns
  line := id
  span := id
  value := Text.crlf
  kind_token _ := rfl
  line_token _ := rfl
  stop_token t := by rw [Token.stop_withReturns]; rfl
  span_token := Token.span_withReturns
  value_token _ := Token.value_withReturns
  line_inj _ _ h := h
  comma v := by rw [Text.crlf, String.toList_ofList, getLast?_withReturns]

theorem read_crlf (source : String) :
    Document.read (crlf source) = (Document.read source).relabel .crlf := by
  rw [Document.read, tokens_crlf]
  apply Document.ofTokens_relabel .crlf
  · exact Scanner.tokensFrom_ne_nil ⟨0, 0⟩ source.toList
  · intro t ht
    exact head?_text_ne_feed ht

theorem tokens_crlf_of_lines {source : String}
    (h : ∀ t ∈ tokens source, t.kind = .quoted → '\n' ∉ t.text.toList) :
    tokens (crlf source) = tokens source := by
  have hself : ∀ t ∈ tokens source, t.withReturns = id t := by
    intro t ht
    have hfeed : '\n' ∉ t.text.toList := by
      by_cases hk : t.kind = .quoted
      · exact h t ht hk
      · exact feed_not_mem_text ht hk
    rw [Token.withReturns, crlf, withReturns_eq_self hfeed, String.ofList_toList]
    rfl
  rw [tokens_crlf, List.map_congr_left hself, List.map_id]

/-! ## Lines and cursors -/

namespace Text

theorem getElem?_lines_withReturns (cs : List Char) (i : Nat) :
    (lines (withReturns cs))[i]? = (lines cs)[i]? ∨
      ∃ line, (lines cs)[i]? = some line ∧
        (lines (withReturns cs))[i]? = some (line ++ ['\r']) := by
  induction cs generalizing i with
  | nil => exact .inl rfl
  | cons c cs ih =>
    by_cases hc : c = '\n'
    · subst hc
      cases i with
      | zero => exact .inr ⟨[], by simp [lines], by simp [lines]⟩
      | succ i => simpa [lines] using ih i
    · rw [withReturns_cons hc, lines, if_neg hc, lines, if_neg hc]
      simp only [List.getElem?_modifyHead]
      by_cases hi : i = 0
      · subst hi
        rcases ih 0 with heq | ⟨line, hline, heq⟩
        · exact .inl (by simp [heq])
        · exact .inr ⟨c :: line, by simp [hline], by simp [heq]⟩
      · simpa [hi] using ih i

theorem mem_of_mem_lines {cs line : List Char} {c : Char} (hl : line ∈ lines cs) (hc : c ∈ line) :
    c ∈ cs := by
  induction cs generalizing line with
  | nil =>
    obtain rfl := List.mem_singleton.mp hl
    exact hc
  | cons b cs ih =>
    unfold lines at hl
    split at hl
    · rcases List.mem_cons.mp hl with rfl | hl
      · cases hc
      · exact List.mem_cons_of_mem b (ih hl hc)
    · obtain ⟨first, rest, hlines⟩ := List.exists_cons_of_ne_nil (lines_ne_nil cs)
      rw [hlines] at hl ih
      rcases List.mem_cons.mp hl with rfl | hl
      · rcases List.mem_cons.mp hc with rfl | hc
        · exact List.mem_cons_self ..
        · exact List.mem_cons_of_mem b (ih (List.mem_cons_self ..) hc)
      · exact List.mem_cons_of_mem b (ih (List.mem_cons_of_mem _ hl) hc)

theorem dropEnd_concat (c : Char) (cs : List Char) : dropEnd c (cs ++ [c]) = cs := by
  simp [dropEnd]

theorem dropEnd_eq_self {c : Char} {cs : List Char} (h : c ∉ cs) : dropEnd c cs = cs := by
  rw [dropEnd, if_neg fun hlast => h (List.mem_of_getLast? hlast)]

end Text

theorem Document.contextAt_crlf (d : Document) {source : String} (h : '\r' ∉ source.toList)
    (p : Position) : d.contextAt (crlf source) p = d.contextAt source p := by
  unfold contextAt
  rw [crlf, String.toList_ofList]
  rcases getElem?_lines_withReturns source.toList p.line with heq | ⟨line, hline, heq⟩
  · rw [heq]
  · have hreturn : '\r' ∉ line :=
      fun hmem => h (mem_of_mem_lines (List.mem_of_getElem? hline) hmem)
    have htyped : Cursor.typedText (line ++ ['\r']) p.column = Cursor.typedText line p.column := by
      rw [Cursor.typedText, Cursor.typedText, dropEnd_concat, dropEnd_eq_self hreturn]
    rw [heq, hline]
    simp only [htyped]

namespace Editor

theorem lineAt?_crlf (source : String) (line : Nat) :
    lineAt? (crlf source) line = lineAt? source line := by
  unfold lineAt?
  rw [crlf, String.toList_ofList]
  rcases getElem?_lines_withReturns source.toList line with heq | ⟨cs, hline, heq⟩
  · rw [heq]
  · simp [heq, hline]

theorem hoverAt_crlf (source : String) (p : Position) :
    hoverAt (crlf source) p = hoverAt source p := by
  rw [hoverAt, wordAt, lineAt?_crlf]
  rfl

end Editor

open Editor

/-- A text without carriage returns, and the same text with one in front of every line feed: the
tokens have equal kinds and places, and their texts differ by the carriage returns only. The document
has the same shape and the faults lie at the same places. Where no quoted string runs over lines, an
editor shows the same notices, and at every position the same completions and the same help. -/
theorem crlf_like_feed {source : String} (h : '\r' ∉ source.toList) :
    tokens (crlf source) = (tokens source).map Token.withReturns ∧
    (∀ t ∈ tokens source, t.withReturns.kind = t.kind ∧ t.withReturns.start = t.start ∧
      t.withReturns.span = t.span ∧ t.withReturns.text = crlf t.text) ∧
    Document.read (crlf source) =
      ⟨(Document.read source).document.map Token.withReturns id,
        (Document.read source).faults.map fun f => ⟨f.cause.relabel crlf, f.span⟩⟩ ∧
    ((∀ t ∈ tokens source, t.kind = .quoted → '\n' ∉ t.text.toList) →
      notices (crlf source) = notices source ∧
        ∀ p, completionsAt (crlf source) p = completionsAt source p ∧
          hoverAt (crlf source) p = hoverAt source p) := by
  refine ⟨tokens_crlf source, fun t _ => ⟨rfl, rfl, t.span_withReturns, rfl⟩, read_crlf source, ?_⟩
  intro hlines
  have hread : Document.read (crlf source) = Document.read source := by
    rw [Document.read, tokens_crlf_of_lines hlines, Document.read]
  constructor
  · rw [notices, hread]
    rfl
  · intro p
    constructor
    · simp only [completionsAt, hread, Document.contextAt_crlf _ h]
    · exact hoverAt_crlf source p

theorem crlf_like_feed_import :
    let source := "(b) \x7b\n\x7d\na \x7b\n\timport b # c\n\tlog \"d\\\"\" e\n\x7d\n"
    '\r' ∉ source.toList ∧
      (∀ t ∈ tokens source, t.kind = .quoted → '\n' ∉ t.text.toList) ∧
      (tokens (crlf source)).map Token.span = (tokens source).map Token.span ∧
      notices (crlf source) = notices source ∧
      completionsAt (crlf source) ⟨3, 9⟩ = [⟨"b", .snippet, some "snippet"⟩] := by
  intro source
  have hreturn : '\r' ∉ source.toList := by decide +kernel
  have hlines : ∀ t ∈ tokens source, t.kind = .quoted → '\n' ∉ t.text.toList := by decide +kernel
  obtain ⟨htokens, hplaces, _, hsame⟩ := crlf_like_feed hreturn
  obtain ⟨hnotices, hcursor⟩ := hsame hlines
  refine ⟨hreturn, hlines, ?_, hnotices, ?_⟩
  · rw [htokens, List.map_map]
    exact List.map_congr_left fun t ht => (hplaces t ht).2.2.1
  · rw [(hcursor ⟨3, 9⟩).1]
    decide +kernel

end Caddyfile
