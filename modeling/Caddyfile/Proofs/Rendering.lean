import Caddyfile.Proofs.Grammar
import Caddyfile.Proofs.Relabeling
import Caddyfile.Proofs.Seams

/-!
# Written documents are read back

A draft is a document without places: words that are one token each, in directives, sites and an
optional block of global options. It is written with one directive a line and every closing brace on
a line of its own, and is read back as the same tree, with no faults (`read_render`).
-/

namespace Caddyfile

/-! ## Words -/

/-- A bare word that is one token as a whole. Only a brace in front of something else may start
one. -/
def isBareText : List Char → Bool
  | [] => false
  | '{' :: cs => cs.all (!isSpace ·) && cs.head?.any (· != '}')
  | c :: cs => (c :: cs).all (!isSpace ·) && !(['}', '"', '\x60', '#'].contains c)

/-- The first `quote` is the last character. Between double quotes, a backslash takes the character
after it along. -/
def closes (quote : Char) : List Char → Bool
  | [] => false
  | [c] => c = quote
  | c :: d :: cs =>
    if quote = '"' && c = '\\' then closes quote cs else c != quote && closes quote (d :: cs)

/-- A quoted string on one line. -/
def isQuotedText : List Char → Bool
  | [] => false
  | q :: cs => (q = '"' || q = '\x60') && !cs.contains '\n' && closes q cs

namespace Draft

structure Word where
  kind : Token.Kind
  text : String
  valid : kind = .bare ∧ isBareText text.toList ∨ kind = .quoted ∧ isQuotedText text.toList

namespace Word

def chars (w : Word) : List Char :=
  w.text.toList

def token (w : Word) (start : Position) : Token :=
  ⟨w.kind, w.text, start⟩

end Word

/-! ## Drafts -/

inductive Directives where
  | nil
  | plain (name : Word) (args : List Word) (rest : Directives)
  | block (name : Word) (args : List Word) (inside rest : Directives)

structure Site where
  first : Word
  others : List Word
  directives : Directives

end Draft

structure Draft where
  globals : Option Draft.Directives
  sites : List Draft.Site

namespace Draft

/-! ### The text -/

def spaced (ws : List Word) : List Char :=
  ws.flatMap (' ' :: ·.chars)

/-- Words with one space in between. -/
def line (first : Word) (others : List Word) : List Char :=
  first.chars ++ spaced others

def braces (inside : List Char) : List Char :=
  '{' :: '\n' :: (inside ++ ['}', '\n'])

def Directives.render : Directives → List Char
  | nil => []
  | plain name args rest => line name args ++ '\n' :: rest.render
  | block name args inside rest => line name args ++ ' ' :: (braces inside.render ++ rest.render)

def Site.render (s : Site) : List Char :=
  line s.first s.others ++ ' ' :: braces s.directives.render

def render (d : Draft) : String :=
  String.ofList (d.globals.elim [] (braces ·.render) ++ d.sites.flatMap Site.render)

/-! ### The tree -/

def opener (start : Position) : Token :=
  ⟨.opening, "\x7b", start⟩

def closer (start : Position) : Token :=
  ⟨.closing, "\x7d", start⟩

def Directives.tree : Directives → List Directive
  | nil => []
  | plain name args rest => ⟨name.token ⟨0, 0⟩, args.map (·.token ⟨0, 0⟩), none, [], 0⟩ :: rest.tree
  | block name args inside rest =>
    ⟨name.token ⟨0, 0⟩, args.map (·.token ⟨0, 0⟩), some (opener ⟨0, 0⟩), inside.tree, 0⟩ :: rest.tree

def Site.tree (s : Site) : Caddyfile.Site :=
  ⟨s.first.token ⟨0, 0⟩, s.others.map (·.token ⟨0, 0⟩), s.directives.tree, 0⟩

/-- The document with every place at the start of the text. -/
def document (d : Draft) : Document where
  globals := d.globals.map fun ds => ⟨opener ⟨0, 0⟩, ds.tree, 0⟩
  sites := d.sites.map Site.tree

/-- How many blocks are open at once. -/
def Directives.height : Directives → Nat
  | nil => 0
  | plain _ _ rest => rest.height
  | block _ _ inside rest => max (inside.height + 1) rest.height

def heightOf : List Site → Nat
  | [] => 0
  | s :: ss => max (s.directives.height + 1) (heightOf ss)

def height (d : Draft) : Nat :=
  max (d.globals.elim 0 (·.height + 1)) (heightOf d.sites)

end Draft

/-! ## Scanning words -/

namespace Token

theorem splitQuoted_closes {quote : Char} {cs : List Char} (h : closes quote cs)
    (rest : List Char) : splitQuoted quote (quote = '"') false (cs ++ rest) = (cs, rest) := by
  fun_induction closes quote cs with
  | case1 => cases h
  | case2 c => simp [splitQuoted, of_decide_eq_true h]
  | case3 c d cs hesc ih =>
    simp only [Bool.and_eq_true, decide_eq_true_eq] at hesc
    obtain ⟨rfl, rfl⟩ := hesc
    have hrest : splitQuoted '"' true false (cs ++ rest) = (cs, rest) := ih h
    simp [splitQuoted, hrest]
  | case4 c d cs hesc ih =>
    simp only [Bool.and_eq_true, bne_iff_ne] at h
    have hback : (decide (quote = '"') && decide (c = '\\')) = false := by simpa using hesc
    have := ih h.2
    simp only [List.cons_append] at this ⊢
    rw [splitQuoted]
    simp [h.1, hback, this]

theorem exists_of_isQuotedText {cs : List Char} (h : isQuotedText cs) :
    ∃ q body, cs = q :: body ∧ (q = '"' ∨ q = '\x60') ∧ '\n' ∉ body ∧ closes q body := by
  cases cs with
  | nil => cases h
  | cons q body =>
    simp only [isQuotedText, Bool.and_eq_true, Bool.or_eq_true, decide_eq_true_eq] at h
    exact ⟨q, body, rfl, h.1.1, by simpa using h.1.2, h.2⟩

theorem splitLexeme_isQuotedText {cs : List Char} (h : isQuotedText cs) (rest : List Char) :
    splitLexeme (cs ++ rest) = some ⟨.quoted, cs, rest⟩ := by
  obtain ⟨q, body, rfl, hq, _, hcloses⟩ := exists_of_isQuotedText h
  rw [List.cons_append, splitLexeme_quoted hq, splitQuoted_closes hcloses]

theorem not_isSpace_of_isBareText {cs : List Char} (h : isBareText cs) : ∀ c ∈ cs, !isSpace c := by
  unfold isBareText at h
  split at h
  · cases h
  · simp only [Bool.and_eq_true, List.all_eq_true] at h
    exact List.forall_mem_cons.mpr ⟨by decide, h.1⟩
  · simp only [Bool.and_eq_true, List.all_eq_true] at h
    exact h.1

theorem startsBare_of_isBareText {c : Char} {cs : List Char} (h : isBareText (c :: cs))
    (rest : List Char) : startsBare c (cs ++ rest) := by
  by_cases hc : c = '{'
  · subst hc
    have hspace := not_isSpace_of_isBareText h
    simp only [isBareText, Bool.and_eq_true] at h
    cases cs with
    | nil => simp at h
    | cons d cs =>
      have hd : isSpace d = false := by simpa using hspace d (by simp)
      have hd' : d ≠ '}' := by simpa using h.2
      simp [startsBare, standsAlone, hd, hd']
  · have hb : isBareText (c :: cs) =
        ((c :: cs).all (!isSpace ·) && !(['}', '"', '\x60', '#'].contains c)) := by
      unfold isBareText
      split <;> simp_all
    rw [hb, Bool.and_eq_true] at h
    have hnot : c ≠ '}' ∧ c ≠ '"' ∧ c ≠ '\x60' ∧ c ≠ '#' := by simpa using h.2
    simp [startsBare, hc, hnot]

theorem ne_hash_of_isBareText {c : Char} {cs : List Char} (h : isBareText (c :: cs)) : c ≠ '#' := by
  rintro rfl
  simp [isBareText] at h

theorem splitLexeme_isBareText {cs rest : List Char} (h : isBareText cs)
    (hrest : ∀ d ∈ rest.head?, isSpace d) :
    splitLexeme (cs ++ rest) = some ⟨.bare, cs, rest⟩ := by
  have hspace := not_isSpace_of_isBareText h
  cases cs with
  | nil => cases h
  | cons c cs =>
    -- The word runs up to the first space, which is where `rest` begins.
    have hcs := (List.forall_mem_cons.mp hspace).2
    rw [List.cons_append, splitLexeme_bare (startsBare_of_isBareText h _),
      List.takeWhile_append_of_pos hcs, List.dropWhile_append_of_pos hcs]
    cases rest with
    | nil => simp
    | cons d rest =>
      have hd : isSpace d := hrest d rfl
      simp [hd]

end Token

namespace Draft.Word

open Token

theorem splitLexeme_chars (w : Word) {rest : List Char} (hrest : rest.head?.any isSpace) :
    splitLexeme (w.chars ++ rest) = some ⟨w.kind, w.chars, rest⟩ := by
  rcases w.valid with ⟨hkind, hbare⟩ | ⟨hkind, hquoted⟩
  · have hspace : ∀ d ∈ rest.head?, isSpace d := by
      intro d hd
      simpa [Option.mem_def.mp hd] using hrest
    rw [hkind, chars, splitLexeme_isBareText hbare hspace]
  · rw [hkind, chars, splitLexeme_isQuotedText hquoted]

theorem exists_cons (w : Word) : ∃ c cs, w.chars = c :: cs ∧ ¬ (isSpace c || c = '#') := by
  unfold chars
  rcases w.valid with ⟨_, hbare⟩ | ⟨_, hquoted⟩
  · cases hchars : w.text.toList with
    | nil => simp [hchars, isBareText] at hbare
    | cons c cs =>
      rw [hchars] at hbare
      have hspace := not_isSpace_of_isBareText hbare c (by simp)
      have hhash := ne_hash_of_isBareText hbare
      refine ⟨c, cs, rfl, ?_⟩
      simpa [hhash] using hspace
  · obtain ⟨q, body, hchars, hq, _, _⟩ := exists_of_isQuotedText hquoted
    refine ⟨q, body, hchars, ?_⟩
    rcases hq with rfl | rfl <;> decide

theorem feed_not_mem (w : Word) : '\n' ∉ w.chars := by
  unfold chars
  rcases w.valid with ⟨_, hbare⟩ | ⟨_, hquoted⟩
  · intro hmem
    exact absurd (not_isSpace_of_isBareText hbare _ hmem) (by decide)
  · obtain ⟨q, body, hchars, hq, hfeed, _⟩ := exists_of_isQuotedText hquoted
    rw [hchars]
    rcases hq with rfl | rfl <;> simpa using hfeed

theorem isWord_token (w : Word) (p : Position) : (w.token p).isWord := by
  rcases w.valid with ⟨hkind, _⟩ | ⟨hkind, _⟩ <;> simp [token, isWord, Kind.isWord, hkind]

end Draft.Word

namespace Scanner

open Token

theorem tokensFrom_space (p : Position) {c : Char} (hc : isSpace c) (cs : List Char) :
    tokensFrom p (c :: cs) = tokensFrom (p.step c) cs := by
  have hhash : c ≠ '#' := by
    rintro rfl
    exact absurd hc (by decide)
  have hskip := splitTrivia_skip (c := c) (by simp [hc]) cs
  rw [tokensFrom_eq, tokensFrom_eq (p.step c), hskip]
  simp [hhash, Position.after_cons]

theorem tokensFrom_lexeme (p : Position) {c : Char} {cs : List Char} {l : Lexeme}
    (hc : ¬ (isSpace c || c = '#')) (h : splitLexeme (c :: cs) = some l) :
    tokensFrom p (c :: cs) =
      ⟨l.kind, String.ofList l.text, p⟩ :: tokensFrom (p.after l.text) l.rest := by
  rw [tokensFrom_eq, splitTrivia_stop hc, h]
  rfl

theorem tokensFrom_brace (p : Position) {c : Char} {kind : Kind} (hc : ¬ (isSpace c || c = '#'))
    {rest : List Char} (h : splitLexeme (c :: '\n' :: rest) = some ⟨kind, [c], '\n' :: rest⟩) :
    tokensFrom p (c :: '\n' :: rest) =
      ⟨kind, String.ofList [c], p⟩ :: tokensFrom (p.after [c, '\n']) rest := by
  rw [tokensFrom_lexeme p hc h, tokensFrom_space _ (by decide)]
  rfl

theorem tokensFrom_opening (p : Position) (rest : List Char) : tokensFrom p ('{' :: '\n' :: rest) =
    Draft.opener p :: tokensFrom (p.after ['{', '\n']) rest :=
  tokensFrom_brace p (by decide) (splitLexeme_opening rfl)

theorem tokensFrom_closing (p : Position) (rest : List Char) : tokensFrom p ('}' :: '\n' :: rest) =
    Draft.closer p :: tokensFrom (p.after ['}', '\n']) rest :=
  tokensFrom_brace p (by decide) (splitLexeme_closing _)

theorem tokensFrom_word (p : Position) (w : Draft.Word) {rest : List Char}
    (hrest : rest.head?.any isSpace) :
    tokensFrom p (w.chars ++ rest) = w.token p :: tokensFrom (p.after w.chars) rest := by
  obtain ⟨d, cs, hchars, hd⟩ := w.exists_cons
  have hlexeme := w.splitLexeme_chars hrest
  have htext : String.ofList (d :: cs) = w.text := by
    rw [← hchars, Draft.Word.chars, String.ofList_toList]
  rw [hchars, List.cons_append] at hlexeme ⊢
  rw [tokensFrom_lexeme p hd hlexeme, htext]
  rfl

end Scanner

/-! ## The derivation that is written -/

namespace Draft

/-- Words behind one space each, the first space at `p`. -/
def placeWords (p : Position) : List Word → List Token
  | [] => []
  | w :: ws => w.token (p.step ' ') :: placeWords ((p.step ' ').after w.chars) ws

def Directives.place (p : Position) : Directives → Grammar.Directives
  | nil => .nil
  | plain name args rest =>
    .plain (name.token p) (placeWords (p.after name.chars) args)
      (rest.place (p.after (line name args ++ ['\n'])))
  | block name args inside rest =>
    let start := p.after (line name args ++ [' '])
    let stop := (start.after ['{', '\n']).after inside.render
    .block (name.token p) (placeWords (p.after name.chars) args) (opener start)
      (inside.place (start.after ['{', '\n'])) (closer stop) (rest.place (stop.after ['}', '\n']))

def placeBlock (p : Position) (ds : Directives) : Grammar.Block :=
  ⟨opener p, ds.place (p.after ['{', '\n']), closer ((p.after ['{', '\n']).after ds.render)⟩

def Site.place (p : Position) (s : Site) : Grammar.Site :=
  ⟨s.first.token p, placeWords (p.after s.first.chars) s.others,
    placeBlock (p.after (line s.first s.others ++ [' '])) s.directives⟩

def placeSites (p : Position) : List Site → List Grammar.Site
  | [] => []
  | s :: ss => s.place p :: placeSites (p.after s.render) ss

def place (d : Draft) : Grammar.File :=
  match d.globals with
  | none => ⟨none, placeSites ⟨0, 0⟩ d.sites⟩
  | some ds =>
    ⟨some (placeBlock ⟨0, 0⟩ ds), placeSites (Position.after ⟨0, 0⟩ (braces ds.render)) d.sites⟩

/-! ### Its tokens -/

open Scanner

theorem head?_spaced (ws : List Word) {rest : List Char} (hrest : rest.head?.any isSpace) :
    (spaced ws ++ rest).head?.any isSpace := by
  cases ws with
  | nil => exact hrest
  | cons w ws => rfl

theorem tokensFrom_spaced (p : Position) (ws : List Word) {rest : List Char}
    (hrest : rest.head?.any isSpace) : tokensFrom p (spaced ws ++ rest) =
      placeWords p ws ++ tokensFrom (p.after (spaced ws)) rest := by
  induction ws generalizing p with
  | nil => rfl
  | cons w ws ih =>
    have hcons : spaced (w :: ws) = ' ' :: (w.chars ++ spaced ws) := rfl
    rw [hcons, List.cons_append, List.append_assoc, tokensFrom_space _ (by decide),
      tokensFrom_word _ _ (head?_spaced ws hrest), ih, Position.after_cons, Position.after_append]
    rfl

theorem tokensFrom_line (p : Position) (w : Word) (ws : List Word) {rest : List Char}
    (hrest : rest.head?.any isSpace) : tokensFrom p (line w ws ++ rest) =
      w.token p :: (placeWords (p.after w.chars) ws ++ tokensFrom (p.after (line w ws)) rest) := by
  rw [line, List.append_assoc, tokensFrom_word _ _ (head?_spaced ws hrest),
    tokensFrom_spaced _ _ hrest, Position.after_append]

theorem Directives.tokens_place (ds : Directives) (p : Position) (rest : List Char) :
    tokensFrom p (ds.render ++ rest) =
      (ds.place p).tokens ++ tokensFrom (p.after ds.render) rest := by
  induction ds generalizing p rest with
  | nil => rfl
  | plain name args ds ih =>
    simp only [render, place, Grammar.Directives.tokens, List.append_assoc, List.cons_append]
    rw [tokensFrom_line _ _ _ rfl, tokensFrom_space _ (by decide), ih]
    simp [Position.after_append, Position.after_cons]
  | block name args inside ds ihi ihr =>
    simp only [render, place, braces, Grammar.Directives.tokens, List.append_assoc,
      List.cons_append]
    rw [tokensFrom_line _ _ _ rfl, tokensFrom_space _ (by decide), tokensFrom_opening, ihi,
      List.nil_append, tokensFrom_closing, ihr]
    simp [Position.after_append, Position.after_cons]

theorem tokens_placeBlock (ds : Directives) (p : Position) (rest : List Char) :
    tokensFrom p (braces ds.render ++ rest) =
      (placeBlock p ds).tokens ++ tokensFrom (p.after (braces ds.render)) rest := by
  simp only [braces, placeBlock, Grammar.Block.tokens, List.append_assoc, List.cons_append]
  rw [tokensFrom_opening, ds.tokens_place, List.nil_append, tokensFrom_closing]
  simp [Position.after_append, Position.after_cons]

theorem tokens_placeSites (ss : List Site) (p : Position) (rest : List Char) :
    tokensFrom p (ss.flatMap Site.render ++ rest) =
      (placeSites p ss).flatMap Grammar.Site.tokens ++
        tokensFrom (p.after (ss.flatMap Site.render)) rest := by
  induction ss generalizing p with
  | nil => rfl
  | cons s ss ih =>
    simp only [List.flatMap_cons, Site.render, placeSites, Site.place, Grammar.Site.tokens,
      List.append_assoc, List.cons_append]
    rw [tokensFrom_line _ _ _ rfl, tokensFrom_space _ (by decide), tokens_placeBlock, ih]
    simp [Position.after_append, Position.after_cons]

theorem tokens_place (d : Draft) : d.place.tokens = (tokens d.render).dropLast := by
  obtain ⟨globals, sites⟩ := d
  rw [tokens_eq]
  unfold render place
  rw [String.toList_ofList]
  have hend : ∀ p : Position, tokensFrom p [] = [⟨.finish, "", p⟩] := by
    intro p
    rw [tokensFrom_eq]
    rfl
  cases globals with
  | none =>
    have h := tokens_placeSites sites ⟨0, 0⟩ []
    rw [List.append_nil, hend] at h
    simp [h, Grammar.File.tokens]
  | some ds =>
    have h := tokens_placeBlock ds ⟨0, 0⟩ (sites.flatMap Site.render)
    have h' := tokens_placeSites sites (Position.after ⟨0, 0⟩ (braces ds.render)) []
    rw [List.append_nil, hend] at h'
    rw [h'] at h
    simp [h, Grammar.File.tokens, ← List.append_assoc]

/-! ### It is well formed -/

theorem line_after {cs : List Char} (h : '\n' ∉ cs) (p : Position) : (p.after cs).line = p.line := by
  induction cs generalizing p with
  | nil => rfl
  | cons c cs ih =>
    rw [List.mem_cons, not_or] at h
    rw [Position.after_cons, ih h.2]
    unfold Position.step
    rw [if_neg (Ne.symm h.1)]
    split <;> rfl

theorem feed_not_mem_line (w : Word) (ws : List Word) : '\n' ∉ line w ws := by
  simp [line, spaced, Word.feed_not_mem]

theorem isArg_placeWords {name : Token} (ws : List Word) {p : Position} (hp : p.line = name.line) :
    ∀ t ∈ placeWords p ws, Grammar.IsArg name t := by
  induction ws generalizing p with
  | nil => simp [placeWords]
  | cons w ws ih =>
    refine List.forall_mem_cons.mpr ⟨⟨w.isWord_token _, hp⟩, ih ?_⟩
    rw [line_after w.feed_not_mem]
    exact hp

theorem addressRun_placeWords (w : Word) (ws : List Word) (p : Position) :
    Grammar.AddressRun (w.token p) (placeWords (p.after w.chars) ws) := by
  induction ws generalizing w p with
  | nil => trivial
  | cons v ws ih => exact ⟨v.isWord_token _, .inl rfl, ih v _⟩

theorem Directives.line_place {ds : Directives} {p : Position} :
    ∀ t ∈ (ds.place p).tokens.head?, t.line = p.line := by
  cases ds <;> simp [place, Grammar.Directives.tokens, Word.token, Token.line]

theorem Directives.wf_place (ds : Directives) (p : Position) : (ds.place p).WF := by
  induction ds generalizing p with
  | nil => trivial
  | plain name args ds ih =>
    refine ⟨name.isWord_token p, isArg_placeWords args (line_after name.feed_not_mem p), ?_, ih _⟩
    -- The next directive starts on the line below, so its name is no argument.
    intro t ht harg
    have hline := line_place t ht
    have hnext : (p.after (line name args ++ ['\n'])).line = p.line + 1 := by
      rw [Position.after_append]
      exact congrArg (· + 1) (line_after (feed_not_mem_line name args) p)
    have hsame : t.line = p.line := harg.2
    omega
  | block name args inside ds ihi ihr =>
    exact ⟨name.isWord_token p, isArg_placeWords args (line_after name.feed_not_mem p), rfl, ihi _,
      rfl, ihr _⟩

theorem Directives.height_place (ds : Directives) (p : Position) :
    (ds.place p).height = ds.height := by
  induction ds generalizing p with
  | nil => rfl
  | plain name args ds ih => exact ih _
  | block name args inside ds ihi ihr =>
    simp only [place, Grammar.Directives.height, height, ihi, ihr]

theorem wf_placeBlock {ds : Directives} (h : ds.height + 1 ≤ maxDepth) (p : Position) :
    (placeBlock p ds).WF where
  opener := rfl
  inside := ds.wf_place _
  closer := rfl
  shallow := by
    rw [Grammar.Block.height, placeBlock, ds.height_place]
    exact h

theorem wf_placeSites {ss : List Site} (h : heightOf ss ≤ maxDepth) (p : Position) :
    ∀ s ∈ placeSites p ss, s.WF := by
  induction ss generalizing p with
  | nil => simp [placeSites]
  | cons s ss ih =>
    obtain ⟨hs, hss⟩ := Nat.max_le.mp h
    refine List.forall_mem_cons.mpr ⟨?_, ih hss _⟩
    exact ⟨s.first.isWord_token p, addressRun_placeWords _ _ p, wf_placeBlock hs _⟩

theorem wf_place {d : Draft} (h : d.height ≤ maxDepth) : d.place.WF := by
  obtain ⟨globals, sites⟩ := d
  obtain ⟨hglobals, hsites⟩ := Nat.max_le.mp h
  cases globals with
  | none => exact ⟨by simp [place], wf_placeSites hsites _⟩
  | some ds =>
    refine ⟨?_, wf_placeSites hsites _⟩
    intro b hb
    obtain rfl : placeBlock ⟨0, 0⟩ ds = b := Option.some.inj hb
    exact wf_placeBlock hglobals _

/-! ### Its tree -/

end Draft

def Token.unplaced (t : Token) : Token :=
  { t with start := ⟨0, 0⟩ }

/-- The document with every place, and every line, at the start of the text. -/
def Document.unplaced (d : Document) : Document :=
  d.map Token.unplaced fun _ => 0

namespace Draft

theorem unplaced_placeWords (ws : List Word) (p : Position) :
    (placeWords p ws).map Token.unplaced = ws.map (·.token ⟨0, 0⟩) := by
  induction ws generalizing p with
  | nil => rfl
  | cons w ws ih =>
    rw [placeWords, List.map_cons, ih]
    rfl

theorem Directives.unplaced_place (ds : Directives) (p : Position) :
    (ds.place p).directives.map (Directive.map Token.unplaced Token.unplaced fun _ => 0) =
      ds.tree := by
  induction ds generalizing p with
  | nil => rfl
  | plain name args ds ih =>
    simp only [place, Grammar.Directives.directives, List.map_cons, Directive.map, ih,
      unplaced_placeWords, tree]
    rfl
  | block name args inside ds ihi ihr =>
    simp only [place, Grammar.Directives.directives, List.map_cons, Directive.map,
      Directive.mapAll_eq_map, ihi, ihr, unplaced_placeWords, tree]
    rfl

theorem unplaced_placeSites (ss : List Site) (p : Position) :
    ((placeSites p ss).map fun s => Site.map Token.unplaced (fun _ => 0)
      ⟨s.first, s.others, s.block.inside.directives, s.block.closer.line⟩) = ss.map Site.tree := by
  induction ss generalizing p with
  | nil => rfl
  | cons s ss ih =>
    rw [placeSites, List.map_cons, List.map_cons, ih, Site.place, placeBlock, Caddyfile.Site.map,
      Directives.unplaced_place, unplaced_placeWords]
    rfl

theorem unplaced_place (d : Draft) : d.place.document.unplaced = d.document := by
  obtain ⟨globals, sites⟩ := d
  cases globals with
  | none =>
    simp [Document.unplaced, Document.map, Grammar.File.document, place, document,
      unplaced_placeSites, Function.comp_def]
  | some ds =>
    have hglobals : Globals.map Token.unplaced (fun _ => 0) ⟨(placeBlock ⟨0, 0⟩ ds).opener,
        (placeBlock ⟨0, 0⟩ ds).inside.directives, (placeBlock ⟨0, 0⟩ ds).closer.line⟩ =
        ⟨opener ⟨0, 0⟩, ds.tree, 0⟩ := by
      rw [Globals.map, placeBlock, Directives.unplaced_place]
      rfl
    simp [Document.unplaced, Document.map, Grammar.File.document, place, document,
      unplaced_placeSites, Function.comp_def, hglobals]

end Draft

/-- What is written is read back without faults, as the same words in the same blocks. -/
theorem read_render (d : Draft) (h : d.height ≤ maxDepth) :
    (Document.read d.render).faults = [] ∧
      (Document.read d.render).document.unplaced = d.document := by
  rw [Grammar.read_of_tokens (Draft.wf_place h) d.tokens_place]
  exact ⟨rfl, d.unplaced_place⟩

theorem read_render_placeholder :
    ∃ d : Draft, d.render = "\x7b\ndebug\n\x7d\na.com, b.com \x7b\nhandle \x7b$PATH\x7d \x7b\n"
          ++ "respond \"a \\\" \x7b\" \x7b\n\x7d\n\x7d\nimport x#\n\x7d\n" ∧
      d.height ≤ maxDepth ∧ (Document.read d.render).faults = [] ∧
      (Document.read d.render).document.unplaced = d.document := by
  let bare (text : String) (h : isBareText text.toList) : Draft.Word := ⟨.bare, text, .inl ⟨rfl, h⟩⟩
  let quoted : Draft.Word := ⟨.quoted, "\"a \\\" \x7b\"", .inr ⟨rfl, by decide +kernel⟩⟩
  let inner : Draft.Directives := .block (bare "respond" (by decide +kernel)) [quoted] .nil .nil
  let outer : Draft.Directives := .block (bare "handle" (by decide +kernel))
    [bare "\x7b$PATH\x7d" (by decide +kernel)] inner
    (.plain (bare "import" (by decide +kernel)) [bare "x#" (by decide +kernel)] .nil)
  let d : Draft := ⟨some (.plain (bare "debug" (by decide +kernel)) [] .nil),
    [⟨bare "a.com," (by decide +kernel), [bare "b.com" (by decide +kernel)], outer⟩]⟩
  exact ⟨d, by decide +kernel, by decide +kernel, read_render d (by decide +kernel)⟩

end Caddyfile
