import Caddyfile.Token

/-!
# Cutting a text into tokens

Between tokens stand blanks, line ends and comments, called trivia. `splitTrivia` and `splitLexeme`
each cut a text in two and lose nothing of it; a scan alternates them until the text is used up and
marks the end with a token of its own.
-/

namespace Caddyfile

def isSpace (c : Char) : Bool :=
  c = ' ' || c = '\t' || c = '\n' || c = '\r'

namespace Token

/-! ## Trivia -/

/-- Cuts off the leading blanks, line ends and comments. A comment runs from a hash to the end of
its line; `comment` says that one is open. -/
def splitTrivia (comment : Bool) : List Char → List Char × List Char
  | [] => ([], [])
  | c :: cs =>
    if comment then
      let tail := splitTrivia (c != '\n') cs
      (c :: tail.1, tail.2)
    else if isSpace c || c = '#' then
      let tail := splitTrivia (c = '#') cs
      (c :: tail.1, tail.2)
    else ([], c :: cs)

theorem splitTrivia_append (comment : Bool) (cs : List Char) :
    (splitTrivia comment cs).1 ++ (splitTrivia comment cs).2 = cs := by
  induction cs generalizing comment with
  | nil => rfl
  | cons c cs ih =>
    unfold splitTrivia
    split
    · simp [ih]
    · split <;> simp [ih]

/-! ## Lexemes -/

/-- Cuts after the next `quote`. With `escapes`, a backslash takes the character after it along;
`escaped` says that one has just been read. Without a closing quote all of the text is taken. -/
def splitQuoted (quote : Char) (escapes escaped : Bool) : List Char → List Char × List Char
  | [] => ([], [])
  | c :: cs =>
    if c = quote && !escaped then ([c], cs)
    else
      let tail := splitQuoted quote escapes (escapes && !escaped && c = '\\') cs
      (c :: tail.1, tail.2)

theorem splitQuoted_append (quote : Char) (escapes escaped : Bool) (cs : List Char) :
    (splitQuoted quote escapes escaped cs).1 ++ (splitQuoted quote escapes escaped cs).2 = cs := by
  induction cs generalizing escaped with
  | nil => rfl
  | cons c cs ih =>
    unfold splitQuoted
    split <;> simp [ih]

/-- An opening brace followed by `cs` opens a block only if it stands alone; otherwise it is the
first character of a placeholder. -/
def standsAlone : List Char → Bool
  | [] => true
  | c :: _ => c = '}' || isSpace c

structure Lexeme where
  kind : Kind
  text : List Char
  rest : List Char
deriving DecidableEq, Repr

/-- The lexeme at the head of a text that starts with no trivia. A word runs up to the next space
and swallows the braces in it. -/
def splitLexeme : List Char → Option Lexeme
  | [] => none
  | c :: cs =>
    if c = '}' then some ⟨.closing, [c], cs⟩
    else if c = '{' && standsAlone cs then some ⟨.opening, [c], cs⟩
    else if c = '"' || c = '\x60' then
      let tail := splitQuoted c (c = '"') false cs
      some ⟨.quoted, c :: tail.1, tail.2⟩
    else some ⟨.bare, c :: cs.takeWhile (!isSpace ·), cs.dropWhile (!isSpace ·)⟩

theorem splitLexeme_append {cs : List Char} {l : Lexeme} (h : splitLexeme cs = some l) :
    l.text ++ l.rest = cs := by
  cases cs with
  | nil => simp [splitLexeme] at h
  | cons c cs =>
    simp only [splitLexeme] at h
    split at h
    · cases h; simp
    split at h
    · cases h; simp
    split at h
    · cases h; simp [splitQuoted_append]
    · cases h; simp [List.takeWhile_append_dropWhile]

theorem splitLexeme_text_ne_nil {cs : List Char} {l : Lexeme} (h : splitLexeme cs = some l) :
    l.text ≠ [] := by
  cases cs with
  | nil => simp [splitLexeme] at h
  | cons c cs =>
    simp only [splitLexeme] at h
    repeat' split at h
    all_goals cases h; simp

theorem length_splitLexeme_rest_lt {cs : List Char} {l : Lexeme}
    (h : splitLexeme (splitTrivia false cs).2 = some l) : l.rest.length < cs.length := by
  have hs := congrArg List.length (splitTrivia_append false cs)
  have hl := congrArg List.length (splitLexeme_append h)
  have hp := List.length_pos_iff.2 (splitLexeme_text_ne_nil h)
  simp only [List.length_append] at hs hl
  omega

end Token

/-! ## Scanning -/

/-- A scan under way: what is left of the text and where it starts. `done` is set once the end has
been handed out by `next?`. -/
structure Scanner where
  rest : List Char
  position : Position
  done : Bool
deriving DecidableEq, Repr

namespace Scanner

def ofString (source : String) : Scanner :=
  ⟨source.toList, ⟨0, 0⟩, false⟩

/-- The next token and the scan after it. At the end of the text this gives an end token every
time. -/
def read (s : Scanner) : Token × Scanner :=
  let gap := Token.splitTrivia false s.rest
  let start := s.position.after gap.1
  match Token.splitLexeme gap.2 with
  | none => (⟨.finish, "", start⟩, { s with rest := gap.2, position := start })
  | some l =>
    (⟨l.kind, String.ofList l.text, start⟩,
      { s with rest := l.rest, position := start.after l.text })

/-- Like `read`, but the end token is handed out only once. -/
def next? (s : Scanner) : Option (Token × Scanner) :=
  if s.done then none
  else
    let r := s.read
    some (r.1, { r.2 with done := r.1.kind = .finish })

def tokensFrom (start : Position) (cs : List Char) : List Token :=
  let gap := Token.splitTrivia false cs
  let start := start.after gap.1
  match _h : Token.splitLexeme gap.2 with
  | none => [⟨.finish, "", start⟩]
  | some l => ⟨l.kind, String.ofList l.text, start⟩ :: tokensFrom (start.after l.text) l.rest
termination_by cs.length
decreasing_by exact Token.length_splitLexeme_rest_lt _h

def remaining (s : Scanner) : List Token :=
  if s.done then [] else tokensFrom s.position s.rest

end Scanner

def tokens (source : String) : List Token :=
  (Scanner.ofString source).remaining

end Caddyfile
