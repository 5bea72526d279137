import Caddyfile.Proofs.Seams

/-!
# A scan one step at a time

A scan can be asked for its next token in two ways, and for all that is still to come. However these
requests are mixed, the tokens handed out are the tokens of the text in order, and then its end token
again and again. Only one of the two ways stops after the end token, and only once it has handed it
out itself (`steps_follow_tokens`).
-/

namespace Caddyfile

namespace Scanner

open Token

/-- What `next?` hands out, one token after another, until it hands out nothing. -/
inductive Yields : Scanner → List Token → Prop where
  | nil {s : Scanner} (h : s.next? = none) : Yields s []
  | cons {s s' : Scanner} {t : Token} {ts : List Token} (h : s.next? = some (t, s'))
    (hs : Yields s' ts) : Yields s (t :: ts)

/-! ## Requests -/

inductive Request where
  | read
  | next
  /-- All that a copy of the scan has still to hand out. -/
  | rest
deriving DecidableEq, Repr

inductive Answer where
  | token (t : Token)
  /-- Nothing is left to hand out. -/
  | ended
  | rest (ts : List Token)
deriving DecidableEq, Repr

def answer (s : Scanner) : Request → Answer × Scanner
  | .read => (.token s.read.1, s.read.2)
  | .next =>
    match s.next? with
    | some r => (.token r.1, r.2)
    | none => (.ended, s)
  | .rest => (.rest s.remaining, s)

/-- A row of requests with their answers. -/
def history (s : Scanner) : List Request → List (Request × Answer)
  | [] => []
  | r :: rs => (r, (s.answer r).1) :: (s.answer r).2.history rs

def isToken : Request × Answer → Bool
  | (_, .token _) => true
  | _ => false

/-- The end token is handed out by `next?`. -/
def isLast : Request × Answer → Bool
  | (.next, .token t) => t.kind = .finish
  | _ => false

def given (past : List (Request × Answer)) : Nat :=
  past.countP isToken

/-- Whether `next?` has handed out the end token. -/
def closed (past : List (Request × Answer)) : Bool :=
  past.any isLast

/-! ## What is still to come -/

section
variable (s : Scanner)

def pending : List Token :=
  tokensFrom s.position s.rest

def start : Position :=
  s.position.after (splitTrivia false s.rest).1

theorem read_of_none (h : splitLexeme (splitTrivia false s.rest).2 = none) :
    s.read = (⟨.finish, "", s.start⟩, ⟨[], s.start, s.done⟩) := by
  simp only [read, splitLexeme_eq_none h]
  rfl

theorem read_of_some {l : Lexeme} (h : splitLexeme (splitTrivia false s.rest).2 = some l) :
    s.read = (⟨l.kind, String.ofList l.text, s.start⟩, ⟨l.rest, s.start.after l.text, s.done⟩) := by
  simp only [read, h]
  rfl

/-- Reading takes the first token of those to come, but the end token stays. -/
theorem pending_read :
    s.read.1.kind = .finish ∧ s.pending = [s.read.1] ∧ s.read.2.pending = [s.read.1] ∨
      s.read.1.kind ≠ .finish ∧ s.pending = s.read.1 :: s.read.2.pending := by
  unfold pending
  rw [tokensFrom_eq s.position]
  cases hl : splitLexeme (splitTrivia false s.rest).2 with
  | none =>
    rw [s.read_of_none hl]
    refine .inl ⟨rfl, rfl, ?_⟩
    rw [tokensFrom_eq]
    rfl
  | some l =>
    rw [s.read_of_some hl]
    exact .inr ⟨splitLexeme_kind hl, rfl⟩

theorem done_read : s.read.2.done = s.done := by
  cases hl : splitLexeme (splitTrivia false s.rest).2 with
  | none => rw [s.read_of_none hl]
  | some l => rw [s.read_of_some hl]

end

theorem next?_of_done {s : Scanner} (h : s.done) : s.next? = none :=
  if_pos h

theorem next?_of_not_done {s : Scanner} (h : s.done = false) : s.next? =
    some (s.read.1, { s.read.2 with done := s.read.1.kind = .finish }) := by
  simp [next?, h]

theorem remaining_eq (s : Scanner) : s.remaining = if s.done then [] else s.pending := rfl

theorem yields_remaining (s : Scanner) : Yields s s.remaining := by
  -- by induction on what is to come; only the end token stops it
  generalize hts : s.pending = ts
  induction ts generalizing s with
  | nil => exact absurd hts (tokensFrom_ne_nil _ _)
  | cons t ts ih =>
    cases hd : s.done with
    | true =>
      rw [remaining_eq, if_pos hd]
      exact .nil (next?_of_done hd)
    | false =>
      have hnext := next?_of_not_done hd
      rw [remaining_eq, hd, if_neg (by decide)]
      rcases s.pending_read with ⟨hk, hp, _⟩ | ⟨hk, hp⟩
      · rw [hp]
        exact .cons hnext (.nil (next?_of_done (by simpa using hk)))
      · obtain ⟨rfl, hrest⟩ := List.cons.inj (hp.symm.trans hts)
        rw [hp]
        refine .cons hnext ?_
        have hyields := ih { s.read.2 with done := s.read.1.kind = .finish } hrest
        rwa [remaining_eq, if_neg (by simpa using hk)] at hyields

theorem Yields.unique {s : Scanner} {ts us : List Token} (h : Yields s ts) (h' : Yields s us) :
    ts = us := by
  induction h generalizing us with
  | nil hnone =>
    cases h' with
    | nil => rfl
    | cons hsome _ => simp [hnone] at hsome
  | cons hsome _ ih =>
    cases h' with
    | nil hnone => simp [hnone] at hsome
    | cons hsome' hs =>
      obtain ⟨rfl, rfl⟩ := Prod.mk.inj (Option.some.inj (hsome.symm.trans hsome'))
      rw [ih hs]

theorem yields_iff {s : Scanner} {ts : List Token} : Yields s ts ↔ ts = s.remaining := by
  constructor
  · exact fun h => h.unique s.yields_remaining
  · rintro rfl
    exact s.yields_remaining

/-! ## One request, and a row of them -/

section
variable {ws : List Token} {e : Token} (he : e.kind = .finish)
include he

/-- Behind the first `n` of the tokens `ws`, the next one is read. Behind all of them it is `e`. -/
theorem read_of_pending {s : Scanner} {n : Nat} (h : s.pending = ws.drop n ++ [e]) :
    s.read.1 = ws[n]?.getD e ∧ s.read.2.pending = ws.drop (n + 1) ++ [e] := by
  by_cases hn : n < ws.length
  · rw [List.drop_eq_getElem_cons hn, List.cons_append] at h
    rcases s.pending_read with ⟨_, hp, _⟩ | ⟨_, hp⟩
    · simp [hp] at h
    · obtain ⟨hread, hrest⟩ := List.cons.inj (hp.symm.trans h)
      exact ⟨by simp [hread, hn], hrest⟩
  · have hnil : ws.drop n = [] := List.drop_eq_nil_of_le (by omega)
    have hnil' : ws.drop (n + 1) = [] := List.drop_eq_nil_of_le (by omega)
    rw [hnil, List.nil_append] at h
    rcases s.pending_read with ⟨_, hp, hrest⟩ | ⟨hk, hp⟩
    · obtain ⟨hread, _⟩ := List.cons.inj (hp.symm.trans h)
      rw [hnil', hrest, hread]
      exact ⟨by simp [Nat.le_of_not_lt hn], rfl⟩
    · obtain ⟨hread, _⟩ := List.cons.inj (hp.symm.trans h)
      exact absurd (hread ▸ he) hk

end

/-- The scan has answered `past`: the tokens `ws` that it has not handed out are to come, then `e`. -/
structure Follows (ws : List Token) (e : Token) (s : Scanner) (past : List (Request × Answer)) :
    Prop where
  finish : e.kind = .finish
  pending_eq : s.pending = ws.drop (given past) ++ [e]
  done_eq : s.done = closed past

def expected (ws : List Token) (e : Token) (past : List (Request × Answer)) : Request → Answer
  | .read => .token (ws[given past]?.getD e)
  | .next => if closed past then .ended else .token (ws[given past]?.getD e)
  | .rest => .rest (if closed past then [] else ws.drop (given past) ++ [e])

theorem given_snoc (past : List (Request × Answer)) (x : Request × Answer) :
    given (past ++ [x]) = given past + if isToken x then 1 else 0 := by
  rw [given, List.countP_append, List.countP_singleton]
  rfl

theorem closed_snoc (past : List (Request × Answer)) (x : Request × Answer) :
    closed (past ++ [x]) = (closed past || isLast x) := by
  simp [closed]

theorem answer_next_of_done {s : Scanner} (h : s.done) : s.answer .next = (.ended, s) := by
  simp only [answer, next?_of_done h]

theorem answer_next_of_not_done {s : Scanner} (h : s.done = false) : s.answer .next =
    (.token s.read.1, { s.read.2 with done := s.read.1.kind = .finish }) := by
  simp only [answer, next?_of_not_done h]

namespace Follows

variable {ws : List Token} {e : Token} {s : Scanner} {past : List (Request × Answer)}

theorem answer_eq (h : Follows ws e s past) (r : Request) :
    (s.answer r).1 = expected ws e past r := by
  have hread := (read_of_pending h.finish h.pending_eq).1
  cases r with
  | read => exact congrArg Answer.token hread
  | next =>
    rw [expected, ← h.done_eq]
    cases hd : s.done with
    | true => rw [answer_next_of_done hd, if_pos rfl]
    | false => rw [answer_next_of_not_done hd, if_neg (by decide), hread]
  | rest =>
    rw [expected, ← h.done_eq, ← h.pending_eq]
    rfl

theorem snoc (h : Follows ws e s past) {s' : Scanner} {x : Request × Answer}
    (hp : s'.pending = ws.drop (given past + if isToken x then 1 else 0) ++ [e])
    (hd : s'.done = (s.done || isLast x)) : Follows ws e s' (past ++ [x]) := by
  refine ⟨h.finish, ?_, ?_⟩
  · rw [given_snoc, hp]
  · rw [closed_snoc, hd, h.done_eq]

theorem answer (h : Follows ws e s past) (r : Request) :
    Follows ws e (s.answer r).2 (past ++ [(r, (s.answer r).1)]) := by
  have hrest := (read_of_pending h.finish h.pending_eq).2
  cases r with
  | read => exact h.snoc hrest (by simp [Scanner.answer, isLast, done_read])
  | next =>
    cases hd : s.done with
    | true =>
      rw [answer_next_of_done hd]
      exact h.snoc h.pending_eq (by simp [isLast])
    | false =>
      rw [answer_next_of_not_done hd]
      exact h.snoc hrest (by simp [isLast, hd])
  | rest => exact h.snoc h.pending_eq (by simp [Scanner.answer, isLast])

theorem history (h : Follows ws e s past) {rs : List Request}
    {before after : List (Request × Answer)} {r : Request} {a : Answer}
    (heq : s.history rs = before ++ (r, a) :: after) : a = expected ws e (past ++ before) r := by
  -- each answer before `a` moves from the row to the past
  induction before generalizing s past rs with
  | nil =>
    cases rs with
    | nil => cases heq
    | cons q rs =>
      obtain ⟨hhead, _⟩ := List.cons.inj heq
      obtain ⟨rfl, rfl⟩ := Prod.mk.inj hhead
      rw [List.append_nil]
      exact h.answer_eq q
  | cons b before ih =>
    cases rs with
    | nil => cases heq
    | cons q rs =>
      obtain ⟨rfl, htail⟩ := List.cons.inj heq
      simpa using ih (h.answer q) htail

end Follows

theorem follows_ofString {source : String} {ws : List Token} {e : Token}
    (h : tokens source = ws ++ [e]) (he : e.kind = .finish) :
    Follows ws e (ofString source) [] :=
  ⟨he, h, rfl⟩

theorem map_fst_history (s : Scanner) (rs : List Request) :
    (s.history rs).map Prod.fst = rs := by
  induction rs generalizing s with
  | nil => rfl
  | cons r rs ih => simp [history, ih]

/-- A request for the rest does not change what comes after it. -/
theorem history_filter (s : Scanner) (rs : List Request) :
    s.history (rs.filter (· ≠ .rest)) = (s.history rs).filter (·.1 ≠ .rest) := by
  induction rs generalizing s with
  | nil => rfl
  | cons r rs ih =>
    cases r with
    | read | next => simpa [history] using ih _
    | rest => simpa [history, answer] using ih s

end Scanner

open Scanner

/-- The requests to a scan may be mixed in any way, and each is answered. A token that is handed out
is the one of the text that follows those handed out before, and the end token once there is none
left. `next?` hands out nothing once it has handed out the end token, and only then. The rest is what
was not yet handed out, up to the end token, or nothing once `next?` has handed that out; it is what
`next?` yields from there on, and asking for it changes no other answer. -/
theorem steps_follow_tokens (source : String) :
    ∃ ws e, tokens source = ws ++ [e] ∧ e.kind = .finish ∧ (∀ t ∈ ws, t.kind ≠ .finish) ∧
      (∀ rs, ((ofString source).history rs).map Prod.fst = rs) ∧
      (∀ rs before r a after, (ofString source).history rs = before ++ (r, a) :: after →
        (r = .read → a = .token (ws[given before]?.getD e)) ∧
        (r = .next → (a = .ended ↔ closed before) ∧
          (¬ closed before → a = .token (ws[given before]?.getD e))) ∧
        (r = .rest → a = .rest (if closed before then [] else ws.drop (given before) ++ [e]))) ∧
      (∀ s ts, Yields s ts ↔ (s.answer .rest).1 = .rest ts) ∧
      ∀ rs, (ofString source).history (rs.filter (· ≠ .rest)) =
        ((ofString source).history rs).filter (·.1 ≠ .rest) := by
  obtain ⟨ws, e, hts, he, _, hws⟩ := tokens_finish_last source
  refine ⟨ws, e, hts, he, hws, map_fst_history _, ?_, ?_, history_filter _⟩
  · intro rs before r a after hhistory
    have ha := (follows_ofString hts he).history hhistory
    rw [List.nil_append] at ha
    refine ⟨?_, ?_, ?_⟩
    · rintro rfl
      exact ha
    · rintro rfl
      rw [ha, expected]
      cases closed before with
      | true => simp
      | false => simp
    · rintro rfl
      exact ha
  · intro s ts
    rw [yields_iff, eq_comm]
    exact ⟨congrArg Answer.rest, Answer.rest.inj⟩

end Caddyfile
