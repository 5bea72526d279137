import Caddyfile.Cursor
import Caddyfile.Proofs.Scanning

/-!
# Tokens that lead their line

If only blanks stand in front of a token, every token before it starts on an earlier line
(`line_lt_of_leads`). A cursor there is asked for a name (`contextAt_leads`), as it is everywhere in
the first word of a line (`contextAt_of_beginsLine`).
-/

namespace Caddyfile

/-- Between the start of its line and the token there are only spaces and tabs. -/
def Leads (source : String) (t : Token) : Prop :=
  ∃ above indent below : List Char, source.toList = above ++ (indent ++ (t.text.toList ++ below)) ∧
    (above = [] ∨ above.getLast? = some '\n') ∧ (∀ c ∈ indent, c = ' ' ∨ c = '\t') ∧
    t.start = .behind (above ++ indent)

namespace Position

theorem after_blanks (p : Position) {indent : List Char} (h : ∀ c ∈ indent, c = ' ' ∨ c = '\t') :
    p.after indent = ⟨p.line, p.column + indent.length⟩ := by
  apply after_line
  · intro hmem
    rcases h _ hmem with e | e <;> cases e
  · intro hmem
    rcases h _ hmem with e | e <;> cases e

theorem behind_lines {above : List Char} (h : above = [] ∨ above.getLast? = some '\n') :
    behind above = ⟨above.count '\n', 0⟩ := by
  rcases h with rfl | h
  · rfl
  · obtain ⟨cs, rfl⟩ := List.getLast?_eq_some_iff.mp h
    simp [behind, List.count_append]

theorem behind_indent {above indent : List Char} (ha : above = [] ∨ above.getLast? = some '\n')
    (hi : ∀ c ∈ indent, c = ' ' ∨ c = '\t') :
    behind (above ++ indent) = ⟨above.count '\n', indent.length⟩ := by
  rw [behind_append, behind_lines ha, after_blanks _ hi, Nat.zero_add]

end Position

/-- A visible character in front of blanks that start a line is on an earlier line. -/
theorem line_lt_of_above {past rest above indent below : List Char} {c : Char}
    (heq : past ++ c :: rest = above ++ (indent ++ below)) (hc : isSpace c = false)
    (ha : above = [] ∨ above.getLast? = some '\n') (hi : ∀ c ∈ indent, c = ' ' ∨ c = '\t')
    (hlt : Position.behind past < .behind (above ++ indent)) :
    (Position.behind past).line < (Position.behind (above ++ indent)).line := by
  have hblank : c ∉ indent := by
    intro hmem
    rcases hi c hmem with rfl | rfl <;> cases hc
  -- the character is neither behind the blanks nor one of them
  have hpast : ∀ v, past ≠ above ++ v := by
    rintro v rfl
    rw [List.append_assoc, List.append_cancel_left_eq] at heq
    rcases List.append_eq_append_iff.mp heq with ⟨w, rfl, hw⟩ | ⟨w, rfl, _⟩
    · cases w with
      | nil => simp [Position.lt_irrefl] at hlt
      | cons d w =>
        obtain ⟨rfl, _⟩ := List.cons.inj hw
        exact hblank (by simp)
    · rw [← List.append_assoc, Position.behind_append _ w] at hlt
      exact Position.lt_irrefl _ (Position.lt_of_le_of_lt (Position.le_after _ w) hlt)
  rcases List.append_eq_append_iff.mp heq with ⟨v, rfl, _⟩ | ⟨v, hv, _⟩
  · have hne : v ≠ [] := by
      rintro rfl
      exact hpast [] (by simp)
    have hlast : v.getLast? = some '\n' := by
      rcases ha with ha | ha
      · simp [hne] at ha
      · rw [List.getLast?_append, List.getLast?_eq_some_getLast hne] at ha
        rwa [List.getLast?_eq_some_getLast hne]
    have hcount : 0 < v.count '\n' := List.count_pos_iff.mpr (List.mem_of_getLast? hlast)
    simp only [Position.behind, List.count_append]
    omega
  · exact absurd hv (hpast v)

theorem line_lt_of_leads {source : String} {t u : Token} (ht : Leads source t)
    (hu : u ∈ tokens source) (hk : u.kind ≠ .finish) (hlt : u.start < t.start) :
    u.line < t.line := by
  obtain ⟨above, indent, below, hsource, ha, hi, hstart⟩ := ht
  obtain ⟨past, c, rest, hpast, hstart', hc⟩ := exists_visible hu hk
  rw [hstart, hstart'] at hlt
  have := line_lt_of_above (hpast.symm.trans hsource) hc ha hi hlt
  rwa [← hstart, ← hstart'] at this

namespace Text

theorem lines_ne_nil : ∀ cs : List Char, lines cs ≠ []
  | [] => by simp [lines]
  | c :: cs => by
    unfold lines
    split
    · simp
    · simpa using lines_ne_nil cs

theorem feeds_of_cons {c : Char} {above : List Char} (h : (c :: above).getLast? = some '\n') :
    above = [] ∧ c = '\n' ∨ above.getLast? = some '\n' := by
  cases above with
  | nil => exact .inl ⟨rfl, by simpa using h⟩
  | cons d above => exact .inr (by simpa using h)

theorem getElem?_lines_append_left {above : List Char} (cs : List Char) {i : Nat}
    (h : i < above.count '\n') : (lines (above ++ cs))[i]? = (lines above)[i]? := by
  induction above generalizing i with
  | nil => simp at h
  | cons c above ih =>
    rw [List.cons_append, lines, lines]
    by_cases hc : c = '\n'
    · rw [if_pos hc, if_pos hc]
      cases i with
      | zero => rfl
      | succ i =>
        rw [hc, List.count_cons_self] at h
        exact ih (Nat.lt_of_succ_lt_succ h)
    · rw [List.count_cons_of_ne hc] at h
      rw [if_neg hc, if_neg hc, List.getElem?_modifyHead, List.getElem?_modifyHead, ih h]

theorem getElem?_lines_append_right {above : List Char} (cs : List Char) (i : Nat)
    (h : above = [] ∨ above.getLast? = some '\n') :
    (lines (above ++ cs))[above.count '\n' + i]? = (lines cs)[i]? := by
  induction above with
  | nil => simp
  | cons c above ih =>
    have hlast : (c :: above).getLast? = some '\n' := h.resolve_left (by simp)
    by_cases hc : c = '\n'
    · have habove := (feeds_of_cons hlast).imp_left And.left
      rw [List.cons_append, lines, if_pos hc, hc, List.count_cons_self, Nat.add_right_comm,
        List.getElem?_cons_succ]
      exact ih habove
    · -- the rest of this line is still to come, and with it a line feed
      have habove := (feeds_of_cons hlast).resolve_left fun h => hc h.2
      have hpos : 0 < above.count '\n' := List.count_pos_iff.mpr (List.mem_of_getLast? habove)
      rw [List.cons_append, lines, if_neg hc, List.count_cons_of_ne hc, List.getElem?_modifyHead,
        if_neg (by omega)]
      exact ih (.inr habove)

theorem head?_lines_append : ∀ {indent : List Char} (cs : List Char), '\n' ∉ indent →
    (lines (indent ++ cs)).head? = (lines cs).head?.map (indent ++ ·)
  | [], cs, _ => by simp
  | c :: indent, cs, h => by
    have hc : c ≠ '\n' := fun e => h (by simp [e])
    have ih := head?_lines_append cs fun hmem => h (List.mem_cons_of_mem c hmem)
    rw [List.cons_append, lines, if_neg hc, List.head?_modifyHead, ih, Option.map_map]
    rfl

end Text

namespace Cursor

theorem prefix_dropEnd (c : Char) (cs : List Char) : Text.dropEnd c cs <+: cs := by
  unfold Text.dropEnd
  split
  · exact List.dropLast_prefix cs
  · exact List.prefix_rfl

/-- In front of the position there is at most one word on its line, and blanks in front of that. -/
def BeginsLine (source : String) (p : Position) : Prop :=
  ∃ text indent word, (Text.lines source.toList)[p.line]? = some text ∧
    text.take p.column = indent ++ word ∧ (∀ c ∈ indent, c = ' ' ∨ c = '\t') ∧
    ∀ c ∈ word, c ≠ ' ' ∧ c ≠ '\t'

theorem typedText_subset {text indent word : List Char} {column : Nat}
    (htake : text.take column = indent ++ word) (hi : ∀ c ∈ indent, c = ' ' ∨ c = '\t') :
    typedText text column ⊆ word := by
  unfold typedText
  have hpre : (Text.dropEnd '\r' text).take column <+: indent ++ word := by
    rw [← htake, List.prefix_take_iff]
    exact ⟨(List.take_prefix column _).trans (prefix_dropEnd '\r' text), List.length_take_le _ _⟩
  have hblank : ∀ {us : List Char}, us <+: indent → ∀ c ∈ us, isBlank c := by
    intro us hus c hc
    simpa [isBlank] using hi c (hus.subset hc)
  rcases List.prefix_or_prefix_of_prefix hpre (List.prefix_append indent word) with hin | hin
  · have hnil : ((Text.dropEnd '\r' text).take column).dropWhile isBlank = [] := by
      rw [← List.append_nil (List.take ..), List.dropWhile_append_of_pos (hblank hin),
        List.dropWhile_nil]
    rw [hnil]
    exact List.nil_subset _
  · obtain ⟨us, hus⟩ := hin
    rw [← hus] at hpre ⊢
    rw [List.dropWhile_append_of_pos (hblank List.prefix_rfl)]
    have hword : us <+: word := (List.prefix_append_right_inj indent).mp hpre
    exact List.Subset.trans (List.dropWhile_sublist _).subset hword.subset

theorem contextAt_of_beginsLine (doc : Document) {source : String} {p : Position}
    (h : BeginsLine source p) : doc.contextAt source p = onLine doc p.line := by
  obtain ⟨text, indent, word, hline, htake, hi, hw⟩ := h
  have hnone : (typedText text p.column).any isBlank = false := by
    rw [List.any_eq_false]
    intro c hc
    simpa [isBlank] using hw c (typedText_subset htake hi hc)
  simp [Document.contextAt, hline, hnone]

end Cursor

theorem contextAt_leads (d : Document) {source : String} {t : Token} (h : Leads source t) :
    d.contextAt source t.start = Cursor.onLine d t.line := by
  obtain ⟨above, indent, below, hsource, ha, hi, hstart⟩ := h
  rw [Position.behind_indent ha hi] at hstart
  have hfeed : '\n' ∉ indent := fun hmem => by rcases hi _ hmem with h | h <;> cases h
  obtain ⟨line, more, hline⟩ := List.exists_cons_of_ne_nil (Text.lines_ne_nil (t.text.toList ++ below))
  have hget : (Text.lines source.toList)[t.start.line]? = some (indent ++ line) := by
    rw [hstart, hsource]
    refine (Text.getElem?_lines_append_right _ 0 ha).trans ?_
    rw [← List.head?_eq_getElem?, Text.head?_lines_append _ hfeed, hline]
    rfl
  refine Cursor.contextAt_of_beginsLine d ⟨indent ++ line, indent, [], hget, ?_, hi, by simp⟩
  simp [hstart]

end Caddyfile
