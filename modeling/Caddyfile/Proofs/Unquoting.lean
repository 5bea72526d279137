import Caddyfile.Proofs.Selection

/-!
# Strings without their quotes

A scan finds the end of a string by its escapes, while the value of a string is made by looking at
its last character only. The two agree on every string that is closed. On a string left open they
disagree just where it ends with an escaped quote, which is then taken for the closing one
(`value_by_ending`).
-/

namespace Caddyfile

namespace Token

theorem unquote_of_closes {quote : Char} {body : List Char} (h : closes quote body) :
    unquote (quote :: body) = body.dropLast := by
  rw [unquote, if_pos (closes_getLast? h)]

/-- A quote at the end of a string left open is an escaped one. -/
theorem escaped_of_getLast? {quote : Char} {body : List Char}
    (h : ∀ inner, inner <+: body → ¬ closes quote inner) (hlast : body.getLast? = some quote) :
    quote = '"' ∧ ['\\', '"'] <:+ body := by
  fun_induction closes quote body with
  | case1 => cases hlast
  | case2 c =>
    have hc : c = quote := by simpa using hlast
    exact absurd (by simp [closes, hc]) (h [c] List.prefix_rfl)
  | case3 c d cs hesc ih =>
    simp only [Bool.and_eq_true, decide_eq_true_eq] at hesc
    obtain ⟨rfl, rfl⟩ := hesc
    by_cases hcs : cs = []
    · obtain rfl : d = '"' := by simpa [hcs] using hlast
      exact ⟨rfl, by simp [hcs]⟩
    · have hlast : cs.getLast? = some '"' := by
        rw [List.getLast?_eq_some_getLast hcs]
        simpa [List.getLast?_cons, List.getLast?_eq_some_getLast hcs] using hlast
      obtain ⟨_, hsuffix⟩ := ih (not_closes_of_escape h) hlast
      exact ⟨rfl, hsuffix.trans (List.suffix_append ['\\', d] cs)⟩
  | case4 c d cs hesc ih =>
    obtain ⟨_, htail⟩ := not_closes_of_cons hesc h
    obtain ⟨hquote, hsuffix⟩ := ih htail (by simpa using hlast)
    exact ⟨hquote, hsuffix.trans (List.suffix_cons c _)⟩

theorem unquote_of_not_closes {quote : Char} {body : List Char}
    (h : ∀ inner, inner <+: body → ¬ closes quote inner) : unquote (quote :: body) =
      if quote = '"' ∧ ['\\', '"'] <:+ body then body.dropLast else body := by
  rw [unquote]
  by_cases hend : quote = '"' ∧ ['\\', '"'] <:+ body
  · obtain ⟨rfl, front, rfl⟩ := hend
    simp
  · rw [if_neg hend, if_neg fun hlast => hend (escaped_of_getLast? h hlast)]

theorem value_of_quoted {t : Token} (h : t.kind = .quoted) :
    t.value.toList = unquote t.text.toList := by
  simp [value, h]

end Token

/-- A string that is closed stands for what is between its quotes. A string left open runs to the
end of the text and stands for all behind its opening quote, but if the last two characters are a
backslash and the double quote it escapes, that quote is lost. -/
theorem value_by_ending {source : String} {t : Token} (ht : t ∈ tokens source)
    (hk : t.kind = .quoted) : ∃ before q body rest,
      source.toList = before ++ (q :: body ++ rest) ∧ t.start = .behind before ∧
      t.text.toList = q :: body ∧ (q = '"' ∨ q = '\x60') ∧
      (closes q body ∧ t.value.toList = body.dropLast ∨
        rest = [] ∧ (∀ inner, inner <+: body → ¬ closes q inner) ∧
          t.value.toList = if q = '"' ∧ ['\\', '"'] <:+ body then body.dropLast else body) := by
  obtain ⟨before, rest, hs, hstart, hshaped⟩ := Scanner.shaped_of_mem [] ht (by simp [hk])
  rw [List.nil_append] at hs
  rw [Token.value_of_quoted hk]
  generalize t.text.toList = text at hs hshaped
  rw [hk] at hshaped
  cases hshaped with
  | @quoted q body _ hq hb =>
    exact ⟨before, q, body, rest, hs, hstart, rfl, hq, .inl ⟨hb, Token.unquote_of_closes hb⟩⟩
  | @unterminated q body hq hb =>
    exact ⟨before, q, body, [], hs, hstart, rfl, hq,
      .inr ⟨rfl, hb, Token.unquote_of_not_closes hb⟩⟩

/-- The last quote closes the string, for the backslash in front of it is itself escaped. -/
theorem value_by_ending_backslash :
    (⟨.quoted, "\"\\\\\"", ⟨0, 2⟩⟩ : Token) ∈ tokens "a \"\\\\\"" ∧
      (⟨.quoted, "\"\\\\\"", ⟨0, 2⟩⟩ : Token).value.toList = ['\\', '\\'] := by
  have hmem : (⟨.quoted, "\"\\\\\"", ⟨0, 2⟩⟩ : Token) ∈ tokens "a \"\\\\\"" := by decide +kernel
  obtain ⟨_, q, body, _, _, _, htext, _, hvalue⟩ := value_by_ending hmem rfl
  obtain ⟨rfl, rfl⟩ : '"' = q ∧ ['\\', '\\', '"'] = body := by simpa using htext
  refine ⟨hmem, ?_⟩
  rcases hvalue with ⟨_, hvalue⟩ | ⟨_, hopen, _⟩
  · exact hvalue
  · exact absurd (by decide) (hopen _ List.prefix_rfl)

/-- A string left open does not always keep all that follows its opening quote. -/
theorem open_string_loses_quote : ¬ ∀ (source : String) (t : Token) (q : Char) (body : List Char),
    t ∈ tokens source → t.kind = .quoted → t.text.toList = q :: body →
      (∀ inner, inner <+: body → ¬ closes q inner) → t.value.toList = body := by
  intro h
  have hmem : (⟨.quoted, "\"a\\\"", ⟨0, 0⟩⟩ : Token) ∈ tokens "\"a\\\"" := by decide +kernel
  have hopen : ∀ inner, inner <+: ['a', '\\', '"'] → ¬ closes '"' inner := by
    simp only [List.prefix_cons_iff, List.prefix_nil]
    rintro _ (rfl | ⟨_, rfl, rfl | ⟨_, rfl, rfl | ⟨_, rfl, rfl⟩⟩⟩) <;> decide
  have hvalue := h "\"a\\\"" _ '"' ['a', '\\', '"'] hmem rfl (by decide) hopen
  revert hvalue
  decide

end Caddyfile
