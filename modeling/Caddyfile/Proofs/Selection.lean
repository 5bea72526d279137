import Caddyfile.Proofs.Offsets
import Caddyfile.Proofs.Shapes

/-!
# The offsets of a token

A place passes over carriage returns, an offset counts them, so a span in the midst of a line end
may select too little. Tokens are safe from that where every carriage return stands in front of a
line feed: none starts with a line feed, and one that ends with a carriage return is a string left
open at the end of the text. The offsets of such a token select its text (`offsets_select`).
-/

namespace Caddyfile

namespace Token

theorem closes_getLast? {quote : Char} {cs : List Char} (h : closes quote cs) :
    cs.getLast? = some quote := by
  fun_induction closes quote cs with
  | case1 => cases h
  | case2 c =>
    have hc : c = quote := by simpa using h
    simp [hc]
  | case3 c d cs _ ih =>
    rw [List.getLast?_cons, List.getLast?_cons, ih h]
    rfl
  | case4 c d cs _ ih =>
    have hcs : closes quote (d :: cs) := (Bool.and_eq_true_iff.mp h).2
    rw [List.getLast?_cons, ih hcs]
    rfl

/-- Only a string that is never closed ends with a carriage return. -/
theorem Shaped.eq_nil_of_return {kind : Kind} {text rest : List Char} (h : Shaped kind text rest)
    (hend : text.getLast? = some '\r') : rest = [] := by
  cases h with
  | bare ht _ =>
    have hspace := not_isSpace_of_isBareText ht '\r' (List.mem_of_getLast? hend)
    exact absurd hspace (by decide)
  | opening _ | closing => cases hend
  | quoted hq hb =>
    rw [List.getLast?_cons, closes_getLast? hb] at hend
    rcases hq with rfl | rfl <;> cases hend
  | unterminated _ _ => rfl

end Token

/-! ## From a place to offsets -/

section
variable {source : String} (hpaired : Text.returnsPaired source.toList) {t : Token}
  {past rest : List Char} (hs : source.toList = past ++ (t.text.toList ++ rest))
  (hstart : t.start = .behind past)
include hpaired hs hstart

theorem offset_start (hfeed : (t.text.toList ++ rest).head? ≠ some '\n') :
    t.start.offset source = past.length := by
  rw [hstart]
  exact Position.offset_behind hs hpaired fun _ => hfeed

theorem offset_stop (hfeed : (t.text.toList ++ rest).head? ≠ some '\n')
    (hend : t.text.toList.getLast? = some '\r' → rest = []) :
    t.stop.offset source = past.length + t.text.length := by
  have hstop : t.stop = .behind (past ++ t.text.toList) := by
    rw [Token.stop, hstart, Position.behind_append]
  rw [hstop, ← String.length_toList, ← List.length_append]
  apply Position.offset_behind (by rw [hs, List.append_assoc]) hpaired
  intro hlast
  by_cases htext : t.text.toList = []
  · simpa [htext] using hfeed
  · have hlast : t.text.toList.getLast? = some '\r' := by
      rwa [List.getLast?_append_of_ne_nil _ htext] at hlast
    simp [hend hlast]

theorem span_offsets (hfeed : (t.text.toList ++ rest).head? ≠ some '\n')
    (hend : t.text.toList.getLast? = some '\r' → rest = []) :
    t.span.offsets source = (past.length, past.length + t.text.length) ∧
      source.toList.extract past.length (past.length + t.text.length) = t.text.toList := by
  have hoffsets : t.span.offsets source =
      (t.start.offset source, max (t.stop.offset source) (t.start.offset source)) := rfl
  constructor
  · rw [hoffsets, offset_start hpaired hs hstart hfeed, offset_stop hpaired hs hstart hfeed hend,
      Nat.max_eq_left (Nat.le_add_right _ _)]
  · rw [hs, List.extract_eq_take_drop, List.drop_left, Nat.add_sub_cancel_left,
      ← String.length_toList, List.take_left]

end

/-! ## Tokens where they lie -/

theorem Layout.of_finish {past cs : List Char} {ps l r : List Laid} {p : Laid}
    (h : Layout past ps cs) (hps : ps = l ++ p :: r) (hk : p.token.kind = .finish) :
    p.token.text = "" ∧ r = [] := by
  induction h generalizing l with
  | finish _ ht _ =>
    cases l with
    | nil =>
      obtain ⟨rfl, rfl⟩ := List.cons.inj hps
      exact ⟨ht, rfl⟩
    | cons q l => simp at hps
  | token hne _ _ ih =>
    cases l with
    | nil =>
      obtain ⟨rfl, _⟩ := List.cons.inj hps
      exact absurd hk hne
    | cons q l => exact ih (List.cons.inj hps).2

/-- A token stands in front of the same text by its shape and by its layout, for there is only one
place in the text to which its position leads. -/
theorem shaped_of_layout {source : String} (hpaired : Text.returnsPaired source.toList) {t : Token}
    (ht : t ∈ tokens source) (hk : t.kind ≠ .finish) {past rest : List Char}
    (hs : source.toList = past ++ (t.text.toList ++ rest)) (hstart : t.start = .behind past) :
    Token.Shaped t.kind t.text.toList rest := by
  obtain ⟨before, behind, hs', hstart', hshaped⟩ := Scanner.shaped_of_mem [] ht hk
  obtain ⟨c, text, htext, hc⟩ := hshaped.exists_cons
  have hfeed : ∀ us, (t.text.toList ++ us).head? ≠ some '\n' := by
    intro us
    rw [htext]
    rintro ⟨rfl⟩
    exact hc (by decide)
  have hlength : past.length = before.length := by
    rw [← offset_start hpaired hs hstart (hfeed rest),
      ← offset_start hpaired hs' hstart' (hfeed behind)]
  have hsame : past ++ (t.text.toList ++ rest) = before ++ (t.text.toList ++ behind) := by
    rw [← hs]
    exact hs'
  obtain ⟨_, htail⟩ := List.append_inj hsame hlength
  rw [List.append_cancel_left htail]
  exact hshaped

/-- Where every carriage return stands in front of a line feed, the offsets of a token are the
number of characters before it and the number of characters up to its end, and the characters in
between are its text. This holds of the end token too. -/
theorem offsets_select {source : String} (h : Text.returnsPaired source.toList) :
    ∃ ps : List Laid, ps.map Laid.token = tokens source ∧ Laid.spell ps = source.toList ∧
      ∀ l p r, ps = l ++ p :: r →
        Trivia (p.token.text.toList ++ Laid.spell r) p.gap ∧
        ∃ start stop, p.token.span.offsets source = (start, stop) ∧
          start = (Laid.spell l ++ p.gap).length ∧ stop = start + p.token.text.length ∧
          source.toList.extract start stop = p.token.text.toList := by
  obtain ⟨ps, hps, hlay⟩ := exists_layout source
  refine ⟨ps, hps, hlay.spell_eq, ?_⟩
  intro l p r hsplit
  have hexact : p.Exact (Laid.spell l) (Laid.spell r) := hlay.exact hsplit
  have hs : source.toList =
      (Laid.spell l ++ p.gap) ++ (p.token.text.toList ++ Laid.spell r) := by
    rw [← hlay.spell_eq, hsplit]
    simp [Laid.spell, Laid.chars]
  have hends : (p.token.text.toList ++ Laid.spell r).head? ≠ some '\n' ∧
      (p.token.text.toList.getLast? = some '\r' → Laid.spell r = []) := by
    by_cases hk : p.token.kind = .finish
    · obtain ⟨htext, rfl⟩ := hlay.of_finish hsplit hk
      simp [htext, Laid.spell]
    · have hmem : p.token ∈ tokens source := by
        rw [← hps, hsplit]
        simp
      have hshaped := shaped_of_layout h hmem hk hs hexact.start_eq
      obtain ⟨c, hc, hspace⟩ := hexact.visible hk
      refine ⟨?_, hshaped.eq_nil_of_return⟩
      rw [List.head?_append, hc]
      rintro ⟨rfl⟩
      cases hspace
  obtain ⟨hoffsets, htext⟩ := span_offsets h hs hexact.start_eq hends.1 hends.2
  exact ⟨hexact.trivia, _, _, hoffsets, rfl, rfl, htext⟩

theorem offsets_select_string :
    let source := "é \"x\r\ny\" \x7b # c\r\n\x60z\n"
    Text.returnsPaired source.toList ∧ ∃ t ∈ tokens source, t.text = "\"x\r\ny\"" ∧
      t.span = ⟨⟨0, 2⟩, ⟨1, 2⟩⟩ ∧ t.span.offsets source = (2, 8) ∧
      source.toList.extract 2 8 = t.text.toList := by
  intro source
  have h : Text.returnsPaired source.toList := by decide +kernel
  have hmem : (⟨.quoted, "\"x\r\ny\"", ⟨0, 2⟩⟩ : Token) ∈ tokens source := by decide +kernel
  obtain ⟨ps, hps, _, hselect⟩ := offsets_select h
  obtain ⟨p, hp, hp'⟩ := List.mem_map.mp (hps ▸ hmem)
  obtain ⟨l, r, hsplit⟩ := List.append_of_mem hp
  obtain ⟨_, start, stop, hoffsets, _, _, htext⟩ := hselect l p r hsplit
  rw [hp'] at hoffsets htext
  have hplace : (⟨.quoted, "\"x\r\ny\"", ⟨0, 2⟩⟩ : Token).span.offsets source = (2, 8) := by
    decide +kernel
  obtain ⟨rfl, rfl⟩ := Prod.mk.inj (hplace.symm.trans hoffsets)
  exact ⟨h, _, hmem, rfl, by decide +kernel, hplace, htext⟩

end Caddyfile
