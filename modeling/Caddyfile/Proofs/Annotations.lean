import Mathlib.Data.List.TakeWhile
import Caddyfile.Caret

/-!
# Annotations and the lines they speak of

Leaving out annotations works on lines with their line ends, and reading them on lines without.
Both see the same lines as annotations, so the line number that an expectation carries is the number
of a line of the stripped text: of the nearest one above the annotation (`annotation_targets`).
-/

namespace Caddyfile

namespace Text

/-- The lines of a text without their line ends. -/
def rows (cs : List Char) : List (List Char) :=
  (pieces cs).map dropLineEnd

/-! ## Cutting a text again -/

/-- Lines that end with their only line feed, but for the last one, which may have none. -/
inductive Pieced : List (List Char) → Prop where
  | nil : Pieced []
  | last {row : List Char} (hne : row ≠ []) (hfeed : '\n' ∉ row) : Pieced [row]
  | cons {row : List Char} {rest : List (List Char)} (hfeed : '\n' ∉ row) (hrest : Pieced rest) :
    Pieced ((row ++ ['\n']) :: rest)

theorem pieced_pieces (cs : List Char) : Pieced (pieces cs) := by
  induction cs with
  | nil => exact .nil
  | cons c cs ih =>
    unfold pieces
    by_cases hc : c = '\n'
    · rw [if_pos hc, hc]
      exact @Pieced.cons [] _ (by simp) ih
    · rw [if_neg hc]
      cases hcs : pieces cs with
      | nil => exact .last (by simp) (by simpa using Ne.symm hc)
      | cons piece rest =>
        rw [hcs] at ih
        cases ih with
        | last hne hfeed => exact .last (by simp) (by simp [hfeed, Ne.symm hc])
        | @cons row _ hfeed hrest =>
          exact @Pieced.cons (c :: row) _ (by simp [hfeed, Ne.symm hc]) hrest

theorem pieces_line {row : List Char} (hne : row ≠ []) (hfeed : '\n' ∉ row) :
    pieces row = [row] := by
  induction row with
  | nil => exact absurd rfl hne
  | cons c row ih =>
    have hc : c ≠ '\n' := fun e => hfeed (by simp [e])
    unfold pieces
    rw [if_neg hc]
    cases row with
    | nil => rfl
    | cons d row => rw [ih (by simp) fun h => hfeed (List.mem_cons_of_mem c h)]

theorem pieces_append {row : List Char} (cs : List Char) (hfeed : '\n' ∉ row) :
    pieces (row ++ '\n' :: cs) = (row ++ ['\n']) :: pieces cs := by
  induction row with
  | nil => simp [pieces]
  | cons c row ih =>
    have hc : c ≠ '\n' := fun e => hfeed (by simp [e])
    rw [List.cons_append, pieces, if_neg hc, ih fun h => hfeed (List.mem_cons_of_mem c h)]
    rfl

theorem Pieced.pieces_flatten {ps : List (List Char)} (h : Pieced ps) : pieces ps.flatten = ps := by
  induction h with
  | nil => rfl
  | last hne hfeed => simp [pieces_line hne hfeed]
  | @cons row rest hfeed _ ih =>
    have happend : ((row ++ ['\n']) :: rest).flatten = row ++ '\n' :: rest.flatten := by simp
    rw [happend, pieces_append _ hfeed, ih]

theorem Pieced.filter {ps : List (List Char)} (h : Pieced ps) (p : List Char → Bool) :
    Pieced (ps.filter p) := by
  induction h with
  | nil => exact .nil
  | @last row hne hfeed =>
    by_cases hp : p row
    · simpa [hp] using Pieced.last hne hfeed
    · simpa [hp] using Pieced.nil
  | @cons row rest hfeed _ ih =>
    by_cases hp : p (row ++ ['\n'])
    · simpa [hp] using Pieced.cons hfeed ih
    · simpa [hp] using ih

/-! ## Line ends -/

theorem exists_lineEnd (piece : List Char) : ∃ ending, piece = dropLineEnd piece ++ ending ∧
    ∀ c ∈ ending, CharClass.blank.contains c := by
  have hfeed : CharClass.blank.contains '\n' := by decide +kernel
  have hreturn : CharClass.blank.contains '\r' := by decide +kernel
  unfold dropLineEnd
  by_cases hlast : piece.getLast? = some '\n'
  · obtain ⟨row, rfl⟩ := List.getLast?_eq_some_iff.mp hlast
    rw [if_pos hlast, List.dropLast_concat]
    unfold dropEnd
    by_cases hrow : row.getLast? = some '\r'
    · obtain ⟨row, rfl⟩ := List.getLast?_eq_some_iff.mp hrow
      exact ⟨['\r', '\n'], by simp, by simp [hfeed, hreturn]⟩
    · exact ⟨['\n'], by simp [hrow], by simp [hfeed]⟩
  · exact ⟨[], by simp [hlast], by simp⟩

theorem head?_trimStart_append (cs : List Char) {ending : List Char}
    (h : ∀ c ∈ ending, CharClass.blank.contains c) :
    (trimStart (cs ++ ending)).head? = (trimStart cs).head? := by
  unfold trimStart
  rw [List.dropWhile_append]
  cases hcs : cs.dropWhile CharClass.blank.contains with
  | nil => simpa using List.dropWhile_eq_nil_iff.mpr h
  | cons c cs => rfl

end Text

namespace Caret

open Text (pieces rows)

variable {above : Nat} {note row : List Char} {lines front back : List (List Char)}
  {expected : List Expectation}

theorem isNote_dropLineEnd (piece : List Char) : isNote (Text.dropLineEnd piece) = isNote piece := by
  obtain ⟨ending, hpiece, hblank⟩ := Text.exists_lineEnd piece
  unfold isNote
  rw [hpiece, Text.head?_trimStart_append _ hblank, ← hpiece]

/-! ## The stripped text -/

theorem pieces_strip (annotated : String) :
    pieces (strip annotated).toList = (pieces annotated.toList).filter (!isNote ·) := by
  unfold strip
  rw [String.toList_ofList]
  exact ((Text.pieced_pieces _).filter _).pieces_flatten

theorem rows_strip (annotated : String) :
    rows (strip annotated).toList = (rows annotated.toList).filter (!isNote ·) := by
  unfold rows
  rw [pieces_strip, List.filter_map]
  congr 2
  funext piece
  simp [isNote_dropLineEnd]

theorem strip_strip (annotated : String) : strip (strip annotated) = strip annotated := by
  rw [strip, pieces_strip, List.filter_filter, strip]
  simp

/-! ## Reading annotations -/

theorem collect_note (h : isNote note) : collect above (note :: lines) = .ok expected ↔
    ∃ target later, above = target + 1 ∧ collect above lines = .ok later ∧
      expected = ofLine target note :: later := by
  cases above with
  | zero => simp [collect, h]
  | succ target =>
    rw [collect, if_pos h]
    cases hlines : collect (target + 1) lines with
    | error failure => simp [Except.map]
    | ok later =>
      simp only [Except.map, Except.ok.injEq, Nat.add_right_cancel_iff, exists_and_left,
        exists_eq_left']
      exact eq_comm

theorem collect_row (h : ¬ isNote row) :
    collect above (row :: lines) = collect (above + 1) lines := by
  cases above <;> rw [collect, if_neg h]

/-- Once there is a line to speak of, nothing can go wrong. -/
theorem exists_collect (target : Nat) (lines : List (List Char)) :
    ∃ expected, collect (target + 1) lines = .ok expected := by
  induction lines generalizing target with
  | nil => exact ⟨[], rfl⟩
  | cons line lines ih =>
    by_cases h : isNote line
    · obtain ⟨later, hlater⟩ := ih target
      exact ⟨_, (collect_note h).mpr ⟨target, later, rfl, hlater, rfl⟩⟩
    · rw [collect_row h]
      exact ih (target + 1)

theorem length_collect (h : collect above lines = .ok expected) :
    expected.length = lines.countP isNote := by
  induction lines generalizing above expected with
  | nil =>
    obtain rfl : [] = expected := by simpa [collect] using h
    rfl
  | cons line lines ih =>
    by_cases hline : isNote line
    · obtain ⟨_, later, _, hlater, rfl⟩ := (collect_note hline).mp h
      rw [List.length_cons, ih hlater, List.countP_cons_of_pos hline]
    · rw [collect_row hline] at h
      rw [ih h, List.countP_cons_of_neg hline]

/-- The expectation of a note comes behind those of the notes before it, and carries the number of
the last line counted so far. -/
theorem collect_getElem? (h : collect above (front ++ note :: back) = .ok expected)
    (hnote : isNote note) : ∃ target, above + front.countP (!isNote ·) = target + 1 ∧
      expected[front.countP isNote]? = some (ofLine target note) := by
  induction front generalizing above expected with
  | nil =>
    obtain ⟨target, _, habove, _, rfl⟩ := (collect_note hnote).mp h
    exact ⟨target, by simpa using habove, rfl⟩
  | cons line front ih =>
    rw [List.cons_append] at h
    by_cases hline : isNote line
    · obtain ⟨_, later, _, hlater, rfl⟩ := (collect_note hline).mp h
      obtain ⟨target, htarget, hget⟩ := ih hlater
      refine ⟨target, ?_, ?_⟩
      · rwa [List.countP_cons_of_neg (by simpa using hline)]
      · rwa [List.countP_cons_of_pos hline, List.getElem?_cons_succ]
    · rw [collect_row hline] at h
      obtain ⟨target, htarget, hget⟩ := ih h
      refine ⟨target, ?_, ?_⟩
      · rw [List.countP_cons_of_pos (by simpa using hline)]
        omega
      · rwa [List.countP_cons_of_neg hline]

/-- Some annotation has only annotations above it. -/
def Floats (lines : List (List Char)) : Prop :=
  ∃ before note rest, lines = before ++ note :: rest ∧ isNote note ∧ ∀ row ∈ before, isNote row

theorem floats_cons {line : List Char} : Floats (line :: lines) ↔ isNote line := by
  constructor
  · rintro ⟨before, note, rest, heq, hnote, hbefore⟩
    cases before with
    | nil =>
      obtain ⟨rfl, _⟩ := List.cons.inj heq
      exact hnote
    | cons first before =>
      obtain ⟨rfl, _⟩ := List.cons.inj heq
      exact hbefore line (by simp)
  · intro h
    exact ⟨[], line, lines, rfl, h, by simp⟩

theorem expectations_error_iff (annotated : String) :
    (∃ failure, expectations annotated = .error failure) ↔ Floats (rows annotated.toList) := by
  have hexp : expectations annotated = collect 0 (rows annotated.toList) := rfl
  rw [hexp]
  cases rows annotated.toList with
  | nil => simp [collect, Floats]
  | cons line lines =>
    rw [floats_cons]
    by_cases h : isNote line
    · simp [collect, h]
    · obtain ⟨expected, hok⟩ := exists_collect 0 lines
      simp [collect_row h, hok, h]

/-! ## The columns of an annotation -/

/-- The first run of carets on a line takes the columns from `start` up to `stop`. -/
def FirstRun (line : List Char) (start stop : Nat) : Prop :=
  ∃ before width after, line = before ++ (List.replicate width '^' ++ after) ∧ '^' ∉ before ∧
    0 < width ∧ after.head? ≠ some '^' ∧ start = before.length ∧ stop = start + width

theorem caret_mem (h : isNote note) : '^' ∈ note := by
  have hhead : (Text.trimStart note).head? = some '^' := by simpa [isNote] using h
  exact (List.dropWhile_sublist _).subset (List.mem_of_head? hhead)

theorem span_ofLine (target : Nat) (h : isNote note) : ∃ start stop,
    (ofLine target note).span = ⟨⟨target, start⟩, ⟨target, stop⟩⟩ ∧ FirstRun note start stop := by
  let before := note.takeWhile (· ≠ '^')
  let marked := note.dropWhile (· ≠ '^')
  let carets := marked.takeWhile (· = '^')
  refine ⟨before.length, before.length + carets.length, rfl, before, carets.length,
    marked.dropWhile (· = '^'), ?_, ?_, ?_, ?_, rfl, rfl⟩
  · have hcarets : carets = List.replicate carets.length '^' := by
      refine List.eq_replicate_iff.mpr ⟨rfl, fun c hc => ?_⟩
      simpa using List.all_eq_true.mp List.all_takeWhile c hc
    rw [← hcarets, List.takeWhile_append_dropWhile, List.takeWhile_append_dropWhile]
  · intro hmem
    have hne := List.all_eq_true.mp (List.all_takeWhile (p := (· ≠ '^'))) _ hmem
    simp at hne
  · -- the carets begin where what stands before them ends
    have hne : marked ≠ [] := by
      intro hnil
      have := List.dropWhile_eq_nil_iff.mp hnil '^' (caret_mem h)
      simp at this
    obtain ⟨c, cs, hcs⟩ := List.exists_cons_of_ne_nil hne
    have hc : c = '^' := by
      have := List.head?_dropWhile_not (· ≠ '^') note
      rw [show note.dropWhile (· ≠ '^') = c :: cs from hcs] at this
      simpa using this
    simp [carets, hcs, hc]
  · intro hhead
    have := List.head?_dropWhile_not (· = '^') marked
    rw [hhead] at this
    simp at this

/-! ## The line of an annotation -/

theorem exists_expectation {annotated : String} (h : expectations annotated = .ok expected)
    {notes rest : List (List Char)}
    (hrows : rows annotated.toList = front ++ row :: (notes ++ note :: rest)) (hrow : ¬ isNote row)
    (hnotes : ∀ other ∈ notes, isNote other) (hnote : isNote note) :
    expected[front.countP isNote + notes.length]? =
        some (ofLine (front.countP (!isNote ·)) note) ∧
      (rows (strip annotated).toList)[front.countP (!isNote ·)]? = some row := by
  have hall : notes.countP isNote = notes.length := List.countP_eq_length.mpr hnotes
  have hnone : notes.countP (!isNote ·) = 0 := by
    refine List.countP_eq_zero.mpr fun other hother => ?_
    simp [hnotes other hother]
  constructor
  · have hcollect : collect 0 ((front ++ row :: notes) ++ note :: rest) = .ok expected := by
      rw [← h, List.append_assoc, List.cons_append, ← hrows]
      rfl
    obtain ⟨target, htarget, hget⟩ := collect_getElem? hcollect hnote
    rw [List.countP_append, List.countP_cons_of_neg hrow, hall] at hget
    rw [List.countP_append, List.countP_cons_of_pos (by simpa using hrow), hnone] at htarget
    obtain rfl : front.countP (!isNote ·) = target := by omega
    exact hget
  · have hkeep : (row :: (notes ++ note :: rest)).filter (!isNote ·) =
        row :: (notes ++ note :: rest).filter (!isNote ·) :=
      List.filter_cons_of_pos (by simpa using hrow)
    rw [rows_strip, hrows, List.filter_append, hkeep, List.countP_eq_length_filter]
    simp

/-- Stripping leaves out the annotations and changes no other line, and there is nothing left to
strip after that. Reading the annotations fails just if one of them has no line above it. Otherwise
each annotation in turn yields an expectation for its first run of carets, on the line number that
the nearest line above it has in the stripped text. -/
theorem annotation_targets (annotated : String) :
    pieces (strip annotated).toList = (pieces annotated.toList).filter (!isNote ·) ∧
    rows (strip annotated).toList = (rows annotated.toList).filter (!isNote ·) ∧
    strip (strip annotated) = strip annotated ∧
    ((∃ failure, expectations annotated = .error failure) ↔ Floats (rows annotated.toList)) ∧
    ∀ expected, expectations annotated = .ok expected →
      expected.length = (rows annotated.toList).countP isNote ∧
      ∀ front row notes note rest,
        rows annotated.toList = front ++ row :: (notes ++ note :: rest) → ¬ isNote row →
        (∀ other ∈ notes, isNote other) → isNote note →
        ∃ e line start stop, expected[front.countP isNote + notes.length]? = some e ∧
          e.span = ⟨⟨line, start⟩, ⟨line, stop⟩⟩ ∧ line = front.countP (!isNote ·) ∧
          (rows (strip annotated).toList)[line]? = some row ∧ FirstRun note start stop := by
  refine ⟨pieces_strip annotated, rows_strip annotated, strip_strip annotated,
    expectations_error_iff annotated, ?_⟩
  intro expected hok
  refine ⟨length_collect hok, ?_⟩
  intro front row notes note rest hrows hrow hnotes hnote
  obtain ⟨hget, hline⟩ := exists_expectation hok hrows hrow hnotes hnote
  obtain ⟨start, stop, hspan, hrun⟩ := span_ofLine (front.countP (!isNote ·)) hnote
  exact ⟨_, _, start, stop, hget, hspan, rfl, hline, hrun⟩

/-- Two annotations below one line that ends with a carriage return and a line feed. The first is
indented by a blank outside of ASCII, the second ends the text. -/
theorem annotation_targets_returns :
    let annotated := "a\r\nfoo\r\n\u00a0^^ x\r\n ^ y"
    ∃ expected e start stop, expectations annotated = .ok expected ∧ expected.length = 2 ∧
      expected[1]? = some e ∧ e.span = ⟨⟨1, start⟩, ⟨1, stop⟩⟩ ∧
      (rows (strip annotated).toList)[1]? = some ['f', 'o', 'o'] ∧
      FirstRun [' ', '^', ' ', 'y'] start stop := by
  intro annotated
  let blank : List Char := ['\u00a0', '^', '^', ' ', 'x']
  have hrows : rows annotated.toList =
      [['a']] ++ ['f', 'o', 'o'] :: ([blank] ++ [' ', '^', ' ', 'y'] :: []) := by decide +kernel
  have hblank : isNote blank := by decide +kernel
  obtain ⟨expected, hok⟩ : ∃ expected, expectations annotated = .ok expected :=
    ⟨[⟨⟨⟨1, 1⟩, ⟨1, 3⟩⟩, "x"⟩, ⟨⟨⟨1, 1⟩, ⟨1, 2⟩⟩, "y"⟩], by decide +kernel⟩
  obtain ⟨_, _, _, _, htargets⟩ := annotation_targets annotated
  obtain ⟨hlength, hnotes⟩ := htargets expected hok
  have hcount : [['a']].countP isNote = 0 ∧ [['a']].countP (!isNote ·) = 1 := by decide +kernel
  obtain ⟨e, line, start, stop, hget, hspan, rfl, hline, hrun⟩ :=
    hnotes _ _ _ _ _ hrows (by decide +kernel) (by simp [hblank]) (by decide +kernel)
  rw [hcount.1] at hget
  rw [hcount.2] at hspan hline
  refine ⟨expected, e, start, stop, hok, ?_, hget, hspan, hline, hrun⟩
  rw [hlength, hrows]
  decide +kernel

end Caret

end Caddyfile
