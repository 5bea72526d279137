import Mathlib.Tactic.SplitIfs

/-!
# The order of texts by their bytes

Texts are compared character by character. Their bytes in UTF-8 come in the same order
(`lt_iff_bytesLt`): a longer encoding starts with a greater byte, and those of one length write the
digits of a character from the highest on.
-/

namespace Caddyfile

namespace Text

def bytes (s : String) : List UInt8 :=
  s.toUTF8.data.toList

/-- The bytes of `a` come before those of `b`. -/
def BytesLt (a b : String) : Prop :=
  bytes a < bytes b

theorem bytes_eq (s : String) : bytes s = s.toList.flatMap String.utf8EncodeChar := by
  rw [bytes, String.toUTF8_eq_toByteArray, ← String.utf8Encode_toList, List.utf8Encode,
    List.data_toByteArray]

/-! ## One character -/

theorem byte_cons_lt {m n : Nat} {xs ys : List UInt8} (hn : n < UInt8.size) (hle : m ≤ n)
    (h : m = n → xs < ys) : UInt8.ofNat m :: xs < UInt8.ofNat n :: ys := by
  rw [List.cons_lt_cons_iff]
  rcases Nat.lt_or_eq_of_le hle with hlt | rfl
  · exact .inl ((UInt8.ofNat_lt_iff_lt (Nat.lt_trans hlt hn) hn).mpr hlt)
  · exact .inr ⟨rfl, h rfl⟩

/-- Whatever follows them, a smaller character has the smaller bytes: no encoding starts another. -/
theorem encode_append_lt {c d : Char} (h : c < d) (xs ys : List UInt8) :
    String.utf8EncodeChar c ++ xs < String.utf8EncodeChar d ++ ys := by
  have hlt : c.val.toNat < d.val.toNat := h
  have hmax : d.val.toNat < 0x110000 := by
    have hvalid := d.valid
    simp only [UInt32.isValidChar, Nat.isValidChar] at hvalid
    omega
  simp only [String.utf8EncodeChar]
  split_ifs
  all_goals
    simp only [List.cons_append, List.nil_append]
    -- byte by byte, as long as the bytes are the same; they are not all the same
    repeat refine byte_cons_lt (by simp only [UInt8.size]; omega) (by omega) fun _ => ?_
    omega

/-! ## Texts -/

theorem encode_lt {cs ds : List Char} (h : cs < ds) :
    cs.flatMap String.utf8EncodeChar < ds.flatMap String.utf8EncodeChar := by
  induction h with
  | @nil d ds =>
    rw [List.flatMap_nil, List.flatMap_cons]
    obtain ⟨x, xs, hx⟩ := List.exists_cons_of_ne_nil (String.utf8EncodeChar_ne_nil (c := d))
    rw [hx]
    exact List.Lex.nil
  | cons _ ih =>
    rw [List.flatMap_cons, List.flatMap_cons]
    exact List.append_left_lt ih
  | rel hlt =>
    rw [List.flatMap_cons, List.flatMap_cons]
    exact encode_append_lt hlt _ _

theorem bytesLt_of_lt {a b : String} (h : a < b) : BytesLt a b := by
  rw [BytesLt, bytes_eq, bytes_eq]
  exact encode_lt (String.lt_iff.mp h)

theorem lt_iff_bytesLt (a b : String) : a < b ↔ BytesLt a b := by
  refine ⟨bytesLt_of_lt, fun h => ?_⟩
  by_cases heq : a = b
  · subst heq
    exact absurd h (List.lt_irrefl _)
  by_cases hlt : a < b
  · exact hlt
  have hgt : b < a := Std.lt_of_le_of_ne hlt (Ne.symm heq)
  exact absurd h (List.lt_asymm (bytesLt_of_lt hgt))

end Text

end Caddyfile
