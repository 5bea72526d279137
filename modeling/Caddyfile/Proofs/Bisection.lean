import Mathlib.Data.List.Chain
import Caddyfile.Sorted
import Caddyfile.Vocabulary

/-!
# Bisection finds what is there

In an ascending table a bisection for the entries below a name stops at the name itself, if the
table has it (`contains_iff_mem`). The tables that directives are judged by are ascending.
-/

namespace Caddyfile

namespace Sorted

/-! ## Bisection -/

section
variable {α : Type} {p : α → Bool} {xs : Array α}
  (hp : ∀ (i j : Nat) (x y : α), i ≤ j → xs[i]? = some x → xs[j]? = some y → p y → p x)
include hp

/-- Everything below the result satisfies `p`, and nothing from it on does. -/
theorem countFrom_spec (lo hi : Nat) (hle : lo ≤ hi) (hsize : hi ≤ xs.size)
    (hlo : ∀ (i : Nat) (x : α), i < lo → xs[i]? = some x → p x)
    (hhi : ∀ (i : Nat) (x : α), hi ≤ i → xs[i]? = some x → ¬ p x) :
    (∀ (i : Nat) (x : α), i < countFrom p xs lo hi → xs[i]? = some x → p x) ∧
      ∀ (i : Nat) (x : α), countFrom p xs lo hi ≤ i → xs[i]? = some x → ¬ p x := by
  fun_induction countFrom p xs lo hi with
  | case1 lo hi hlt mid y hy hpy ih =>
    refine ih (by omega) hsize (fun i x hi hx => ?_) hhi
    exact hp i mid x y (by omega) hx hy hpy
  | case2 lo hi hlt mid y hy hpy ih =>
    refine ih (by omega) (by omega) hlo fun i x hi hx hpx => ?_
    exact hpy (hp mid i y x hi hy hx hpx)
  | case3 lo hi hlt mid hnone =>
    have := Array.getElem?_eq_none_iff.mp hnone
    omega
  | case4 lo hi hlt => exact ⟨hlo, fun i x hi => hhi i x (by omega)⟩

theorem count_spec :
    (∀ (i : Nat) (x : α), i < count p xs → xs[i]? = some x → p x) ∧
      ∀ (i : Nat) (x : α), count p xs ≤ i → xs[i]? = some x → ¬ p x := by
  refine countFrom_spec hp 0 xs.size (Nat.zero_le _) (Nat.le_refl _) (by omega) fun i x hi hx => ?_
  simp [Array.getElem?_eq_none hi] at hx

theorem count_eq {i : Nat} {x : α} (hx : xs[i]? = some x) (hnot : ¬ p x)
    (hbelow : ∀ (j : Nat) (y : α), j < i → xs[j]? = some y → p y) : count p xs = i := by
  obtain ⟨hlt, hge⟩ := count_spec hp
  have hi : i < xs.size := by
    rcases Nat.lt_or_ge i xs.size with h | h; exact h
    simp [Array.getElem?_eq_none h] at hx
  rcases Nat.lt_trichotomy (count p xs) i with h | h | h
  · have hy := Array.getElem?_eq_getElem (Nat.lt_trans h hi)
    exact absurd (hbelow _ _ h hy) (hge _ _ (Nat.le_refl _) hy)
  · exact h
  · exact absurd (hlt i x h hx) hnot

end

/-! ## Ascending keys -/

section
variable {κ α : Type} [LT κ] [DecidableLT κ] (hirrefl : ∀ k : κ, ¬ k < k)
  (htrans : ∀ {a b c : κ}, a < b → b < c → a < c)
include hirrefl htrans

/-- Where the keys ascend, those below the key of an entry are those in front of it. -/
theorem count_key_eq (key : α → κ) {xs : Array α}
    (h : xs.toList.Pairwise fun x y => key x < key y) {i : Nat} {x : α} (hx : xs[i]? = some x) :
    count (fun y => decide (key y < key x)) xs = i := by
  have hlt : ∀ (i j : Nat) (y z : α), i < j → xs[i]? = some y → xs[j]? = some z →
      key y < key z := by
    intro i j y z hij hy hz
    obtain ⟨hi, rfl⟩ := Array.getElem?_eq_some_iff.mp hy
    obtain ⟨hj, rfl⟩ := Array.getElem?_eq_some_iff.mp hz
    exact List.pairwise_iff_getElem.mp h i j hi hj hij
  refine count_eq (fun i j y z hij hy hz hzx => ?_) hx ?_ fun j y hj hy => ?_
  · rcases Nat.lt_or_eq_of_le hij with hij | rfl
    · exact decide_eq_true (htrans (hlt i j y z hij hy hz) (of_decide_eq_true hzx))
    · obtain rfl := Option.some.inj (hy.symm.trans hz)
      exact hzx
  · exact fun hxx => hirrefl _ (of_decide_eq_true hxx)
  · exact decide_eq_true (hlt j i y x hj hy hx)

end

/-! ## Ascending tables -/

theorem contains_iff_mem {names : Array String} (h : names.toList.Pairwise (· < ·))
    (name : String) : contains names name ↔ name ∈ names := by
  rw [contains, decide_eq_true_eq]
  constructor
  · exact fun hc => Array.mem_of_getElem? hc
  · intro hmem
    obtain ⟨i, hi, hname⟩ := Array.getElem_of_mem hmem
    have hx : names[i]? = some name := by rw [Array.getElem?_eq_getElem hi, hname]
    have hcount : count (fun n => decide (n < name)) names = i :=
      count_key_eq String.lt_irrefl String.lt_trans id h hx
    rw [hcount, hx]

theorem mem_of_lookup {κ α : Type} [LT κ] [DecidableLT κ] [DecidableEq κ] {table : Array (κ × α)}
    {key : κ} {value : α} (h : lookup table key = some value) : (key, value) ∈ table := by
  unfold lookup at h
  obtain ⟨entry, hget, hentry⟩ := Option.bind_eq_some_iff.mp h
  split at hentry
  · rename_i hkey
    obtain rfl : entry.2 = value := by simpa using hentry
    subst hkey
    exact Array.mem_of_getElem? hget
  · cases hentry

end Sorted

namespace Vocabulary

/-! ## The tables of names -/

theorem ascending_siteDirectives : siteDirectives.toList.Pairwise (· < ·) :=
  List.isChain_iff_pairwise.mp (by decide +kernel)

def Body.isAscending : Body → Bool
  | names allowed => allowed.toList.IsChain (· < ·)
  | unmodeled | freeform => true

theorem ascending_of_mem_bodies {name : String} {allowed : Array String}
    (h : (name, .names allowed) ∈ bodies) : allowed.toList.Pairwise (· < ·) := by
  have hall : bodies.all (·.2.isAscending) := by decide +kernel
  have hasc := Array.all_eq_true_iff_forall_mem.mp hall _ h
  exact List.isChain_iff_pairwise.mp (of_decide_eq_true hasc)

theorem ascending_of_bodyOf {name : String} {allowed : Array String}
    (h : bodyOf name = .names allowed) : allowed.toList.Pairwise (· < ·) := by
  unfold bodyOf at h
  cases hl : Sorted.lookup bodies name with
  | none => simp [hl] at h
  | some body =>
    obtain rfl : body = .names allowed := by simpa [hl] using h
    exact ascending_of_mem_bodies (Sorted.mem_of_lookup hl)

theorem ascending_of_mem_nestedBodies {head : Head} {nested : Array String}
    (h : (head, nested) ∈ nestedBodies) : nested.toList.Pairwise (· < ·) := by
  have hall : nestedBodies.all fun entry => entry.2.toList.IsChain (· < ·) := by decide +kernel
  have hasc := Array.all_eq_true_iff_forall_mem.mp hall _ h
  exact List.isChain_iff_pairwise.mp (of_decide_eq_true hasc)

theorem ascending_of_nestedNames {name arg : String} {nested : Array String}
    (h : nestedNames? name arg = some nested) : nested.toList.Pairwise (· < ·) := by
  unfold nestedNames? at h
  exact ascending_of_mem_nestedBodies (Sorted.mem_of_lookup h)

end Vocabulary

end Caddyfile
