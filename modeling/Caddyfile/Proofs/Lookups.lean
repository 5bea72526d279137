import Caddyfile.Manual
import Caddyfile.Proofs.ByteOrder
import Caddyfile.Proofs.Judgement

/-!
# Searching a table and scanning it

Every table has its keys in ascending order of their bytes, each once. So a search by bisection
answers as a scan of the table from the front does (`Scanned`). The snippets of a document are put
in order before they are searched, and a search finds those that some site declares.
-/

namespace Caddyfile

open Text (BytesLt bytesLt_of_lt lt_iff_bytesLt)

/-! ## Keys of two names -/

namespace Vocabulary.Head

/-- By the bytes of the subdirective, then by those of its argument. -/
def BytesLt (a b : Head) : Prop :=
  Text.BytesLt a.name b.name ∨ a.name = b.name ∧ Text.BytesLt a.arg b.arg

theorem lt_iff (a b : Head) : a < b ↔ a.name < b.name ∨ a.name = b.name ∧ a.arg < b.arg :=
  Iff.rfl

theorem lt_iff_bytesLt (a b : Head) : a < b ↔ a.BytesLt b := by
  rw [lt_iff, BytesLt, Text.lt_iff_bytesLt, Text.lt_iff_bytesLt]

theorem lt_irrefl (a : Head) : ¬ a < a := by
  intro h
  rcases (lt_iff a a).mp h with h | ⟨-, h⟩
  · exact String.lt_irrefl _ h
  · exact String.lt_irrefl _ h

theorem lt_trans {a b c : Head} (hab : a < b) (hbc : b < c) : a < c := by
  rw [lt_iff] at hab hbc ⊢
  rcases hab with hab | ⟨hname, hab⟩
  · rcases hbc with hbc | ⟨hname, -⟩
    · exact .inl (String.lt_trans hab hbc)
    · exact .inl (hname ▸ hab)
  · rw [hname]
    rcases hbc with hbc | ⟨hname', hbc⟩
    · exact .inl hbc
    · exact .inr ⟨hname', String.lt_trans hab hbc⟩

end Vocabulary.Head

/-! ## One table -/

/-- The keys ascend, and the search gives for each key what the scan gives. -/
structure Scanned {κ β : Type} (before : κ → κ → Prop) (keys : List κ) (search scan : κ → β) :
    Prop where
  ascending : keys.Pairwise before
  eq_scan : ∀ key, search key = scan key

namespace Sorted

section
variable {κ α : Type} [LT κ] [DecidableLT κ] [DecidableEq κ] (hirrefl : ∀ k : κ, ¬ k < k)
  (htrans : ∀ {a b c : κ}, a < b → b < c → a < c)
include hirrefl htrans

theorem lookup_eq_scan {table : Array (κ × α)}
    (h : (table.toList.map Prod.fst).Pairwise (· < ·)) (key : κ) :
    lookup table key = table.toList.lookup key := by
  cases hscan : table.toList.lookup key with
  | none =>
    -- what bisection finds stands in the table, and the scan would have met it
    rw [Option.eq_none_iff_forall_ne_some]
    intro value hvalue
    have hmem := mem_of_lookup hvalue
    have hne := List.lookup_eq_none_iff.mp hscan _ (Array.mem_toList_iff.mpr hmem)
    simp at hne
  | some value =>
    obtain ⟨front, back, htable, _⟩ := List.lookup_eq_some_iff.mp hscan
    have hx : table[front.length]? = some (key, value) := by
      rw [← Array.getElem?_toList, htable]
      simp
    have hcount : count (fun entry => decide (entry.1 < key)) table = front.length :=
      count_key_eq hirrefl htrans Prod.fst (List.pairwise_map.mp h) hx
    simp [lookup, hcount, hx]

end

theorem scanned_contains {names : Array String} (h : names.toList.Pairwise (· < ·)) :
    Scanned BytesLt names.toList (contains names) names.toList.contains := by
  refine ⟨h.imp bytesLt_of_lt, fun name => ?_⟩
  rw [Bool.eq_iff_iff, contains_iff_mem h, List.contains_iff_mem, Array.mem_toList_iff]

theorem scanned_lookup {α : Type} {table : Array (String × α)}
    (h : (table.toList.map Prod.fst).Pairwise (· < ·)) :
    Scanned BytesLt (table.toList.map Prod.fst) (lookup table) (table.toList.lookup ·) :=
  ⟨h.imp bytesLt_of_lt, lookup_eq_scan String.lt_irrefl String.lt_trans h⟩

end Sorted

/-! ## The tables -/

namespace Vocabulary

theorem ascending_globalOptions : globalOptions.toList.Pairwise (· < ·) :=
  List.isChain_iff_pairwise.mp (by decide +kernel)

theorem ascending_bodies : (bodies.toList.map Prod.fst).Pairwise (· < ·) :=
  List.isChain_iff_pairwise.mp (by decide +kernel)

theorem ascending_homes : (homes.toList.map Prod.fst).Pairwise (· < ·) :=
  List.isChain_iff_pairwise.mp (by decide +kernel)

theorem ascending_nestedBodies : (nestedBodies.toList.map Prod.fst).Pairwise (· < ·) := by
  decide +kernel

theorem scanned_bodyOf : Scanned BytesLt (bodies.toList.map Prod.fst) bodyOf
    fun name => (bodies.toList.lookup name).getD .unmodeled := by
  obtain ⟨hasc, hscan⟩ := Sorted.scanned_lookup ascending_bodies
  exact ⟨hasc, fun name => by rw [bodyOf, hscan]⟩

theorem scanned_nestedNames : Scanned Head.BytesLt (nestedBodies.toList.map Prod.fst)
    (fun head => nestedNames? head.name head.arg) (nestedBodies.toList.lookup ·) :=
  ⟨ascending_nestedBodies.imp fun {a b} => (Head.lt_iff_bytesLt a b).mp,
    Sorted.lookup_eq_scan Head.lt_irrefl Head.lt_trans ascending_nestedBodies⟩

end Vocabulary

theorem Manual.ascending_entries : (entries.toList.map Prod.fst).Pairwise (· < ·) :=
  List.isChain_iff_pairwise.mp (by decide +kernel)

/-! ## The tests of a review -/

/-- The name is not one that the block of a directive takes. -/
def Finding.Cause.isForeign : Cause → Bool
  | unknownSubdirective .. | misplacedInside .. => true
  | _ => false

namespace Review

variable {snippets : Array String} {d : Directive}

theorem not_isForeign_ofImport {f : Finding} (h : f ∈ ofImport snippets d) :
    f.cause.isForeign = false := by
  unfold ofImport at h
  split at h
  · cases h
  simp only at h
  split at h
  · cases h
  split at h
  · cases h
  · rw [List.mem_singleton.mp h]
    rfl

theorem not_isForeign_ofNested {parent sub : String} {allowed : Array String} {f : Finding}
    (h : f ∈ ofNested snippets parent sub allowed d) : f.cause.isForeign = false := by
  simp only [ofNested] at h
  split at h
  · cases h
  split at h
  · exact not_isForeign_ofImport h
  split at h
  · cases h
  · rw [List.mem_singleton.mp h]
    rfl

/-- Only the test of the name itself can find it foreign, whatever stands in its block. -/
theorem any_isForeign_ofSubdirective (hmatcher : ¬ isMatcher d.title) (himport : d.title ≠ "import")
    (parent : String) (allowed : Array String) :
    (ofSubdirective snippets parent allowed d).any (·.cause.isForeign) =
      !Sorted.contains allowed d.title := by
  by_cases hc : Sorted.contains allowed d.title
  · rw [hc, Bool.not_true, List.any_eq_false]
    intro f hf
    simp only [ofSubdirective, hmatcher, himport, hc] at hf
    cases harg : d.firstArg? with
    | none => simp [harg] at hf
    | some arg =>
      cases hnested : Vocabulary.nestedNames? d.title arg with
      | none => simp [harg, hnested] at hf
      | some nested =>
        simp only [harg, hnested] at hf
        obtain ⟨e, _, hf⟩ := List.mem_flatMap.mp hf
        simp [not_isForeign_ofNested hf]
  · cases hhome : Vocabulary.home? d.title <;>
      simp [ofSubdirective, hmatcher, himport, hc, hhome, Finding.Cause.isForeign]

theorem isEmpty_ofNested (hmatcher : ¬ isMatcher d.title) (himport : d.title ≠ "import")
    (parent sub : String) (nested : Array String) :
    (ofNested snippets parent sub nested d).isEmpty = Sorted.contains nested d.title := by
  by_cases hc : Sorted.contains nested d.title <;> simp [ofNested, hmatcher, himport, hc]

theorem isEmpty_ofImport {t : Token} (htarget : d.args.head? = some t)
    (hfile : ¬ isFile t.value.toList) (hplaceholder : ¬ isPlaceholder t.value.toList) :
    (ofImport snippets d).isEmpty = Sorted.contains snippets t.value := by
  obtain ⟨args, hargs⟩ := List.head?_eq_some_iff.mp htarget
  by_cases hc : Sorted.contains snippets t.value <;>
    simp [ofImport, hargs, hfile, hplaceholder, hc]

end Review

theorem scanned_snippetNames (doc : Document) : Scanned BytesLt doc.snippetNames
    (Sorted.contains doc.snippetNames.toArray)
    fun name => doc.sites.any (·.snippet? = some name) := by
  refine ⟨(pairwise_snippetNames doc).imp bytesLt_of_lt, fun name => ?_⟩
  rw [Bool.eq_iff_iff, contains_snippetNames, List.any_eq_true]
  simp

/-! ## Every search -/

section
open Vocabulary Review

/-- A name that the block of a directive takes is found as by a scan. A review finds a name in the
block foreign if the scan does not meet it. -/
structure BlockScanned (allowed : Array String) : Prop where
  search : Scanned BytesLt allowed.toList (Sorted.contains allowed) allowed.toList.contains
  review : ∀ (snippets : Array String) (parent : String) (d : Directive),
    ¬ isMatcher d.title → d.title ≠ "import" →
      (ofSubdirective snippets parent allowed d).any (·.cause.isForeign) =
        !allowed.toList.contains d.title

/-- The same in the block of a subdirective, where a review looks no deeper. -/
structure NestedScanned (nested : Array String) : Prop where
  search : Scanned BytesLt nested.toList (Sorted.contains nested) nested.toList.contains
  review : ∀ (snippets : Array String) (parent sub : String) (d : Directive),
    ¬ isMatcher d.title → d.title ≠ "import" →
      (ofNested snippets parent sub nested d).isEmpty = nested.toList.contains d.title

/-- A snippet is found if some site declares it. A review passes an import if some site declares its
target. -/
structure SnippetsScanned (doc : Document) : Prop where
  search : Scanned BytesLt doc.snippetNames (Sorted.contains doc.snippetNames.toArray)
    fun name => doc.sites.any (·.snippet? = some name)
  review : ∀ (d : Directive) (t : Token), d.args.head? = some t →
    ¬ isFile t.value.toList → ¬ isPlaceholder t.value.toList →
      (ofImport doc.snippetNames.toArray d).isEmpty = doc.sites.any (·.snippet? = some t.value)

/-- Keys are compared by their bytes. Every table ascends, and every search in one answers as a scan
from its front. -/
theorem searches_scan :
    ((∀ a b : String, a < b ↔ BytesLt a b) ∧ ∀ a b : Head, a < b ↔ a.BytesLt b) ∧
      Scanned BytesLt siteDirectives.toList isSiteDirective siteDirectives.toList.contains ∧
      Scanned BytesLt globalOptions.toList isGlobalOption globalOptions.toList.contains ∧
      Scanned BytesLt containers.toList isContainer containers.toList.contains ∧
      Scanned BytesLt (bodies.toList.map Prod.fst) bodyOf
        (fun name => (bodies.toList.lookup name).getD .unmodeled) ∧
      Scanned Head.BytesLt (nestedBodies.toList.map Prod.fst)
        (fun head => nestedNames? head.name head.arg) (nestedBodies.toList.lookup ·) ∧
      Scanned BytesLt (homes.toList.map Prod.fst) home? (homes.toList.lookup ·) ∧
      Scanned BytesLt (Manual.entries.toList.map Prod.fst) Manual.lookup
        (Manual.entries.toList.lookup ·) ∧
      (∀ parent allowed, (parent, .names allowed) ∈ bodies → BlockScanned allowed) ∧
      (∀ head nested, (head, nested) ∈ nestedBodies → NestedScanned nested) ∧
      ∀ doc : Document, SnippetsScanned doc := by
  refine ⟨⟨lt_iff_bytesLt, Head.lt_iff_bytesLt⟩, Sorted.scanned_contains ascending_siteDirectives,
    Sorted.scanned_contains ascending_globalOptions, Sorted.scanned_contains ascending_containers,
    scanned_bodyOf, scanned_nestedNames, Sorted.scanned_lookup ascending_homes,
    Sorted.scanned_lookup Manual.ascending_entries, ?_, ?_, ?_⟩
  · intro parent allowed hmem
    have hsearch := Sorted.scanned_contains (ascending_of_mem_bodies hmem)
    refine ⟨hsearch, fun snippets parent d hmatcher himport => ?_⟩
    rw [any_isForeign_ofSubdirective hmatcher himport, hsearch.eq_scan]
  · intro head nested hmem
    have hsearch := Sorted.scanned_contains (ascending_of_mem_nestedBodies hmem)
    refine ⟨hsearch, fun snippets parent sub d hmatcher himport => ?_⟩
    rw [isEmpty_ofNested hmatcher himport, hsearch.eq_scan]
  · intro doc
    have hsearch := scanned_snippetNames doc
    refine ⟨hsearch, fun d t htarget hfile hplaceholder => ?_⟩
    rw [isEmpty_ofImport htarget hfile hplaceholder, hsearch.eq_scan]

/-- A name with one letter wrong is foreign. One that longer names start with is found, and so is a
snippet that is declared ahead of its place. -/
theorem searches_scan_instances :
    let word (text : String) : Token := ⟨.bare, text, ⟨0, 0⟩⟩
    let line (name : String) (args : List Token) : Directive := ⟨word name, args, none, [], 0⟩
    let doc : Document := ⟨none, [⟨word "(é)", [], [], 0⟩, ⟨word "(z)", [], [], 0⟩]⟩
    (ofSubdirective #[] "tracing" #["span"] (line "spam" [])).any (·.cause.isForeign) = true ∧
      (∃ nested, (⟨"transport", "http"⟩, nested) ∈ nestedBodies ∧
        (ofNested #[] "reverse_proxy" "transport http" nested (line "keepalive" [])).isEmpty = true) ∧
      (ofImport doc.snippetNames.toArray (line "import" [word "é"])).isEmpty = true := by
  intro word line doc
  obtain ⟨-, -, -, -, -, -, -, -, hblock, hnested, hsnippets⟩ := searches_scan
  refine ⟨?_, ?_, ?_⟩
  · rw [(hblock "tracing" #["span"] (by decide +kernel)).review _ _ _ (by decide +kernel)
      (by decide +kernel)]
    decide +kernel
  · obtain ⟨nested, hmem, hkeepalive⟩ : ∃ nested, (⟨"transport", "http"⟩, nested) ∈ nestedBodies ∧
        nested.toList.contains "keepalive" = true :=
      ⟨(nestedNames? "transport" "http").getD #[], by decide +kernel, by decide +kernel⟩
    refine ⟨nested, hmem, ?_⟩
    rw [(hnested _ nested hmem).review _ _ _ _ (by decide +kernel) (by decide +kernel)]
    exact hkeepalive
  · rw [(hsnippets doc).review (line "import" [word "é"]) (word "é") rfl (by decide +kernel)
      (by decide +kernel)]
    decide +kernel

end

end Caddyfile
