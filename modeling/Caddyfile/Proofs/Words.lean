import Caddyfile.Document.Reading
import Caddyfile.Proofs.Grouping

/-!
# The words of a document

Reading moves words into a tree without changing their order. What it leaves out are the words of
blocks that do not count: those inside too many others, and those of stray blocks outside of all
sites. So the words of a document are among the tokens of its text (`words_read_sublist`), and no
two of them lie at the same place.
-/

namespace Caddyfile

theorem sublist_flatMap {α : Type} (f : α → List Token) {as : List α} {a : α} (h : a ∈ as) :
    (f a).Sublist (as.flatMap f) := by
  obtain ⟨l, r, rfl⟩ := List.append_of_mem h
  rw [List.flatMap_append, List.flatMap_cons]
  exact (List.sublist_append_left _ _).trans (List.sublist_append_right _ _)

namespace Directive

mutual

def words : Directive → List Token
  | ⟨name, args, _, body, _⟩ => name :: (args ++ wordsOf body)

def wordsOf : List Directive → List Token
  | [] => []
  | d :: ds => words d ++ wordsOf ds

end

theorem sizeOf_lt_of_mem_body {d e : Directive} (h : e ∈ d.body) : sizeOf e < sizeOf d := by
  obtain ⟨name, args, opener, body, lastLine⟩ := d
  have := List.sizeOf_lt_of_mem h
  simp only [Directive.mk.sizeOf_spec] at this ⊢
  omega

theorem words_eq (d : Directive) : d.words = d.name :: (d.args ++ wordsOf d.body) := by
  cases d; rfl

@[simp] theorem wordsOf_append : ∀ ds es : List Directive,
    wordsOf (ds ++ es) = wordsOf ds ++ wordsOf es
  | [], _ => rfl
  | d :: ds, es => by rw [List.cons_append, wordsOf, wordsOf_append ds es, wordsOf, List.append_assoc]

theorem wordsOf_eq_flatMap : ∀ ds : List Directive, wordsOf ds = ds.flatMap words
  | [] => rfl
  | d :: ds => by rw [wordsOf, wordsOf_eq_flatMap ds]; rfl

theorem words_sublist {ds : List Directive} {d : Directive} (h : d ∈ ds) :
    d.words.Sublist (wordsOf ds) := by
  rw [wordsOf_eq_flatMap]
  exact sublist_flatMap words h

end Directive

def Site.words (s : Site) : List Token :=
  s.addresses ++ Directive.wordsOf s.directives

def Document.words (d : Document) : List Token :=
  d.globals.elim [] (fun g => Directive.wordsOf g.directives) ++ d.sites.flatMap Site.words

/-! ## The words that count -/

namespace Forest

/-- The words of a block that lies inside `depth` blocks, itself included. -/
def kept : Nat → Forest → List Token
  | _, nil => []
  | depth, word t rest => t :: kept depth rest
  | depth, block _ inside _ rest =>
    (if depth < maxDepth then kept (depth + 1) inside else []) ++ kept depth rest

/-- The words outside of all blocks and in the blocks of sites. A block is one of a site if a word
stands in front of it. -/
def keptOutside : Bool → Forest → List Token
  | _, nil => []
  | _, word t rest => t :: keptOutside true rest
  | headed, block _ inside _ rest =>
    (if headed then kept 1 inside else []) ++ keptOutside false rest

theorem kept_sublist : ∀ (depth : Nat) (f : Forest), (f.kept depth).Sublist f.tokens
  | _, nil => List.Sublist.refl _
  | depth, word t rest => (kept_sublist depth rest).cons_cons t
  | depth, block opener inside closer rest => by
    rw [kept, tokens]
    refine List.Sublist.cons _ (List.Sublist.append ?_ ?_)
    · split
      · exact kept_sublist (depth + 1) inside
      · exact List.nil_sublist _
    · exact (kept_sublist depth rest).trans (List.sublist_append_right _ _)

theorem keptOutside_sublist : ∀ (headed : Bool) (f : Forest),
    (f.keptOutside headed).Sublist f.tokens
  | _, nil => List.Sublist.refl _
  | _, word t rest => (keptOutside_sublist true rest).cons_cons t
  | headed, block opener inside closer rest => by
    rw [keptOutside, tokens]
    refine List.Sublist.cons _ (List.Sublist.append ?_ ?_)
    · split
      · exact kept_sublist 1 inside
      · exact List.nil_sublist _
    · exact (keptOutside_sublist false rest).trans (List.sublist_append_right _ _)

end Forest

namespace Document

open Directive

/-! ## Reading keeps them -/

def pendingWords (pending : Option Header) : List Token :=
  pending.elim [] fun h => h.name :: h.args

def pendingAddresses (pending : Option Heading) : List Token :=
  pending.elim [] fun h => h.first :: h.others

theorem wordsOf_settle {depth : Nat} {opener : Token} {closer : Option Token}
    {unclosed : Fault.Cause} {inside : Contents} {f : Forest}
    (h : wordsOf inside.directives = f.kept (depth + 1)) :
    wordsOf (settle depth opener closer unclosed inside).directives =
      if depth < maxDepth then f.kept (depth + 1) else [] := by
  unfold settle
  split
  · cases closer <;> exact h
  · rfl

theorem wordsOf_contents (finish depth : Nat) (pending : Option Header) (f : Forest) :
    wordsOf (contents finish depth pending f).directives = pendingWords pending ++ f.kept depth := by
  fun_induction contents finish depth pending f with
  | case1 => rfl
  | case2 depth h => simp [pendingWords, wordsOf, words_eq, Header.plain, Forest.kept]
  | case3 depth t rest ih => simpa [pendingWords, Forest.kept] using ih
  | case4 depth h t rest ha ih => simpa [pendingWords, Forest.kept, Header.push] using ih
  | case5 depth h t rest ha ih =>
    simp [Contents.cons, wordsOf, words_eq, Header.plain, ih, pendingWords, Forest.kept]
  | case6 depth opener inside closer rest own stray ihi ihr =>
    have hown : wordsOf own.directives = _ := wordsOf_settle ihi
    simp [Contents.append, stray, hown, ihr, pendingWords, Forest.kept]
  | case7 depth h opener inside closer rest own d ihi ihr =>
    have hown : wordsOf own.directives = _ := wordsOf_settle ihi
    have hd : d.words = h.name :: (h.args ++ wordsOf own.directives) := words_eq d
    simp [Contents.append, wordsOf, hd, hown, ihr, pendingWords, Forest.kept]

theorem wordsOf_topBlock (finish : Nat) (opener : Token) (inside : Forest) (closer : Option Token)
    (unclosed : Fault.Cause) :
    wordsOf (topBlock finish opener inside closer unclosed).directives = inside.kept 1 :=
  wordsOf_settle (wordsOf_contents finish 1 none inside)

theorem words_stretch (finish : Nat) (pending : Option Heading) (f : Forest) :
    (stretch finish pending f).sites.flatMap Site.words =
      pendingAddresses pending ++ f.keptOutside pending.isSome := by
  fun_induction stretch finish pending f with
  | case1 => rfl
  | case2 h =>
    simp [Heading.plain, Site.words, Site.addresses, wordsOf, pendingAddresses, Forest.keptOutside]
  | case3 t rest ih => simpa [pendingAddresses, Forest.keptOutside, Heading.start] using ih
  | case4 h t rest ha ih => simpa [pendingAddresses, Forest.keptOutside, Heading.push] using ih
  | case5 h t rest ha ih =>
    rw [Stretch.append, List.flatMap_append, ih]
    simp [Heading.plain, Site.words, Site.addresses, wordsOf, pendingAddresses,
      Forest.keptOutside, Heading.start]
  | case6 opener inside closer rest body ih =>
    simp [Stretch.append, ih, pendingAddresses, Forest.keptOutside]
  | case7 h opener inside closer rest body ih =>
    have hbody : wordsOf body.directives = inside.kept 1 := wordsOf_topBlock ..
    simp [Stretch.append, Heading.withBlock, Site.words, Site.addresses, hbody, ih,
      pendingAddresses, Forest.keptOutside]

theorem words_laterStretches (finish : Nat) : ∀ later : List (Token × Forest),
    (laterStretches finish later).sites.flatMap Site.words =
      later.flatMap fun p => p.2.keptOutside false
  | [] => rfl
  | (closer, f) :: later => by
    rw [laterStretches, Stretch.append, List.flatMap_append, words_laterStretches finish later,
      words_stretch]
    rfl

theorem words_ofForest (finish : Nat) (s : Forest.Split) :
    (ofForest finish s).document.words =
      (match s.first with
        | .block _ inside _ rest => inside.kept 1 ++ rest.keptOutside false
        | f => f.keptOutside false) ++ s.later.flatMap fun p => p.2.keptOutside false := by
  obtain ⟨first, later⟩ := s
  cases first with
  | nil | word t rest =>
    simp [ofForest, Document.words, Stretch.append, words_stretch, words_laterStretches,
      pendingAddresses]
  | block opener inside closer rest =>
    simp [ofForest, Document.words, Stretch.append, words_stretch, words_laterStretches,
      pendingAddresses, wordsOf_topBlock]

theorem words_ofForest_sublist (finish : Nat) (s : Forest.Split) :
    (ofForest finish s).document.words.Sublist s.tokens := by
  obtain ⟨first, later⟩ := s
  rw [words_ofForest, Forest.Split.tokens]
  refine List.Sublist.append ?_ ?_
  · cases first with
    | nil | word t rest => exact Forest.keptOutside_sublist false _
    | block opener inside closer rest =>
      rw [Forest.tokens]
      refine List.Sublist.cons _ (List.Sublist.append (Forest.kept_sublist 1 inside) ?_)
      exact (Forest.keptOutside_sublist false rest).trans (List.sublist_append_right _ _)
  · induction later with
    | nil => exact List.Sublist.refl _
    | cons p later ih =>
      rw [List.flatMap_cons, List.flatMap_cons]
      exact List.Sublist.append ((Forest.keptOutside_sublist false p.2).cons _) ih

/-- Words are tokens other than the end token, in the order of the text. -/
theorem words_read_sublist (source : String) :
    (read source).document.words.Sublist (tokens source).dropLast := by
  obtain ⟨ws, e, hts, he, hgroup, hws⟩ := Forest.exists_ofTokens source
  have h := words_ofForest_sublist ((tokens source).getLast?.elim 0 Token.line)
    (Forest.ofTokens (tokens source))
  rw [hgroup, hws, ← hgroup] at h
  rwa [hts, List.dropLast_concat]

theorem words_read_pairwise (source : String) :
    (read source).document.words.Pairwise fun t u => t.start < u.start :=
  (dropLast_tokens_pairwise source).sublist (words_read_sublist source)

end Document

end Caddyfile
