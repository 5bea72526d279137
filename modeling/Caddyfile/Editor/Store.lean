/-!
# Open documents

The latest text of each open document, by its address.
-/

namespace Caddyfile.Editor

structure Store where
  documents : List (String × String)
deriving DecidableEq, Repr

namespace Store

def empty : Store :=
  ⟨[]⟩

def get? (s : Store) (uri : String) : Option String :=
  (s.documents.find? (·.1 = uri)).map (·.2)

def contains (s : Store) (uri : String) : Bool :=
  (s.get? uri).isSome

def erase (s : Store) (uri : String) : Store :=
  ⟨s.documents.filter (·.1 ≠ uri)⟩

def insert (s : Store) (uri text : String) : Store :=
  ⟨(uri, text) :: (s.erase uri).documents⟩

theorem get?_erase (s : Store) (uri u : String) :
    (s.erase uri).get? u = if u = uri then none else s.get? u := by
  obtain ⟨ds⟩ := s
  simp only [erase, get?]
  induction ds with
  | nil => simp
  | cons d ds ih =>
    by_cases hd : d.1 = uri
    · rw [List.filter_cons_of_neg (by simp [hd]), ih, List.find?_cons]
      by_cases hu : u = uri
      · simp [hu]
      · simp [hu, hd, Ne.symm hu]
    · rw [List.filter_cons_of_pos (by simp [hd]), List.find?_cons, List.find?_cons]
      by_cases hu : d.1 = u
      · simp [hu, show u ≠ uri from hu ▸ hd]
      · simpa [hu] using ih

theorem get?_insert (s : Store) (uri text u : String) :
    (s.insert uri text).get? u = if u = uri then some text else s.get? u := by
  have h := get?_erase s uri u
  simp only [insert, get?, List.find?_cons] at h ⊢
  by_cases hu : u = uri
  · simp [hu]
  · simpa [hu, Ne.symm hu] using h

end Store

end Caddyfile.Editor
