import Mathlib.Data.List.Induction
import Caddyfile.Editor.Session

/-!
# What is published matches what is stored

An event on a document either leaves its text alone and publishes nothing, or it publishes the
notices of the text that is stored afterwards (`published_cases`). So after any number of events the
last notices published for a document are those of its text, and none if it has no text
(`published_matches_stored`).
-/

namespace Caddyfile.Editor

/-! ## What an event says about a document -/

namespace Event

/-- The text that the document gets. -/
def text? : Event → Option String
  | opened _ _ text => some text
  | changed _ _ texts => texts.getLast?
  | saved _ text? => text?
  | closed _ | hover .. | completion .. => none

def closes : Event → Bool
  | closed _ => true
  | opened .. | changed .. | saved .. | hover .. | completion .. => false

/-- The text that came last for a document since it was last closed. -/
def latestText (uri : String) (es : List Event) : Option String :=
  ((es.filter (·.uri = uri)).reverse.takeWhile (!·.closes)).findSome? text?

theorem latestText_snoc (uri : String) (es : List Event) (e : Event) :
    latestText uri (es ++ [e]) =
      if e.uri = uri then
        if e.closes then none else e.text?.or (latestText uri es)
      else latestText uri es := by
  unfold latestText
  by_cases hu : e.uri = uri
  · by_cases hc : e.closes
    · simp [hu, hc]
    · cases htext : e.text? with
      | none => simp [hu, hc, htext]
      | some text => simp [hu, hc, htext]
  · simp [hu]

end Event

theorem Store.get?_after (s : Store) (e : Event) (u : String) : (s.after e).get? u =
    if e.uri = u then if e.closes then none else e.text?.or (s.get? u) else s.get? u := by
  cases e with
  | opened uri version text =>
    simp [after, get?_insert, Event.uri, Event.closes, Event.text?, eq_comm]
  | changed uri version texts =>
    simp only [after, Event.uri, Event.closes, Event.text?]
    cases texts.getLast? with
    | none => simp
    | some text => simp [get?_insert, eq_comm]
  | saved uri text? =>
    simp only [after, Event.uri, Event.closes, Event.text?]
    cases text? with
    | none => simp
    | some text => simp [get?_insert, eq_comm]
  | closed uri => simp [after, get?_erase, Event.uri, Event.closes, eq_comm]
  | hover uri position | completion uri position =>
    simp [after, Event.uri, Event.closes, Event.text?]

/-- An event that publishes nothing leaves the text of its document alone. Any other publishes the
notices of the text that it leaves in the store. -/
theorem Store.publications_cases (s : Store) (e : Event) :
    s.publications e = [] ∧ (s.after e).get? e.uri = s.get? e.uri ∨
      ∃ version?, s.publications e =
        [⟨e.uri, ((s.after e).get? e.uri).elim [] notices, version?⟩] := by
  cases e with
  | opened uri version text =>
    exact .inr ⟨some version, by simp [publications, after, get?_insert, Event.uri]⟩
  | changed uri version texts =>
    cases hlast : texts.getLast? with
    | none => exact .inl (by simp [publications, after, hlast])
    | some text =>
      exact .inr ⟨some version, by simp [publications, after, hlast, get?_insert, Event.uri]⟩
  | saved uri text? =>
    cases text? with
    | none =>
      -- the stored text is published once more, if there is one
      cases hget : s.get? uri with
      | none => exact .inl (by simp [publications, after, hget])
      | some text => exact .inr ⟨none, by simp [publications, after, hget, Event.uri]⟩
    | some text => exact .inr ⟨none, by simp [publications, after, get?_insert, Event.uri]⟩
  | closed uri => exact .inr ⟨none, by simp [publications, after, get?_erase, Event.uri]⟩
  | hover uri position | completion uri position =>
    exact .inl (by simp [publications, after])

/-! ## What is sent about a document -/

def noticesJson (ns : List Notice) : Json :=
  .array (ns.map Notice.toJson)

/-- The notices in a notification that publishes those of a document. -/
def Notification.noticesOf? (uri : String) (n : Notification) : Option Json :=
  if n.method = "textDocument/publishDiagnostics" ∧
      (n.params.field? "uri").bind Json.string? = some uri then
    n.params.field? "diagnostics"
  else none

theorem Publication.noticesOf?_toNotification (p : Publication) (uri : String) :
    p.toNotification.noticesOf? uri = if p.uri = uri then some (noticesJson p.notices) else none := by
  obtain ⟨u, ns, version?⟩ := p
  cases version? with
  | none => simp [toNotification, Notification.noticesOf?, Json.field?, Json.string?, noticesJson]
  | some v => simp [toNotification, Notification.noticesOf?, Json.field?, Json.string?, noticesJson]

namespace Session

/-- The session after some events, one after another. -/
def afterAll (s : Session) (es : List Event) : Session :=
  es.foldl (fun s e => (s.handle e).session) s

/-- All that the session sends on the way. -/
def sent (s : Session) : List Event → List Notification
  | [] => []
  | e :: es => (s.handle e).notifications ++ (s.handle e).session.sent es

/-- The notices that the session publishes for a document on the way. -/
def published (s : Session) (es : List Event) (uri : String) : List Json :=
  (s.sent es).filterMap (·.noticesOf? uri)

theorem afterAll_snoc (s : Session) (es : List Event) (e : Event) :
    s.afterAll (es ++ [e]) = ((s.afterAll es).handle e).session := by
  simp [afterAll]

theorem sent_snoc (s : Session) (es : List Event) (e : Event) :
    s.sent (es ++ [e]) = s.sent es ++ ((s.afterAll es).handle e).notifications := by
  induction es generalizing s with
  | nil => simp [sent, afterAll]
  | cons d es ih =>
    rw [List.cons_append, sent, ih, sent, List.append_assoc]
    rfl

theorem published_cases (s : Session) (e : Event) (u : String) :
    s.published [e] u = [] ∧ (s.handle e).session.store.get? u = s.store.get? u ∨
      s.published [e] u =
        [noticesJson (((s.handle e).session.store.get? u).elim [] notices)] := by
  have hpublished : s.published [e] u = (s.store.publications e).filterMap fun p =>
      if p.uri = u then some (noticesJson p.notices) else none := by
    simp only [published, sent, handle, List.append_nil, List.filterMap_map, Function.comp_def,
      Publication.noticesOf?_toNotification]
  have hstore : (s.handle e).session.store = s.store.after e := rfl
  rw [hpublished, hstore]
  by_cases hu : e.uri = u
  · subst hu
    rcases s.store.publications_cases e with ⟨hnone, hget⟩ | ⟨version?, hone⟩
    · exact .inl ⟨by rw [hnone]; rfl, hget⟩
    · exact .inr (by simp [hone])
  · refine .inl ⟨?_, by rw [Store.get?_after, if_neg hu]⟩
    rcases s.store.publications_cases e with ⟨hnone, _⟩ | ⟨version?, hone⟩
    · rw [hnone]; rfl
    · simp [hone, hu]

/-! ## Runs -/

theorem get?_afterAll (phase : Phase) (es : List Event) (u : String) :
    (afterAll ⟨phase, .empty⟩ es).store.get? u = Event.latestText u es := by
  induction es using List.reverseRecOn with
  | nil => rfl
  | append_singleton es e ih =>
    have hstep : (afterAll ⟨phase, .empty⟩ (es ++ [e])).store =
        (afterAll ⟨phase, .empty⟩ es).store.after e := by
      rw [afterAll_snoc]
      rfl
    rw [hstep, Store.get?_after, ih, Event.latestText_snoc]

theorem getLast?_published (phase : Phase) (es : List Event) (u : String) :
    published ⟨phase, .empty⟩ es u = [] ∧ (afterAll ⟨phase, .empty⟩ es).store.get? u = none ∨
      (published ⟨phase, .empty⟩ es u).getLast? =
        some (noticesJson (((afterAll ⟨phase, .empty⟩ es).store.get? u).elim [] notices)) := by
  induction es using List.reverseRecOn with
  | nil => exact .inl ⟨rfl, rfl⟩
  | append_singleton es e ih =>
    have hsnoc : published ⟨phase, .empty⟩ (es ++ [e]) u = published ⟨phase, .empty⟩ es u ++
        (afterAll ⟨phase, .empty⟩ es).published [e] u := by
      simp only [published, sent_snoc, List.filterMap_append, sent, List.append_nil]
    rw [afterAll_snoc, hsnoc]
    rcases published_cases (afterAll ⟨phase, .empty⟩ es) e u with ⟨hnone, hget⟩ | hone
    · rw [hnone, hget, List.append_nil]
      exact ih
    · rw [hone, List.getLast?_concat]
      exact .inr rfl

end Session

/-- After any events on documents: the last notices published for a document with a stored text are
those of this text. For a document without one, none were ever published, or the last ones were
empty. The stored text is the one that came last since the document was closed. A question about
the document changes and publishes nothing, and is answered from the stored text. The answer is null
where there is no text, and a request for help is also answered with null where `hoverAt` finds
nothing in it. -/
theorem published_matches_stored (phase : Phase) (es : List Event) (u : String) :
    let s := Session.afterAll ⟨phase, .empty⟩ es
    let published := Session.published ⟨phase, .empty⟩ es u
    (∀ t, s.store.get? u = some t → published.getLast? = some (noticesJson (notices t))) ∧
    (s.store.get? u = none → published = [] ∨ published.getLast? = some (noticesJson [])) ∧
    s.store.get? u = Event.latestText u es ∧
    (∀ p, s.handle (.hover u p) = ⟨s, [], some (.ok ((s.store.get? u).elim .null fun t =>
      (hoverAt t p).elim .null Hover.toJson))⟩) ∧
    ∀ p, s.handle (.completion u p) = ⟨s, [], some (.ok ((s.store.get? u).elim .null fun t =>
      .array ((completionsAt t p).map Completion.toJson)))⟩ := by
  intro s published
  have hlast := Session.getLast?_published phase es u
  refine ⟨?_, ?_, Session.get?_afterAll phase es u, ?_, ?_⟩
  · intro t ht
    rcases hlast with ⟨_, hnone⟩ | hlast
    · cases ht.symm.trans hnone
    · rw [hlast, show Store.get? _ u = some t from ht]
      rfl
  · intro hnone
    rcases hlast with ⟨hnil, _⟩ | hlast
    · exact .inl hnil
    · rw [show Store.get? _ u = none from hnone] at hlast
      exact .inr hlast
  · intro p
    simp only [Session.handle, Store.after, Store.publications, Store.answer?]
    cases s.store.get? u <;> rfl
  · intro p
    simp only [Session.handle, Store.after, Store.publications, Store.answer?]
    cases s.store.get? u <;> rfl

end Caddyfile.Editor
