import Caddyfile.Proofs.Publishing

/-!
# Documents do not disturb one another

A message about one document leaves the texts of all others alone and publishes nothing for them. So
for what an editor sees of a document, the messages about other documents might as well not have
been sent (`documents_isolated`). Both sequences of messages are taken side by side, by sessions
that stay `Alike` for the document.
-/

namespace Caddyfile.Editor

/-! ## What a message is about -/

namespace Message

/-- The event that a message brings to a session that serves. -/
def event? (m : Message) : Option Event :=
  match Method.ofName? m.method with
  | some (.event asks shape read) =>
    if asks = m.isRequest then (Session.params m shape).toOption.bind read else none
  | _ => none

def isAbout (uri : String) (m : Message) : Bool :=
  m.event?.any (·.uri = uri)

def isAboutOther (uri : String) (m : Message) : Bool :=
  m.event?.any (·.uri ≠ uri)

theorem isAboutOther_iff {uri : String} {m : Message} :
    m.isAboutOther uri ↔ ∃ e, m.event? = some e ∧ e.uri ≠ uri := by
  unfold isAboutOther
  cases m.event? <;> simp

theorem not_isAbout_of_isAboutOther {uri : String} {m : Message} (h : m.isAboutOther uri) :
    ¬ m.isAbout uri := by
  obtain ⟨e, he, hne⟩ := isAboutOther_iff.mp h
  simpa [isAbout, he] using hne

end Message

namespace Session

theorem receive_event {s : Session} {m : Message} {e : Event} (hphase : s.phase = .serving)
    (he : m.event? = some e) : s.receive m = s.handle e := by
  unfold Message.event? at he
  split at he
  · rename_i asks shape read hname
    split at he
    · rename_i hasks
      obtain ⟨j, hj, hread⟩ := Option.bind_eq_some_iff.mp he
      have hparams : params m shape = .ok j := by
        cases hp : params m shape with
        | error rejection => simp [hp, Except.toOption] at hj
        | ok k => simpa [hp, Except.toOption] using hj
      simp [receive, dispatch, serve, Phase.refusal?, Method.asks, hphase, hname, hasks, hparams,
        hread]
    · cases he
  · cases he

theorem receive_refused {s : Session} {m : Message} {e : Event} (hphase : s.phase ≠ .serving)
    (he : m.event? = some e) : ∃ response?, s.receive m = ⟨s, [], response?⟩ := by
  unfold Message.event? at he
  split at he
  · rename_i asks shape read hname
    unfold receive
    split
    · exact ⟨none, rfl⟩
    · cases hp : s.phase with
      | serving => exact absurd hp hphase
      | fresh | stopped | exited =>
        simp only [hname, dispatch, hp, Phase.refusal?]
        exact ⟨_, rfl⟩
  · cases he

/-! ## Messages that do not look at the store -/

def withStore (s : Session) (store : Store) : Session :=
  ⟨s.phase, store⟩

end Session

def Reply.withStore (r : Reply) (store : Store) : Reply :=
  ⟨r.session.withStore store, r.notifications, r.response?⟩

namespace Session

section
variable (s : Session) (store : Store) (m : Message)

theorem launch_withStore : (s.withStore store).launch m = (s.launch m).withStore store := by
  unfold launch
  cases params m Shape.launchParams <;> rfl

theorem shutdown_withStore : (s.withStore store).shutdown m = (s.shutdown m).withStore store := by
  unfold shutdown
  cases m.params? <;> rfl

/-- Without an event, a message that is served at all leaves the store out of it. -/
theorem serve_withStore {method : Method} (hname : Method.ofName? m.method = some method)
    (hasks : method.asks = m.isRequest) (he : m.event? = none) :
    (s.withStore store).serve m method = (s.serve m method).withStore store := by
  cases method with
  | launch | shutdown | exit | cancel => rfl
  | launched =>
    simp only [serve]
    cases params m (Shape.record "InitializedParams" []) <;> rfl
  | unsupported asks shape =>
    simp only [serve]
    cases params m shape <;> rfl
  | event asks shape read =>
    simp only [serve]
    cases hp : params m shape with
    | error rejection => rfl
    | ok j =>
      have hread : read j = none := by
        have hasks : asks = m.isRequest := hasks
        simpa [Message.event?, hname, hasks, hp, Except.toOption] using he
      simp only [hread]
      rfl

theorem dispatch_withStore {method : Method} (hname : Method.ofName? m.method = some method)
    (he : m.event? = none ∨ s.phase ≠ .serving) :
    (s.withStore store).dispatch m method = (s.dispatch m method).withStore store := by
  have hphase : (s.withStore store).phase = s.phase := rfl
  have hserve : s.phase.refusal? = none → method.asks = m.isRequest →
      (s.withStore store).serve m method = (s.serve m method).withStore store := by
    intro hserving hasks
    refine serve_withStore s store m hname hasks (he.resolve_right fun hne => hne ?_)
    cases hp : s.phase with
    | serving => rfl
    | fresh | stopped | exited => simp [hp, Phase.refusal?] at hserving
  cases method with
  | exit | cancel => rfl
  | launch =>
    simp only [dispatch, hphase]
    split
    · rfl
    · split
      · exact launch_withStore s store m
      · rfl
  | shutdown =>
    simp only [dispatch, hphase]
    cases s.phase.refusal? with
    | some rejection => rfl
    | none => exact shutdown_withStore s store m
  | launched | event asks shape read | unsupported asks shape =>
    simp only [dispatch, hphase]
    cases hr : s.phase.refusal? with
    | some rejection => rfl
    | none =>
      dsimp only
      split
      · rename_i hasks
        exact hserve hr hasks
      · rfl

theorem receive_withStore (he : m.event? = none ∨ s.phase ≠ .serving) :
    (s.withStore store).receive m = (s.receive m).withStore store := by
  have hphase : (s.withStore store).phase = s.phase := rfl
  simp only [receive, hphase]
  split
  · rfl
  · cases hname : Method.ofName? m.method with
    | some method => exact dispatch_withStore s store m hname he
    | none =>
      dsimp only
      split <;> rfl

end

end Session

/-! ## One step of two sessions -/

namespace Store

variable {s t : Store} {e : Event}

theorem publications_congr (h : s.get? e.uri = t.get? e.uri) :
    s.publications e = t.publications e := by
  cases e with
  | saved uri text? =>
    have hget : s.get? uri = t.get? uri := h
    simp only [publications, hget]
  | opened | changed | closed | hover | completion => rfl

theorem answer?_congr (h : s.get? e.uri = t.get? e.uri) : s.answer? e = t.answer? e := by
  cases e with
  | hover uri position | completion uri position =>
    have hget : s.get? uri = t.get? uri := h
    simp only [answer?, hget]
  | opened | changed | saved | closed => rfl

end Store

def Notification.publishesFor (uri : String) (n : Notification) : Bool :=
  n.method = "textDocument/publishDiagnostics" &&
    (n.params.field? "uri").bind Json.string? = some uri

theorem Publication.publishesFor_toNotification (p : Publication) (uri : String) :
    p.toNotification.publishesFor uri = decide (p.uri = uri) := by
  obtain ⟨u, notices, version?⟩ := p
  cases version? with
  | none => simp [toNotification, Notification.publishesFor, Json.field?, Json.string?]
  | some v => simp [toNotification, Notification.publishesFor, Json.field?, Json.string?]

namespace Session

/-- For this document the two sessions are in the same state. -/
structure Alike (uri : String) (s t : Session) : Prop where
  phase : s.phase = t.phase
  text : s.store.get? uri = t.store.get? uri

variable {uri : String} {s t : Session} {m : Message}

theorem Alike.refl (uri : String) (s : Session) : Alike uri s s :=
  ⟨rfl, rfl⟩

theorem Alike.trans {r : Session} (h₁ : Alike uri r s) (h₂ : Alike uri s t) : Alike uri r t :=
  ⟨h₁.phase.trans h₂.phase, h₁.text.trans h₂.text⟩

theorem Alike.eq_withStore (h : Alike uri s t) : t = s.withStore t.store := by
  rw [withStore, h.phase]

theorem store_receive (he : m.event? = none ∨ s.phase ≠ .serving) :
    (s.receive m).session.store = s.store := by
  have h := receive_withStore s s.store m he
  rw [show s.withStore s.store = s from rfl] at h
  rw [h]
  rfl

theorem alike_handle_other {e : Event} (hne : e.uri ≠ uri) : Alike uri s (s.handle e).session := by
  refine ⟨rfl, ?_⟩
  change s.store.get? uri = (s.store.after e).get? uri
  rw [Store.get?_after, if_neg hne]

/-- A message about another document is of no consequence for this one. -/
theorem receive_other (hm : m.isAboutOther uri) : Alike uri s (s.receive m).session ∧
    (s.receive m).notifications.filter (·.publishesFor uri) = [] := by
  obtain ⟨e, he, hne⟩ := Message.isAboutOther_iff.mp hm
  by_cases hphase : s.phase = .serving
  · rw [receive_event hphase he]
    refine ⟨alike_handle_other hne, ?_⟩
    rcases s.store.publications_cases e with ⟨hnone, _⟩ | ⟨version?, hone⟩
    · simp [handle, hnone]
    · simp [handle, hone, Publication.publishesFor_toNotification, hne]
  · obtain ⟨response?, hreply⟩ := receive_refused hphase he
    rw [hreply]
    exact ⟨.refl uri s, rfl⟩

/-- Any other message means the same to sessions that are alike. -/
theorem receive_own (h : Alike uri s t) (hm : ¬ m.isAboutOther uri) :
    Alike uri (s.receive m).session (t.receive m).session ∧
      (s.receive m).notifications = (t.receive m).notifications ∧
      (s.receive m).response? = (t.receive m).response? := by
  by_cases hblind : m.event? = none ∨ s.phase ≠ .serving
  · have ht : t.receive m = (s.receive m).withStore t.store := by
      rw [← receive_withStore s t.store m hblind, ← h.eq_withStore]
    rw [ht]
    refine ⟨⟨rfl, ?_⟩, rfl, rfl⟩
    rw [store_receive hblind]
    exact h.text
  · obtain ⟨hsome, hserving⟩ := not_or.mp hblind
    obtain ⟨e, he⟩ := Option.ne_none_iff_exists'.mp hsome
    have hphase : s.phase = .serving := not_not.mp hserving
    have huri : e.uri = uri := by
      by_contra hne
      exact hm (Message.isAboutOther_iff.mpr ⟨e, he, hne⟩)
    subst huri
    rw [receive_event hphase he, receive_event (h.phase ▸ hphase) he]
    refine ⟨⟨h.phase, ?_⟩, ?_, ?_⟩
    · change (s.store.after e).get? e.uri = (t.store.after e).get? e.uri
      rw [Store.get?_after, Store.get?_after, h.text]
    · simp only [handle, Store.publications_congr h.text]
    · simp only [handle, Store.answer?_congr h.text]

/-! ## Runs -/

/-- The messages, taken one after another, with what comes of each. -/
def replies (s : Session) : List Message → List (Message × Reply)
  | [] => []
  | m :: ms => (m, s.receive m) :: (s.receive m).session.replies ms

end Session

/-- What is published for a document. -/
def publishedFor (uri : String) (rs : List (Message × Reply)) : List Notification :=
  rs.flatMap fun r => r.2.notifications.filter (·.publishesFor uri)

/-- The messages about a document with their responses. -/
def answersFor (uri : String) (rs : List (Message × Reply)) :
    List (Message × Option (Except Rejection Json)) :=
  (rs.filter (·.1.isAbout uri)).map fun r => (r.1, r.2.response?)

theorem publishedFor_cons (uri : String) (r : Message × Reply) (rs : List (Message × Reply)) :
    publishedFor uri (r :: rs) =
      r.2.notifications.filter (·.publishesFor uri) ++ publishedFor uri rs :=
  List.flatMap_cons ..

theorem answersFor_cons (uri : String) (r : Message × Reply) (rs : List (Message × Reply)) :
    answersFor uri (r :: rs) =
      if r.1.isAbout uri then (r.1, r.2.response?) :: answersFor uri rs else answersFor uri rs := by
  unfold answersFor
  rw [List.filter_cons]
  split <;> rfl

theorem replies_alike {uri : String} (ms : List Message) {s t : Session}
    (h : Session.Alike uri s t) :
    publishedFor uri (s.replies (ms.filter (!·.isAboutOther uri))) =
        publishedFor uri (t.replies ms) ∧
      answersFor uri (s.replies (ms.filter (!·.isAboutOther uri))) =
        answersFor uri (t.replies ms) := by
  induction ms generalizing s t with
  | nil => exact ⟨rfl, rfl⟩
  | cons m ms ih =>
    rw [Session.replies, publishedFor_cons, answersFor_cons]
    by_cases hm : m.isAboutOther uri
    · -- only the second session gets this message
      obtain ⟨halike, hnone⟩ := Session.receive_other (s := t) hm
      have hnot : ¬ m.isAbout uri := Message.not_isAbout_of_isAboutOther hm
      rw [List.filter_cons_of_neg (by simp [hm]), hnone, List.nil_append, if_neg hnot]
      exact ih (h.trans halike)
    · obtain ⟨halike, hnotifications, hresponse⟩ := Session.receive_own h hm
      obtain ⟨hpublished, hanswers⟩ := ih halike
      rw [List.filter_cons_of_pos (by simp [hm]), Session.replies, publishedFor_cons,
        answersFor_cons, hnotifications, hresponse, hpublished, hanswers]
      exact ⟨rfl, rfl⟩

/-- Whatever messages a session is sent: without those about other documents, it publishes the same
for this document in the same order, and answers every message about it in the same way. -/
theorem documents_isolated (s : Session) (ms : List Message) (uri : String) :
    let own := ms.filter (!·.isAboutOther uri)
    publishedFor uri (s.replies own) = publishedFor uri (s.replies ms) ∧
      answersFor uri (s.replies own) = answersFor uri (s.replies ms) :=
  replies_alike ms (.refl uri s)

end Caddyfile.Editor
