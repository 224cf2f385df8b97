import GymLang.Proofs.Server.Republishing

/-!
# Conversations

The law of the server as a client sees it that sends its messages one after the other.
Whatever it sends and replies, after each message it sees of every open document the
problems of the current text, in order and as many as its own settings allow; it is not
asked for settings it has given, and nothing it has changed is kept.

* `Conversation` — the client introduces itself, and each of its messages is handled to
  completion before the next.
* `Conversation.running`, `Conversation.oneByOne` — what holds throughout.
* `lastReport?` — the settings of a client that cannot be asked (`Conversation.shared`).
* `conversation_published` — **the main result**.
-/

namespace GymLang

/-- A message after which the server takes in nothing more. -/
def Message.Ends (m : Message) : Prop :=
  m.body = .shutdown ∨ m.body = .malformed .shutdown ∨ m.body = .exit

/-- The message with which the client reports a change of its configuration. -/
def Server.Event.change (report : Json) : Server.Event :=
  .message ⟨none, .notice (.configurationChanged report)⟩

/-- The report of a change of the configuration. -/
def Server.Event.report? : Server.Event → Option Json
  | .message ⟨none, .notice (.configurationChanged report)⟩ => some report
  | _ => none

/-- The last report of a change of the configuration. -/
def lastReport? (events : List Server.Event) : Option Json :=
  (events.filterMap Server.Event.report?).getLast?

namespace Server

variable {s t : Server} {e : Event} {out : List Outgoing} {uri : Uri} {events : List Event}
variable {client : ClientSupport}

/-- A conversation: the client introduces itself, and then each of its messages is handled
to completion before the next one.  Replies may come at any time, and none of the messages
asks the server to stop. -/
inductive Conversation (client : ClientSupport) : List Event → Prop
  | begins (i : RequestId) : Conversation client [.message ⟨some i, .start client⟩]
  | message (before : List Event) (m : Message) (conversation : Conversation client before)
    (handled : (run {} before).1.tasks = []) (goesOn : ¬ m.Ends) :
    Conversation client (before ++ [.message m])
  | reply (before : List Event) (number : Nat) (r : Reply)
    (conversation : Conversation client before) :
    Conversation client (before ++ [.reply number r])

/-! ## What holds throughout -/

theorem Step.running (h : Step s e t out) (hs : s.phase = .running)
    (hgoesOn : ∀ m, e = .message m → ¬ m.Ends) : t.phase = .running := by
  cases h with
  | noticed n running checked => exact checked.phase_eq.trans hs
  | replied number r uri rest waits checked => exact checked.phase_eq.trans hs
  | begun i client waiting => rfl
  | stopped m running body aside =>
    exact absurd (body.imp_right Or.inl) (hgoesOn m rfl)
  | ended id => exact absurd (.inr (.inr rfl)) (hgoesOn _ rfl)
  | watched | greeted | passed => exact hs

theorem Step.conversing (h : Step s e t out)
    (hs : s.phase = .running ∧ s.session.client = client)
    (hgoesOn : ∀ m, e = .message m → ¬ m.Ends) :
    t.phase = .running ∧ t.session.client = client := by
  refine ⟨h.running hs.1 hgoesOn, (h.client_eq fun hphase => ?_).trans hs.2⟩
  exact nomatch hs.1.symm.trans hphase

namespace Conversation

theorem running (h : Conversation client events) :
    (run {} events).1.phase = .running ∧ (run {} events).1.session.client = client := by
  induction h with
  | begins i => exact ⟨rfl, rfl⟩
  | message before m conversation handled goesOn ih =>
    rw [run_concat]
    exact (step_cases _ _).conversing ih fun m' hm' => by cases hm'; exact goesOn
  | reply before number r conversation ih =>
    rw [run_concat]
    exact (step_cases _ _).conversing ih fun m' hm' => by cases hm'

/-- What the client sees is up to date throughout. -/
theorem upToDate (h : Conversation client events) :
    UpToDate (run {} events).1 (run {} events).2 :=
  upToDate_run events fun hended => nomatch h.running.1.symm.trans hended

theorem oneByOne (h : Conversation client events) : OneByOne events := by
  induction h with
  | begins i =>
    intro before m after hevents
    rcases split_concat (show [] ++ [_] = _ from hevents) with ⟨rfl, -, -⟩ | ⟨more, hmore, -⟩
    · rfl
    · exact absurd hmore (by simp)
  | message before m conversation handled goesOn ih =>
    intro before' m' after hevents
    rcases split_concat hevents with ⟨rfl, -, -⟩ | ⟨more, hmore, -⟩
    · exact handled
    · exact ih before' m' more hmore
  | reply before number r conversation ih =>
    intro before' m' after hevents
    rcases split_concat hevents with ⟨-, he, -⟩ | ⟨more, hmore, -⟩
    · cases he
    · exact ih before' m' more hmore

theorem init {before : List Event} (h : Conversation client (before ++ [e])) (hne : before ≠ []) :
    Conversation client before := by
  generalize hevents : before ++ [e] = events at h
  cases h with
  | begins i => exact absurd (List.append_singleton_inj.1 (show _ = [] ++ [_] from hevents)).1 hne
  | message before' m conversation handled goesOn =>
    rw [(List.append_singleton_inj.1 hevents).1]
    exact conversation
  | reply before' number r conversation =>
    rw [(List.append_singleton_inj.1 hevents).1]
    exact conversation

/-- What a conversation starts with is a conversation. -/
theorem of_append {before after : List Event} (h : Conversation client (before ++ after))
    (hne : before ≠ []) : Conversation client before := by
  induction after using List.reverseRecOn with
  | nil => rwa [List.append_nil] at h
  | append_singleton more e ih =>
    rw [← List.append_assoc] at h
    exact ih (h.init (by simp [hne]))

theorem ne_nil (h : Conversation client events) : events ≠ [] := by
  cases h <;> simp

theorem head (h : Conversation client events) :
    ∃ i, events.head? = some (.message ⟨some i, .start client⟩) := by
  induction h with
  | begins i => exact ⟨i, rfl⟩
  | message before m conversation handled goesOn ih =>
    rwa [List.head?_append_of_ne_nil _ conversation.ne_nil]
  | reply before number r conversation ih =>
    rwa [List.head?_append_of_ne_nil _ conversation.ne_nil]

end Conversation

/-! ## Settings that are reported -/

/-- What is reported while the conversation is running is taken in. -/
theorem takenIn?_of_report? {report : Json} (h : e.report? = some report)
    (hs : s.phase = .running) : s.takenIn? e = some (.configurationChanged report) := by
  unfold Event.report? at h
  split at h
  · cases h
    exact takenIn?_notice hs _
  · cases h

theorem report?_of_takenIn? (h : s.takenIn? e = none) (hs : s.phase = .running) :
    e.report? = none := by
  cases hreport : e.report? with
  | none => rfl
  | some report => exact nomatch h.symm.trans (takenIn?_of_report? hreport hs)

/-- A report replaces the settings of a client that cannot be asked, and nothing else
does. -/
theorem Step.shared (h : Step s e t out) (hs : s.phase = .running) (hwell : WellFormed s)
    (hclient : s.session.client.configuration = false) :
    t.session.settings.shared =
      (e.report?.map Settings.ofReport).getD s.session.settings.shared := by
  cases h with
  | noticed n running checked =>
    rw [checked.session_eq, taking, Session.shared_notify hclient]
    cases n <;> rfl
  | replied number r uri rest waits checked =>
    rw [hwell.askable_of_lookup waits] at hclient
    cases hclient
  | stopped m running body aside =>
    obtain ⟨id, about⟩ := m
    rcases (show about = .shutdown ∨ about = .malformed .shutdown from body) with rfl | rfl <;>
      cases id <;> rfl
  | begun i client waiting =>
    rw [waiting] at hs
    cases hs
  | ended id => cases id <;> rfl
  | watched | greeted => rfl
  | passed e notice reply aside =>
    rw [report?_of_takenIn? notice hs]
    rfl

theorem lastReport?_concat (events : List Event) (e : Event) :
    lastReport? (events ++ [e]) = e.report?.or (lastReport? events) := by
  rw [lastReport?, List.filterMap_append, List.getLast?_append, lastReport?]
  cases hreport : e.report? with
  | none => rw [List.filterMap_cons_none hreport]; rfl
  | some report => rw [List.filterMap_cons_some hreport]; rfl

/-- **What a client that cannot be asked has last reported** holds for all documents. -/
theorem Conversation.shared (h : Conversation client events)
    (hclient : client.configuration = false) :
    (run {} events).1.session.settings.shared =
      ((lastReport? events).map Settings.ofReport).getD {} := by
  have hstep : ∀ {before : List Event} (e : Event), Conversation client before →
      (run {} before).1.session.settings.shared =
        ((lastReport? before).map Settings.ofReport).getD {} →
      (run {} (before ++ [e])).1.session.settings.shared =
        ((lastReport? (before ++ [e])).map Settings.ofReport).getD {} := by
    intro before e hbefore ih
    obtain ⟨hrunning, hsame⟩ := hbefore.running
    rw [run_concat, (step_cases _ e).shared hrunning (wellFormed_run before) (hsame ▸ hclient),
      ih, lastReport?_concat]
    cases e.report? <;> rfl
  induction h with
  | begins i => rfl
  | message before m conversation handled goesOn ih => exact hstep _ conversation ih
  | reply before number r conversation ih => exact hstep _ conversation ih

/-! ## Changes of the configuration -/

/-- With a change of the configuration, all open documents are checked. -/
theorem Step.checks_openDocuments {report : Json} (h : Step s (.change report) t out)
    (hs : s.phase = .running) (htasks : s.tasks = []) :
    Checks s.session.openDocuments t out := by
  rw [Event.change] at h
  cases h with
  | noticed n running checked =>
    have hwithdrawn : s.withdrawn (.configurationChanged report) = [] := rfl
    rw [hwithdrawn, List.append_nil]
    exact checked.checks htasks
  | stopped m running body aside => rcases body with hbody | hbody <;> cases hbody
  | passed e notice reply aside => exact nomatch (takenIn?_notice hs _).symm.trans notice

/-- **A change of the configuration publishes everything anew.**  Once it has been handled
to completion, each open document has been published once, in order, with its version and
the problems that its settings now allow. -/
theorem Conversation.republished {before replies : List Event} {report : Json}
    (h : Conversation client (before ++ .change report :: replies))
    (hreplies : ∀ e ∈ replies, ∃ number r, e = .reply number r)
    (hdone : (run {} (before ++ .change report :: replies)).1.tasks = []) :
    (published ((run {} before).1.run (.change report :: replies)).2).map Publication.uri =
        (run {} before).1.session.openDocuments ∧
      ∀ p ∈ published ((run {} before).1.run (.change report :: replies)).2,
        (run {} (before ++ .change report :: replies)).1.knownPublication? p.uri = some p := by
  have hne : before ≠ [] := by
    rintro rfl
    obtain ⟨i, hi⟩ := h.head
    cases hi
  have hrunning := (h.of_append hne).running.1
  have htasks := h.oneByOne before _ replies rfl
  have hstep := step_cases (run {} before).1 (.change report)
  have hknown : ∀ uri ∈ (run {} before).1.session.openDocuments,
      ∃ p, (run {} (before ++ .change report :: replies)).1.knownPublication? uri = some p := by
    intro uri huri
    have hclosed : (run {} before).1.takenIn? (.change report) ≠ some (.closed uri) := by
      rw [Event.change, takenIn?_notice hrunning]
      exact fun h => by cases h
    have hopen : (run {} (before ++ .change report :: replies)).1.session.isOpen uri = true := by
      rw [run_append, run_cons]
      exact isOpen_run hreplies (hstep.isOpen hclosed (Session.mem_openDocuments.1 huri))
    have hpending : uri ∉ (run {} (before ++ .change report :: replies)).1.pending := by
      rw [pending, hdone]
      exact List.not_mem_nil
    obtain ⟨p, hp, -⟩ := h.upToDate.shown uri hopen hpending
    exact ⟨p, hp⟩
  rw [run_append] at hdone hknown ⊢
  have hserial := (Serial.of_nil htasks).step (fun _ _ => htasks) hstep
  refine published_of_checks ?_ hdone hknown
  exact checks_run (hstep.checks_openDocuments hrunning htasks)
    ((wellFormed_run before).step hstep) hserial Std.ExtTreeMap.nodup_keys hreplies

/-! ## Main result -/

/-- **The law of a conversation.**  When a message has been handled to completion, the last
that was published for an open document has its version and its first problems, as many as
its settings allow.  These are the settings of the client's last report if it cannot be
asked, and otherwise those of its reply to the latest question about the document, which
was asked since the configuration last changed and since the document was last absent.

A client that cannot be asked is never asked, and between two questions about a document
it was closed or the configuration changed.  And a change of the configuration, once
handled to completion, has published each open document once, in order. -/
theorem conversation_published (client : ClientSupport) (events : List Event)
    (h : Conversation client events) (hdone : (run {} events).1.tasks = []) :
    (∀ uri d, (run {} events).1.session.documents[uri]? = some d →
      ∃ settings, lastPublication uri (run {} events).2 = some ⟨uri, some d.version,
          (Document.problems Engine.standard d.text).take settings.maxProblems⟩ ∧
        (client.configuration = false →
          settings = ((lastReport? events).map Settings.ofReport).getD {}) ∧
        (client.configuration = true →
          ∃ number r, .ask number (.settings uri) ∈ (run {} events).2 ∧
            LatestQuestion events uri number ∧ AskedSinceChange events number ∧
            AskedSinceAbsent events uri number ∧ Kept uri number r events ∧
            settings = r.settings)) ∧
    (client.configuration = false → ∀ number q, .ask number q ∉ (run {} events).2) ∧
    (∀ uri first second, .ask first (.settings uri) ∈ (run {} events).2 →
      .ask second (.settings uri) ∈ (run {} events).2 → first < second →
      ∃ before e after, events = before ++ e :: after ∧ Drops (run {} before).1 e uri ∧
        first < (run {} before).1.asked ∧ (run {} before).1.asked ≤ second) ∧
    (∀ before report replies after, events = before ++ .change report :: (replies ++ after) →
      (∀ e ∈ replies, ∃ number r, e = .reply number r) →
      (run {} (before ++ .change report :: replies)).1.tasks = [] →
      (published ((run {} before).1.run (.change report :: replies)).2).map Publication.uri =
          (run {} before).1.session.openDocuments ∧
        ∀ p ∈ published ((run {} before).1.run (.change report :: replies)).2,
          (run {} (before ++ .change report :: replies)).1.knownPublication? p.uri = some p) := by
  have hone := h.oneByOne
  obtain ⟨hrunning, hclient⟩ := h.running
  refine ⟨fun uri d hd => ?_, fun hnever number q hask => ?_,
    fun uri first second => drops_between hone, ?_⟩
  · have hpending : uri ∉ (run {} events).1.pending := by
      rw [pending, hdone]
      exact List.not_mem_nil
    obtain ⟨p, hp, hlast⟩ := h.upToDate.shown uri (Session.isOpen_iff.2 ⟨d, hd⟩) hpending
    obtain ⟨settings, hknown, hp⟩ := knownPublication?_eq_some hp
    refine ⟨settings, ?_, fun hnever => ?_, fun hasked => ?_⟩
    · rw [hlast, ← hp, Session.publication?, hd]
      rfl
    · rw [Session.settingsFor_of_shared (hclient ▸ hnever), h.shared hnever] at hknown
      cases hknown
      rfl
    · have hasked' : (run {} events).1.session.client.configuration = true := hclient ▸ hasked
      rw [Session.settingsFor_eq_ready_iff hasked'] at hknown
      obtain ⟨number, r, hkept, hsettings⟩ := kept_run hasked' hknown
      exact ⟨number, r, hkept.asked, hkept.latest hone, hkept.askedSinceChange hone,
        hkept.askedSinceAbsent hone, hkept, hsettings⟩
  · have hasked := (asked_run hask).2
    rw [hclient, hnever] at hasked
    cases hasked
  · intro before report replies after hevents hreplies hdone'
    rw [← List.cons_append, ← List.append_assoc] at hevents
    subst hevents
    exact (h.of_append (by simp)).republished hreplies hdone'

/-- A client is asked about a document when it opens it, and again when its configuration
changes. -/
def askedAgain : List Event :=
  [.message ⟨some (.number 1), .start { configuration := true }⟩,
    .message ⟨none, .notice (.opened ⟨"u", "gymlang", 1, ['?', '\n', '?']⟩)⟩,
    .reply 0 (.value (.array [.array [.nat 1]])),
    .change .null, .reply 1 (.value (.array [.array [.nat 2]]))]

theorem conversation_askedAgain : Conversation { configuration := true } askedAgain := by
  have hopened : Conversation { configuration := true } (askedAgain.take 2) :=
    .message (askedAgain.take 1) _ (.begins _) (by decide) (by simp [Message.Ends])
  have hreplied : Conversation { configuration := true } (askedAgain.take 3) :=
    .reply (askedAgain.take 2) _ _ hopened
  have hchanged : Conversation { configuration := true } (askedAgain.take 4) :=
    .message (askedAgain.take 3) _ hreplied (by decide) (by simp [Message.Ends])
  exact .reply (askedAgain.take 4) _ _ hchanged

/-- The second answer holds. -/
theorem conversation_published_askedAgain :
    lastPublication "u" (run {} askedAgain).2 = some ⟨"u", some 1,
      (Document.problems Engine.standard ['?', '\n', '?']).take 2⟩ := by
  obtain ⟨settings, hlast, -, hasked⟩ := (conversation_published _ askedAgain
    conversation_askedAgain (by decide)).1 "u" ⟨['?', '\n', '?'], 1⟩ (by decide)
  obtain ⟨number, r, -, -, -, -, hkept, rfl⟩ := hasked rfl
  have hsecond : Kept "u" 1 (.value (.array [.array [.nat 2]])) askedAgain :=
    .stored (askedAgain.take 4) [] (by decide) (by decide)
  obtain ⟨-, rfl⟩ := hkept.unique hsecond
  exact hlast

end Server
end GymLang
