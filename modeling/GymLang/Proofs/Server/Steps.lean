import GymLang.Proofs.Session.Notices
import GymLang.Server.Basic

/-!
# What a step of the server can do

The server is a function of its state and of what happens; its theory is about runs in
which anything may happen at any time.  This module says once what a single step can do.

* `pending`, `knownPublication?` — what has still to be checked, and what is known of a document.
* `Checked` — how far a list of documents is checked, and what is sent on the way
  (`check_cases`).
* `Step` — every kind of step, with all that it does (`step_cases`).
* `Step.not_ended`, `Step.not_ended_of` — when the conversation is over.
-/

namespace GymLang

/-- The documents that a task has still to check. -/
def Task.documents : Task → List Uri
  | .watch => []
  | .check uri rest => uri :: rest

/-- Messages that neither publish nor ask anything. -/
def Outgoing.IsAside : Outgoing → Prop
  | .response _ _ => True
  | .greeting => True
  | .publish _ => False
  | .ask _ _ => False

namespace Server

variable {s t : Server} {e : Event} {out : List Outgoing} {uri : Uri} {uris : List Uri}
variable {number : Nat} {task : Task}

/-! ## Checking documents -/

/-- The documents that the waiting tasks have still to check. -/
def pending (s : Server) : List Uri := s.tasks.flatMap fun waiting => waiting.2.documents

/-- The problems of an open document, if its settings are known. -/
def knownPublication? (s : Server) (uri : Uri) : Option Publication :=
  match s.session.settingsFor uri with
  | .ready settings => s.session.publication? Engine.standard uri settings
  | .fetch => none

/-- Publishes the problems of a document if its settings are known. -/
def publishKnown (s : Server) (uri : Uri) : List Outgoing :=
  (s.knownPublication? uri).toList.map .publish

/-- How documents are checked: all of them, or those in front of the first one whose
settings have to be asked for. -/
inductive Checked (s : Server) (uris : List Uri) : Server → List Outgoing → Prop
  | all (known : ∀ u ∈ uris, ∃ settings, s.session.settingsFor u = .ready settings) :
    Checked s uris s (uris.flatMap s.publishKnown)
  | upTo (done : List Uri) (u : Uri) (rest : List Uri) (split : uris = done ++ u :: rest)
    (known : ∀ u ∈ done, ∃ settings, s.session.settingsFor u = .ready settings)
    (unknown : s.session.settingsFor u = .fetch) :
    Checked s uris (s.suspend (.check u rest)).1
      (done.flatMap s.publishKnown ++ (s.suspend (.check u rest)).2)

theorem check_cases (s : Server) (uris : List Uri) :
    Checked s uris (s.check uris).1 (s.check uris).2 := by
  induction uris with
  | nil => exact .all fun u hu => absurd hu List.not_mem_nil
  | cons uri rest ih =>
    rw [check]
    split
    · rename_i settings hknown
      have hpublish : s.publishKnown uri = s.publish uri settings := by
        rw [publishKnown, knownPublication?, hknown, publish]
      have hmore : ∀ {l : List Uri},
          (∀ u ∈ l, ∃ settings, s.session.settingsFor u = .ready settings) →
          ∀ u ∈ uri :: l, ∃ settings, s.session.settingsFor u = .ready settings := by
        intro l h u hu
        rcases List.mem_cons.1 hu with rfl | hu
        · exact ⟨settings, hknown⟩
        · exact h u hu
      rw [← hpublish]
      change Checked s _ (s.check rest).1 (s.publishKnown uri ++ (s.check rest).2)
      generalize (s.check rest).1 = t, (s.check rest).2 = out at ih
      cases ih with
      | all known => exact .all (hmore known)
      | upTo done u left split known unknown =>
        have := Checked.upTo (uri :: done) u left (congrArg (uri :: ·) split) (hmore known) unknown
        rwa [List.flatMap_cons, List.append_assoc] at this
    · rename_i hunknown
      exact .upTo [] uri rest rfl (fun u hu => absurd hu List.not_mem_nil) hunknown

theorem Checked.session_eq (h : Checked s uris t out) : t.session = s.session := by
  cases h <;> rfl

theorem Checked.phase_eq (h : Checked s uris t out) : t.phase = s.phase := by
  cases h <;> rfl

/-- A document whose settings have to be asked for belongs to a client that can be asked. -/
theorem configuration_of_fetch (h : s.session.settingsFor uri = .fetch) :
    s.session.client.configuration = true := by
  rw [Session.settingsFor, SettingsStore.lookup] at h
  split at h
  · assumption
  · cases h

/-! ## Steps -/

/-- The state in which documents are checked after a notice. -/
def taking (s : Server) (n : Notice) : Server := { s with session := s.session.notify n }

/-- What is withdrawn with a notice: the problems of the document it closes. -/
def withdrawn (s : Server) : Notice → List Outgoing
  | .closed uri => if s.session.isOpen uri then [.publish ⟨uri, none, []⟩] else []
  | _ => []

theorem mem_withdrawn {n : Notice} {o : Outgoing} (h : o ∈ s.withdrawn n) :
    ∃ uri, n = .closed uri ∧ o = .publish ⟨uri, none, []⟩ := by
  cases n with
  | closed uri =>
    rw [withdrawn] at h
    split at h
    · exact ⟨uri, rfl, List.mem_singleton.1 h⟩
    · exact absurd h List.not_mem_nil
  | opened _ | changed _ _ _ | configurationChanged _ => exact absurd h List.not_mem_nil

/-- The state without the task that waits for the reply to a question. -/
def without (s : Server) (number : Nat) : Server :=
  { s with tasks := s.tasks.filter (·.1 != number) }

/-- The state in which a task is taken up again with the settings of its document. -/
def storing (s : Server) (number : Nat) (uri : Uri) (settings : Settings) : Server :=
  { s.without number with session := s.session.storeSettings uri settings }

@[simp] theorem documents_storing (s : Server) (number : Nat) (uri : Uri) (settings : Settings) :
    (s.storing number uri settings).session.documents = s.session.documents :=
  Session.documents_storeSettings s.session uri settings

@[simp] theorem isOpen_storing (s : Server) (number : Nat) (uri u : Uri) (settings : Settings) :
    (s.storing number uri settings).session.isOpen u = s.session.isOpen u :=
  Session.isOpen_of_documents (by rw [documents_storing])

/-- The notice that is taken in with an event, if there is one. -/
def takenIn? (s : Server) : Event → Option Notice
  | .message ⟨none, .notice n⟩ => if s.phase = .running then some n else none
  | _ => none

/-- What a step can do. -/
inductive Step (s : Server) : Event → Server → List Outgoing → Prop
  /-- A notice is taken in, and the documents it touches are checked. -/
  | noticed (n : Notice) {t : Server} {out : List Outgoing} (running : s.phase = .running)
    (checked : Checked (s.taking n) (s.session.toCheck n) t out) :
    Step s (.message ⟨none, .notice n⟩) t (out ++ s.withdrawn n)
  /-- The settings of a document come in, and it is checked, and then further ones. -/
  | replied (number : Nat) (r : Reply) (uri : Uri) (rest : List Uri) {t : Server}
    {out : List Outgoing} (waits : s.tasks.lookup number = some (.check uri rest))
    (checked : Checked (s.storing number uri r.settings) rest t out) :
    Step s (.reply number r) t
      ((s.storing number uri r.settings).publish uri r.settings ++ out)
  /-- The client has agreed to report changes of its configuration. -/
  | watched (number : Nat) (r : Reply) (waits : s.tasks.lookup number = some .watch) :
    Step s (.reply number r) (s.without number) []
  /-- The client introduces itself. -/
  | begun (i : RequestId) (client : ClientSupport) (waiting : s.phase = .waiting) :
    Step s (.message ⟨some i, .start client⟩)
      { s with phase := .running, session := s.session.withClient client }
      [.response i (.ok (.offer client))]
  /-- The client is asked to report changes of its configuration. -/
  | greeted (running : s.phase = .running)
    (configuration : s.session.client.configuration = true) :
    Step s (.message ⟨none, .started⟩) (s.suspend .watch).1 (.greeting :: (s.suspend .watch).2)
  /-- The client asks the server to stop. -/
  | stopped (m : Message) (running : s.phase = .running)
    (body : m.body = .shutdown ∨ m.body = .malformed .shutdown) {out : List Outgoing}
    (aside : ∀ o ∈ out, o.IsAside) :
    Step s (.message m) { s with phase := .stopped } out
  /-- The conversation ends, and what is left undone stays undone. -/
  | ended (id : Option RequestId) :
    Step s (.message ⟨id, .exit⟩) { s with phase := .ended, tasks := [] } []
  /-- Nothing changes, and at most a response is sent. -/
  | passed (e : Event) (notice : s.takenIn? e = none)
    (reply : ∀ number r, e = .reply number r → s.tasks.lookup number = none)
    {out : List Outgoing} (aside : ∀ o ∈ out, o.IsAside) : Step s e s out

theorem takenIn?_of_phase (h : s.phase ≠ .running) (e : Event) : s.takenIn? e = none := by
  unfold takenIn?
  split
  · rw [if_neg h]
  · rfl

theorem isAside_respond (id : Option RequestId) (r : Except Refusal Result) :
    ∀ o ∈ respond id r, o.IsAside := by
  intro o ho
  obtain ⟨i, -, rfl⟩ := List.mem_map.1 ho
  exact trivial

theorem isAside_nil : ∀ o ∈ ([] : List Outgoing), o.IsAside :=
  fun _ h => absurd h List.not_mem_nil

/-- A message that is no notice to be taken in, and that changes nothing. -/
theorem Step.passed_message {m : Message} (notice : s.takenIn? (.message m) = none)
    (aside : ∀ o ∈ out, o.IsAside) : Step s (.message m) s out :=
  .passed _ notice (fun _ _ h => nomatch h) aside

theorem receiveStart_cases (s : Server) (id : Option RequestId) (client? : Option ClientSupport)
    (m : Message) (hid : m.id = id)
    (hbody : ∀ client, client? = some client → m.body = .start client)
    (hnotice : s.takenIn? (.message m) = none) :
    Step s (.message m) (s.receiveStart id client?).1 (s.receiveStart id client?).2 := by
  unfold receiveStart
  split
  · rename_i hwaiting
    split
    · exact .passed_message hnotice isAside_nil
    · exact .passed_message hnotice (isAside_respond (some _) _)
    · rename_i i client
      obtain ⟨id, body⟩ := m
      obtain rfl : body = .start client := hbody client rfl
      subst hid
      exact .begun i client hwaiting
  · exact .passed_message hnotice (isAside_respond id _)

theorem receiveRunning_cases (s : Server) (m : Message) (hrunning : s.phase = .running) :
    Step s (.message m) (s.receiveRunning m).1 (s.receiveRunning m).2 := by
  obtain ⟨id, body⟩ := m
  cases body with
  | started =>
    rw [receiveRunning]
    cases id with
    | some i => exact .passed_message rfl (isAside_respond (some i) _)
    | none =>
      simp only [Option.isSome_none, Bool.false_eq_true, if_false, start]
      split
      · rename_i hclient
        exact .greeted hrunning hclient
      · refine .passed_message rfl fun o ho => ?_
        rw [List.mem_singleton.1 ho]
        exact trivial
  | notice n =>
    rw [receiveRunning]
    cases id with
    | some i => exact .passed_message rfl (isAside_respond (some i) _)
    | none => exact .noticed n hrunning (check_cases (s.taking n) (s.session.toCheck n))
  | malformed addressee =>
    cases addressee with
    | shutdown => exact .stopped _ hrunning (.inr rfl) (isAside_respond id _)
    | start | query => exact .passed_message (by cases id <;> rfl) (isAside_respond id _)
  | shutdown => exact .stopped _ hrunning (.inl rfl) (isAside_respond id _)
  | query q => exact .passed_message (by cases id <;> rfl) (isAside_respond id _)
  | unserved | unused => exact .passed_message (by cases id <;> rfl) (isAside_respond id _)
  | start client | exit | cancel | unknown optional =>
    exact .passed_message (by cases id <;> rfl) isAside_nil

/-- A message that is not looked at in every phase. -/
theorem receivePhase_cases (s : Server) (m : Message) :
    Step s (.message m)
      (if s.phase = .running then s.receiveRunning m
        else (s, respond m.id (.error (notRunning s.phase)))).1
      (if s.phase = .running then s.receiveRunning m
        else (s, respond m.id (.error (notRunning s.phase)))).2 := by
  split
  · rename_i hrunning
    exact receiveRunning_cases s m hrunning
  · rename_i hphase
    exact .passed_message (takenIn?_of_phase hphase _) (isAside_respond m.id _)

/-- **What a step does.**  Every step of the server is of one of the kinds. -/
theorem step_cases (s : Server) (e : Event) : Step s e (s.step e).1 (s.step e).2 := by
  cases e with
  | reply number r =>
    rw [step, resume]
    cases hlookup : s.tasks.lookup number with
    | none =>
      refine .passed _ rfl (fun number' r' h => ?_) isAside_nil
      cases h
      exact hlookup
    | some task =>
      cases task with
      | watch => exact .watched number r hlookup
      | check uri rest =>
        exact .replied number r uri rest hlookup
          (check_cases (s.storing number uri r.settings) rest)
  | message m =>
    obtain ⟨id, body⟩ := m
    rw [step, receive]
    split
    · rename_i hended
      have hphase : s.phase ≠ .running := fun h => nomatch hended.symm.trans h
      exact .passed_message (takenIn?_of_phase hphase _) isAside_nil
    · cases body with
      | exit => exact .ended id
      | unknown optional =>
        refine .passed_message (by cases id <;> rfl) ?_
        cases optional
        · exact isAside_respond id _
        · exact isAside_nil
      | cancel => exact .passed_message (by cases id <;> rfl) (isAside_respond id _)
      | start client =>
        exact receiveStart_cases s id (some client) _ rfl
          (fun c h => by rw [Option.some.inj h]) (by cases id <;> rfl)
      | malformed addressee =>
        cases addressee with
        | start =>
          exact receiveStart_cases s id none _ rfl (fun c h => nomatch h) (by cases id <;> rfl)
        | shutdown | query => exact receivePhase_cases s _
      | started | shutdown | query q | notice n | unused | unserved =>
        exact receivePhase_cases s _

/-- The end is final. -/
theorem Step.not_ended (h : Step s e t out) (ht : t.phase ≠ .ended) : s.phase ≠ .ended := by
  intro hs
  cases h with
  | noticed n running checked => exact nomatch running.symm.trans hs
  | replied number r uri rest waits checked => exact ht (checked.phase_eq.trans hs)
  | watched number r waits => exact ht hs
  | begun i client waiting => exact nomatch waiting.symm.trans hs
  | greeted running configuration => exact ht hs
  | stopped m running body aside => exact nomatch running.symm.trans hs
  | ended id => exact ht rfl
  | passed e notice reply aside => exact ht hs

/-- A message that ends the conversation. -/
def Event.IsExit : Event → Prop
  | .message m => m.body = .exit
  | .reply _ _ => False

theorem Step.not_ended_of (h : Step s e t out) (he : ¬ e.IsExit) (hs : s.phase ≠ .ended) :
    t.phase ≠ .ended := by
  intro ht
  cases h with
  | noticed n running checked => exact hs (checked.phase_eq.symm.trans ht)
  | replied number r uri rest waits checked => exact hs (checked.phase_eq.symm.trans ht)
  | watched number r waits => exact hs ht
  | begun i client waiting => exact nomatch ht
  | greeted running configuration => exact hs ht
  | stopped m running body aside => exact nomatch ht
  | ended id => exact he rfl
  | passed e notice reply aside => exact hs ht

end Server
end GymLang
