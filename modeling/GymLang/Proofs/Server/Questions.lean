import GymLang.Proofs.Server.Freshness
import GymLang.Proofs.Server.UpToDate

/-!
# One message after the other

A client that waits with its next message until the server has nothing left to do asks for
no surprises: a question is answered before anything else happens, so an answer is never
out of date, and nothing is asked twice without need.

* `Step.asks` — what is asked in a step, and why.
* `OneByOne` — every message is handled to completion before the next one.
* `Kept.latest`, `Kept.askedSinceChange`, `Kept.askedSinceAbsent` — in such a run, the
  settings that are kept for a document answer the latest question about it, which was
  asked since the last change of the configuration and since the document was opened.
* `drops_between` — between two questions about a document, what was kept was dropped.
-/

namespace GymLang
namespace Server

variable {s t : Server} {e : Event} {sent out : List Outgoing} {uri u : Uri} {uris : List Uri}
variable {events : List Event} {number : Nat} {task : Task} {q : Question} {r : Reply}

/-! ## What is asked -/

theorem Checked.asks (h : Checked s uris t out) (hask : .ask number q ∈ out) :
    number = s.asked ∧ ∃ u rest, q = .settings u ∧ (number, .check u rest) ∈ t.tasks ∧
      t.session.settingsFor u = .fetch := by
  have hnone : ∀ l : List Uri, .ask number q ∉ l.flatMap s.publishKnown := by
    intro l hmem
    obtain ⟨u, -, hmem⟩ := List.mem_flatMap.1 hmem
    obtain ⟨p, -, hp⟩ := List.mem_map.1 hmem
    cases hp
  cases h with
  | all known => exact absurd hask (hnone uris)
  | upTo done u rest split known unknown =>
    rcases List.mem_append.1 hask with hask | hask
    · exact absurd hask (hnone done)
    · cases List.mem_singleton.1 hask
      exact ⟨rfl, u, rest, rfl, List.mem_cons_self, unknown⟩

/-- **What is asked.**  A question gets the next number, and its task waits.  Settings are
asked for only if they are not known. -/
theorem Step.asks (h : Step s e t out) (hask : .ask number q ∈ out) :
    number = s.asked ∧ ∃ task, (number, task) ∈ t.tasks ∧ q = task.question ∧
      ∀ u, q = .settings u → t.session.settingsFor u = .fetch := by
  have hchecked : ∀ (s' : Server) {uris : List Uri} {out : List Outgoing}, Checked s' uris t out →
      .ask number q ∈ out → number = s'.asked ∧ ∃ task, (number, task) ∈ t.tasks ∧
        q = task.question ∧ ∀ u, q = .settings u → t.session.settingsFor u = .fetch := by
    intro s' uris out checked hask
    obtain ⟨hnumber, u, rest, rfl, hmem, hfetch⟩ := checked.asks hask
    exact ⟨hnumber, .check u rest, hmem, rfl, fun v hv => by cases hv; exact hfetch⟩
  cases h with
  | noticed n running checked =>
    rcases List.mem_append.1 hask with hask | hask
    · exact hchecked (s.taking n) checked hask
    · obtain ⟨u, -, h⟩ := mem_withdrawn hask
      cases h
  | replied number' r uri rest waits checked =>
    rcases List.mem_append.1 hask with hask | hask
    · obtain ⟨p, -, hp⟩ := List.mem_map.1 hask
      cases hp
    · exact hchecked (s.storing number' uri r.settings) checked hask
  | greeted running configuration =>
    rcases List.mem_cons.1 hask with hask | hask
    · cases hask
    · cases List.mem_singleton.1 hask
      exact ⟨rfl, .watch, List.mem_cons_self, rfl, fun u hu => by cases hu⟩
  | begun i client waiting => cases List.mem_singleton.1 hask
  | watched | ended => exact absurd hask List.not_mem_nil
  | stopped m running body aside => exact absurd (aside _ hask) id
  | passed e notice reply aside => exact absurd (aside _ hask) id

/-- Questions have been given numbers, and are asked of a client that can be asked. -/
theorem asked_run (hask : .ask number q ∈ (run {} events).2) :
    number < (run {} events).1.asked ∧
      (run {} events).1.session.client.configuration = true := by
  induction events using List.reverseRecOn with
  | nil => exact absurd hask List.not_mem_nil
  | append_singleton before e ih =>
    have hstep := step_cases (run {} before).1 e
    rw [run_concat] at hask ⊢
    rcases List.mem_append.1 hask with hask | hask
    · obtain ⟨hlt, hclient⟩ := ih hask
      refine ⟨Nat.lt_of_lt_of_le hlt hstep.asked_le, ?_⟩
      rw [hstep.client_eq fun hphase => ?_]
      · exact hclient
      · rw [(wellFormed_run before).untouched hphase] at hlt
        exact Nat.not_lt_zero _ hlt
    · obtain ⟨rfl, task, hmem, -, -⟩ := hstep.asks hask
      have ht := (wellFormed_run before).step hstep
      exact ⟨ht.numbered _ hmem, ht.askable (List.ne_nil_of_mem hmem)⟩

/-! ## Runs in which messages wait -/

/-- Every message is handled to completion before the next one. -/
def OneByOne (events : List Event) : Prop :=
  ∀ before m after, events = before ++ .message m :: after → (run {} before).1.tasks = []

theorem OneByOne.of_append {before after : List Event} (h : OneByOne (before ++ after)) :
    OneByOne before :=
  fun first m rest hbefore => h first m (rest ++ after) (by rw [hbefore, List.append_assoc]; rfl)

theorem OneByOne.tasks_eq_nil {before : List Event} {m : Message}
    (h : OneByOne (before ++ [.message m])) : (run {} before).1.tasks = [] :=
  h before m [] rfl

/-- At most one task waits.  It waits for the last question that was asked, and the
documents that it has still to check are open. -/
structure Serial (s : Server) : Prop where
  single : ∀ waiting ∈ s.tasks, s.tasks = [waiting]
  last : ∀ waiting ∈ s.tasks, s.asked = waiting.1 + 1
  isOpen : ∀ waiting ∈ s.tasks, ∀ uri ∈ waiting.2.documents, s.session.isOpen uri = true

namespace Serial

theorem of_nil (h : s.tasks = []) : Serial s := by
  have hnone : ∀ waiting, waiting ∉ s.tasks := fun waiting hwaiting => by
    rw [h] at hwaiting
    exact List.not_mem_nil hwaiting
  exact ⟨fun _ hmem => absurd hmem (hnone _), fun _ hmem => absurd hmem (hnone _),
    fun _ hmem => absurd hmem (hnone _)⟩

/-- With the task that is taken up again, nothing waits any more. -/
theorem tasks_without (h : Serial s) (hlookup : s.tasks.lookup number = some task) :
    (s.without number).tasks = [] := by
  rw [without, h.single _ (mem_tasks_of_lookup hlookup)]
  simp

theorem suspend (h : s.tasks = []) (hopen : ∀ uri ∈ task.documents, s.session.isOpen uri = true) :
    Serial (s.suspend task).1 := by
  have htasks : (s.suspend task).1.tasks = [(s.asked, task)] := by rw [Server.suspend, h]
  have honly : ∀ waiting ∈ (s.suspend task).1.tasks, waiting = (s.asked, task) :=
    fun waiting hwaiting => List.mem_singleton.1 (htasks ▸ hwaiting)
  constructor
  · intro waiting hwaiting
    rw [honly waiting hwaiting, htasks]
  · intro waiting hwaiting
    rw [honly waiting hwaiting]
    rfl
  · intro waiting hwaiting uri huri
    rw [honly waiting hwaiting] at huri
    exact hopen uri huri

theorem checked (h : s.tasks = []) (hopen : ∀ uri ∈ uris, s.session.isOpen uri = true)
    (hchecked : Checked s uris t out) : Serial t := by
  cases hchecked with
  | all known => exact of_nil h
  | upTo done u rest split known unknown =>
    exact suspend h fun uri huri => hopen uri (split ▸ List.mem_append_right done huri)

theorem step (h : Serial s) (hmessage : ∀ m, e = .message m → s.tasks = [])
    (hstep : Step s e t out) : Serial t := by
  cases hstep with
  | noticed n running checked =>
    exact Serial.checked (s := s.taking n) (hmessage _ rfl)
      (fun uri huri => Session.isOpen_of_mem_toCheck huri) checked
  | replied number r uri rest waits checked =>
    refine Serial.checked (s := s.storing number uri r.settings) (h.tasks_without waits)
      (fun u hu => ?_) checked
    exact (isOpen_storing ..).trans
      (h.isOpen _ (mem_tasks_of_lookup waits) u (List.mem_cons_of_mem uri hu))
  | watched number r waits => exact of_nil (h.tasks_without waits)
  | greeted running configuration =>
    exact suspend (hmessage _ rfl) fun uri huri => absurd huri List.not_mem_nil
  | begun i client waiting => exact of_nil (hmessage _ rfl)
  | stopped m running body aside => exact of_nil (hmessage m rfl)
  | ended id => exact of_nil rfl
  | passed e notice reply aside => exact h

end Serial

theorem OneByOne.serial (h : OneByOne events) : Serial (run {} events).1 := by
  induction events using List.reverseRecOn with
  | nil => exact .of_nil rfl
  | append_singleton before e ih =>
    rw [run_concat]
    refine (ih h.of_append).step (fun m hm => ?_) (step_cases _ e)
    subst hm
    exact h.tasks_eq_nil

/-! ## What kept settings answer -/

/-- A question was asked after the document was last absent: the numbers given out while it
was are smaller. -/
def AskedSinceAbsent (events : List Event) (uri : Uri) (number : Nat) : Prop :=
  ∀ before after, events = before ++ after → (run {} before).1.session.isOpen uri = false →
    (run {} before).1.asked ≤ number

/-- There is no later question about a document. -/
def LatestQuestion (events : List Event) (uri : Uri) (number : Nat) : Prop :=
  ∀ number', .ask number' (.settings uri) ∈ (run {} events).2 → number' ≤ number

/-- No question waits through a change of the configuration. -/
theorem Kept.askedSinceChange (h : Kept uri number r events) (hone : OneByOne events) :
    AskedSinceChange events number := by
  rw [h.askedSinceChange_iff]
  rintro ⟨before, e, after, hevents, ⟨report, hreport⟩, task, hlookup⟩
  cases e with
  | message m =>
    rw [hone before m after hevents] at hlookup
    cases hlookup
  | reply number r => cases hreport

/-- What is known is not asked. -/
theorem Kept.not_asked {before : List Event} (h : Kept uri number r (before ++ [e]))
    {number' : Nat} :
    .ask number' (.settings uri) ∉ ((run {} before).1.step e).2 := by
  intro hask
  obtain ⟨hclient, hkept⟩ := h.perDocument
  obtain ⟨-, task, -, -, hfetch⟩ := (step_cases _ e).asks hask
  rw [run_concat] at hclient hkept
  rw [← Session.settingsFor_eq_ready_iff hclient, hfetch uri rfl] at hkept
  cases hkept

theorem Kept.latest (h : Kept uri number r events) (hone : OneByOne events) :
    LatestQuestion events uri number := by
  induction h with
  | stored before rest waits isOpen =>
    intro number' hask
    rw [run_concat] at hask
    rcases List.mem_append.1 hask with hask | hask
    · have hlast := hone.of_append.serial.last _ (mem_tasks_of_lookup waits)
      have hlt := (asked_run hask).1
      omega
    · exact absurd hask (Kept.stored before rest waits isOpen).not_asked
  | later before e kept drops stores ih =>
    intro number' hask
    rw [run_concat] at hask
    rcases List.mem_append.1 hask with hask | hask
    · exact ih hone.of_append number' hask
    · exact absurd hask (Kept.later before e kept drops stores).not_asked

/-- A document that is open after a run was absent, if ever, before its last event. -/
theorem split_of_closed {before after l : List Event} {last : Event}
    (hevents : l ++ [last] = before ++ after)
    (hopen : (run {} (l ++ [last])).1.session.isOpen uri = true)
    (hclosed : (run {} before).1.session.isOpen uri = false) : ∃ more, l = before ++ more := by
  rcases List.eq_nil_or_concat after with rfl | ⟨more, last', rfl⟩
  · rw [hevents, List.append_nil, hclosed] at hopen
    cases hopen
  · rw [List.concat_eq_append, ← List.append_assoc] at hevents
    exact ⟨more, (List.append_singleton_inj.1 hevents).1⟩

theorem Kept.askedSinceAbsent (h : Kept uri number r events) (hone : OneByOne events) :
    AskedSinceAbsent events uri number := by
  intro before after hevents hclosed
  induction h generalizing after with
  | stored before' rest waits isOpen =>
    have hopen := (Kept.stored (r := r) before' rest waits isOpen).isOpen
    obtain ⟨more, rfl⟩ := split_of_closed hevents hopen hclosed
    -- Were the question older, its task would have been waiting for the open document.
    by_contra hold
    rw [run_append] at waits
    have hmem := mem_tasks_of_run (mem_tasks_of_lookup waits) (Nat.lt_of_not_le hold)
    have hopen' := hone.of_append.of_append.serial.isOpen _ hmem uri List.mem_cons_self
    exact nomatch hclosed.symm.trans hopen'
  | later before' last kept drops stores ih =>
    have hopen := (Kept.later before' last kept drops stores).isOpen
    obtain ⟨more, hmore⟩ := split_of_closed hevents hopen hclosed
    exact ih hone.of_append more hmore

/-! ## What is asked twice -/

/-- What was kept of the settings of a document was dropped after a question was asked. -/
def DroppedSince (events : List Event) (uri : Uri) (number : Nat) : Prop :=
  ∃ before e after, events = before ++ e :: after ∧ Drops (run {} before).1 e uri ∧
    number < (run {} before).1.asked

theorem DroppedSince.append (h : DroppedSince events uri number) (more : List Event) :
    DroppedSince (events ++ more) uri number := by
  obtain ⟨before, e, after, rfl, hdrops, hlt⟩ := h
  exact ⟨before, e, after ++ more, by rw [List.append_assoc, List.cons_append], hdrops, hlt⟩

/-- A question waits until its answer is stored. -/
theorem OneByOne.still_waits {before : List Event} {rest : List Uri}
    (hone : OneByOne (before ++ [e])) (hwaits : (number, .check uri rest) ∈ (run {} before).1.tasks)
    (hstores : ¬ Stores (run {} before).1 e uri) :
    (number, .check uri rest) ∈ (run {} (before ++ [e])).1.tasks := by
  rw [run_concat]
  cases e with
  | message m =>
    rw [hone.tasks_eq_nil] at hwaits
    exact absurd hwaits List.not_mem_nil
  | reply number' r =>
    have hnumber : number ≠ number' := by
      rintro rfl
      have hopen := hone.of_append.serial.isOpen _ hwaits uri List.mem_cons_self
      exact hstores ⟨number, r, rest, rfl, (wellFormed_run before).lookup_eq hwaits, hopen⟩
    exact (step_cases _ _).mem_tasks_of_reply hwaits hnumber

/-- If a document was asked about and its settings are not known, the question is still
open, or its answer was dropped. -/
theorem waits_or_dropped (hone : OneByOne events)
    (hask : .ask number (.settings uri) ∈ (run {} events).2)
    (hnone : (run {} events).1.session.settings.perDocument[uri]? = none) :
    (∃ rest, (number, .check uri rest) ∈ (run {} events).1.tasks) ∨
      DroppedSince events uri number := by
  induction events using List.reverseRecOn with
  | nil => exact absurd hask List.not_mem_nil
  | append_singleton before e ih =>
    have hstep := step_cases (run {} before).1 e
    rw [run_concat] at hask hnone ⊢
    rcases List.mem_append.1 hask with hask | hask
    · obtain ⟨hlt, hclient⟩ := asked_run hask
      rcases hstep.perDocument hclient uri with ⟨hdrops, -⟩ | hstored | ⟨hdrops, hstores, hsame⟩
      · exact .inr ⟨before, e, [], rfl, hdrops, hlt⟩
      · obtain ⟨_, _, _, -, -, -, hsome⟩ := hstored
        exact nomatch hnone.symm.trans hsome
      · rcases ih hone.of_append hask (hsame.symm.trans hnone) with ⟨rest, hwaits⟩ | hdropped
        · have hstill := hone.still_waits hwaits hstores
          rw [run_concat] at hstill
          exact .inl ⟨rest, hstill⟩
        · exact .inr (hdropped.append [e])
    · obtain ⟨-, task, hmem, hq, -⟩ := hstep.asks hask
      cases task with
      | watch => cases hq
      | check u rest =>
        cases hq
        exact .inl ⟨rest, hmem⟩

/-- **Nothing is asked twice without need.**  Between two questions about a document, what
was kept of its settings was dropped. -/
theorem drops_between (hone : OneByOne events) {first second : Nat}
    (hfirst : .ask first (.settings uri) ∈ (run {} events).2)
    (hsecond : .ask second (.settings uri) ∈ (run {} events).2) (hlt : first < second) :
    ∃ before e after, events = before ++ e :: after ∧ Drops (run {} before).1 e uri ∧
      first < (run {} before).1.asked ∧ (run {} before).1.asked ≤ second := by
  induction events using List.reverseRecOn with
  | nil => exact absurd hfirst List.not_mem_nil
  | append_singleton before e ih =>
    have hstep := step_cases (run {} before).1 e
    rw [run_concat] at hfirst hsecond
    have hfirst : .ask first (.settings uri) ∈ (run {} before).2 := by
      refine (List.mem_append.1 hfirst).resolve_right fun hfirst => ?_
      have hnew := (hstep.asks hfirst).1
      rcases List.mem_append.1 hsecond with hsecond | hsecond
      · have hold := (asked_run hsecond).1
        omega
      · have hsame := (hstep.asks hsecond).1
        omega
    rcases List.mem_append.1 hsecond with hsecond | hsecond
    · obtain ⟨before', e', after, rfl, h⟩ := ih hone.of_append hfirst hsecond
      exact ⟨before', e', after ++ [e], by rw [List.append_assoc, List.cons_append], h⟩
    · obtain ⟨rfl, task, hmem, hq, hfetch⟩ := hstep.asks hsecond
      obtain ⟨hold, hclient⟩ := asked_run hfirst
      have hnone := hfetch uri rfl
      rw [Session.settingsFor_eq_fetch_iff (configuration_of_fetch hnone)] at hnone
      rcases hstep.perDocument hclient uri with ⟨hdrops, -⟩ | hstored | ⟨-, hstores, hsame⟩
      · exact ⟨before, e, [], rfl, hdrops, hold, Nat.le_refl _⟩
      · obtain ⟨_, _, _, -, -, -, hsome⟩ := hstored
        exact nomatch hnone.symm.trans hsome
      · rcases waits_or_dropped hone.of_append hfirst (hsame.symm.trans hnone) with
          ⟨rest, hwaits⟩ | ⟨before', e', after, rfl, hdrops, hlt'⟩
        · -- The first question is the only one that waits, so the second can only have been
          -- asked once it was answered, and then the settings are known.
          have hlast := hone.serial.last _ (hone.still_waits hwaits hstores)
          have hserial := hone.serial
          rw [run_concat] at hserial hlast
          exact absurd (Nat.succ.inj ((hserial.last _ hmem).symm.trans hlast)) (Nat.ne_of_gt hold)
        · refine ⟨before', e', after ++ [e], by rw [List.append_assoc, List.cons_append], hdrops,
            hlt', ?_⟩
          rw [run_append]
          exact asked_le_run _ _

end Server
end GymLang
