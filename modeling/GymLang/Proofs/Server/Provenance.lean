import GymLang.Proofs.Server.Runs

/-!
# Where the settings of a document come from

The settings that are kept for a document came with a reply to a question about it.  This
module follows them through a run: what a step does to them, which reply they came with,
and when the question was asked.

* `Step.perDocument` — a step drops the settings of a document, or brings new ones, or
  keeps them.
* `Kept` — the settings that came with a reply are still kept.  Kept settings come from
  a reply (`kept_run`), and from one only (`Kept.unique`).
* `mem_tasks_of_run` — questions are numbered in the order in which they are asked.
-/

namespace GymLang
namespace Server

variable {s t : Server} {e : Event} {out : List Outgoing} {uri u : Uri} {events : List Event}
variable {number : Nat} {task : Task} {r : Reply} {settings : Settings}

/-! ## Dropping and storing -/

/-- What is kept of the settings of a document is dropped. -/
def Drops (s : Server) (e : Event) (uri : Uri) : Prop :=
  ∃ n, s.takenIn? e = some n ∧ n.drops uri

/-- The settings of an open document come in. -/
def Stores (s : Server) (e : Event) (uri : Uri) : Prop :=
  ∃ number r rest, e = .reply number r ∧ s.tasks.lookup number = some (.check uri rest) ∧
    s.session.isOpen uri = true

theorem takenIn?_reply (s : Server) (number : Nat) (r : Reply) :
    s.takenIn? (.reply number r) = none := rfl

theorem not_drops_of_none (h : s.takenIn? e = none) : ¬ Drops s e uri := by
  rintro ⟨n, hn, -⟩
  exact nomatch h.symm.trans hn

theorem not_drops_reply : ¬ Drops s (.reply number r) uri :=
  not_drops_of_none (takenIn?_reply s number r)

theorem not_stores_message {m : Message} : ¬ Stores s (.message m) uri := by
  rintro ⟨number, r, rest, h, -⟩
  cases h

theorem takenIn?_notice (h : s.phase = .running) (n : Notice) :
    s.takenIn? (.message ⟨none, .notice n⟩) = some n := if_pos h

theorem drops_notice (h : s.phase = .running) {n : Notice} :
    Drops s (.message ⟨none, .notice n⟩) uri ↔ n.drops uri := by
  constructor
  · rintro ⟨n', hn, hdrops⟩
    cases (takenIn?_notice h n).symm.trans hn
    exact hdrops
  · exact fun hdrops => ⟨n, takenIn?_notice h n, hdrops⟩

theorem Step.client_eq (h : Step s e t out) (hphase : s.phase ≠ .waiting) :
    t.session.client = s.session.client := by
  cases h with
  | noticed n running checked => rw [checked.session_eq, taking, Session.client_notify]
  | replied number r uri rest waits checked =>
    rw [checked.session_eq]
    exact Session.client_storeSettings s.session uri r.settings
  | begun i client waiting => exact absurd waiting hphase
  | watched | greeted | stopped | ended | passed => rfl

/-- **What a step does to kept settings.**  It drops them, or brings new ones, or neither. -/
theorem Step.perDocument (h : Step s e t out) (hclient : s.session.client.configuration = true)
    (uri : Uri) :
    (Drops s e uri ∧ t.session.settings.perDocument[uri]? = none) ∨
    (∃ number r rest, e = .reply number r ∧ s.tasks.lookup number = some (.check uri rest) ∧
      s.session.isOpen uri = true ∧
      t.session.settings.perDocument[uri]? = some r.settings) ∨
    (¬ Drops s e uri ∧ ¬ Stores s e uri ∧
      t.session.settings.perDocument[uri]? = s.session.settings.perDocument[uri]?) := by
  cases h with
  | noticed n running checked =>
    rw [checked.session_eq, taking, Session.perDocument_notify hclient, drops_notice running]
    by_cases hdrops : n.drops uri
    · exact .inl ⟨hdrops, if_pos hdrops⟩
    · exact .inr (.inr ⟨hdrops, not_stores_message, if_neg hdrops⟩)
  | replied number r u rest waits checked =>
    rw [checked.session_eq, storing, Session.perDocument_storeSettings]
    by_cases hstored : u = uri ∧ s.session.isOpen u = true
    · obtain ⟨rfl, hopen⟩ := hstored
      exact .inr (.inl ⟨number, r, rest, rfl, waits, hopen, if_pos ⟨rfl, hopen⟩⟩)
    · refine .inr (.inr ⟨not_drops_reply, ?_, if_neg hstored⟩)
      rintro ⟨number', r', rest', h, hlookup, hopen⟩
      cases h
      cases waits.symm.trans hlookup
      exact hstored ⟨rfl, hopen⟩
  | watched number r waits =>
    refine .inr (.inr ⟨not_drops_reply, ?_, rfl⟩)
    rintro ⟨number', r', rest', h, hlookup, -⟩
    cases h
    cases waits.symm.trans hlookup
  | begun i client waiting =>
    exact .inr (.inr ⟨not_drops_of_none rfl, not_stores_message, rfl⟩)
  | greeted running configuration =>
    exact .inr (.inr ⟨not_drops_of_none rfl, not_stores_message, rfl⟩)
  | stopped m running body aside =>
    refine .inr (.inr ⟨not_drops_of_none ?_, not_stores_message, rfl⟩)
    obtain ⟨id, about⟩ := m
    rcases (show about = .shutdown ∨ about = .malformed .shutdown from body) with rfl | rfl <;>
      cases id <;> rfl
  | ended id =>
    exact .inr (.inr ⟨not_drops_of_none (by cases id <;> rfl), not_stores_message, rfl⟩)
  | passed e notice reply aside =>
    refine .inr (.inr ⟨not_drops_of_none notice, ?_, rfl⟩)
    rintro ⟨number, r, rest, h, hlookup, -⟩
    exact nomatch (reply number r h).symm.trans hlookup

/-- A document stays open until it is closed. -/
theorem Step.isOpen (h : Step s e t out) (hclosed : s.takenIn? e ≠ some (.closed uri))
    (hopen : s.session.isOpen uri = true) : t.session.isOpen uri = true := by
  cases h with
  | noticed n running checked =>
    rw [checked.session_eq]
    rw [takenIn?_notice running] at hclosed
    by_cases hcheck : uri ∈ s.session.toCheck n
    · exact Session.isOpen_of_mem_toCheck hcheck
    · obtain ⟨hdocuments, -⟩ := Session.notify_elsewhere hcheck fun h => hclosed (congrArg some h)
      exact (Session.isOpen_of_documents hdocuments).trans hopen
  | replied number r u rest waits checked =>
    rw [checked.session_eq]
    exact (isOpen_storing ..).trans hopen
  | watched | begun | greeted | stopped | ended | passed => exact hopen

theorem not_closed_of_not_drops (h : ¬ Drops s e uri) : s.takenIn? e ≠ some (.closed uri) :=
  fun hclosed => h ⟨_, hclosed, rfl⟩

/-- Nothing is kept when the client introduces itself. -/
theorem Step.perDocument_of_waiting (h : Step s e t out) (hs : WellFormed s)
    (hphase : s.phase = .waiting) (uri : Uri) :
    t.session.settings.perDocument[uri]? = none := by
  have hnone : s.session.settings.perDocument[uri]? = none := by
    rw [hs.untouched hphase]
    exact Std.ExtTreeMap.getElem?_empty
  cases h with
  | noticed n running checked => exact nomatch hphase.symm.trans running
  | replied number r uri rest waits checked => exact absurd hphase (hs.not_waiting waits)
  | watched | begun | greeted | stopped | ended | passed => exact hnone

/-! ## The reply that settings came with -/

/-- The settings that came with a reply to a question about a document are still kept for
it: since then they have neither been dropped nor overwritten. -/
inductive Kept (uri : Uri) (number : Nat) (r : Reply) : List Event → Prop
  | stored (before : List Event) (rest : List Uri)
    (waits : (run {} before).1.tasks.lookup number = some (.check uri rest))
    (isOpen : (run {} before).1.session.isOpen uri = true) :
    Kept uri number r (before ++ [.reply number r])
  | later (before : List Event) (e : Event) (kept : Kept uri number r before)
    (drops : ¬ Drops (run {} before).1 e uri) (stores : ¬ Stores (run {} before).1 e uri) :
    Kept uri number r (before ++ [e])

/-- At most one reply is the one that the settings of a document came with. -/
theorem Kept.unique {number' : Nat} {r' : Reply} (h : Kept uri number r events)
    (h' : Kept uri number' r' events) : number = number' ∧ r = r' := by
  induction h with
  | stored before rest waits isOpen =>
    generalize hevents : before ++ [.reply number r] = events at h'
    cases h' with
    | stored before' rest' waits' isOpen' =>
      obtain ⟨-, he⟩ := List.append_singleton_inj.1 hevents
      cases he
      exact ⟨rfl, rfl⟩
    | later before' e' kept' drops' stores' =>
      obtain ⟨rfl, rfl⟩ := List.append_singleton_inj.1 hevents
      exact absurd ⟨number, r, rest, rfl, waits, isOpen⟩ stores'
  | later before e kept drops stores ih =>
    generalize hevents : before ++ [e] = events at h'
    cases h' with
    | stored before' rest' waits' isOpen' =>
      obtain ⟨rfl, rfl⟩ := List.append_singleton_inj.1 hevents
      exact absurd ⟨number', r', rest', rfl, waits', isOpen'⟩ stores
    | later before' e' kept' drops' stores' =>
      obtain ⟨rfl, rfl⟩ := List.append_singleton_inj.1 hevents
      exact ih kept'

/-- Kept settings came with a reply. -/
theorem kept_run (hclient : (run {} events).1.session.client.configuration = true)
    (hkept : (run {} events).1.session.settings.perDocument[uri]? = some settings) :
    ∃ number r, Kept uri number r events ∧ settings = r.settings := by
  induction events using List.reverseRecOn with
  | nil =>
    rw [run] at hclient
    cases hclient
  | append_singleton before e ih =>
    rw [run_concat] at hclient hkept
    have hstep := step_cases (run {} before).1 e
    by_cases hphase : (run {} before).1.phase = .waiting
    · rw [hstep.perDocument_of_waiting (wellFormed_run before) hphase uri] at hkept
      cases hkept
    · rw [hstep.client_eq hphase] at hclient
      rcases hstep.perDocument hclient uri with ⟨-, hnone⟩ | hstored | ⟨hdrops, hstores, hsame⟩
      · rw [hnone] at hkept
        cases hkept
      · obtain ⟨number, r, rest, rfl, hwaits, hopen, hsome⟩ := hstored
        exact ⟨number, r, .stored before rest hwaits hopen,
          Option.some.inj (hkept.symm.trans hsome)⟩
      · obtain ⟨number, r, hkept, hsettings⟩ := ih hclient (hsame.symm.trans hkept)
        exact ⟨number, r, .later before e hkept hdrops hstores, hsettings⟩

/-- The client of kept settings can be asked, and they are those of the reply. -/
theorem Kept.perDocument (h : Kept uri number r events) :
    (run {} events).1.session.client.configuration = true ∧
      (run {} events).1.session.settings.perDocument[uri]? = some r.settings := by
  induction h with
  | stored before rest waits isOpen =>
    rw [run_concat]
    have hs := wellFormed_run before
    have hstep := step_cases (run {} before).1 (.reply number r)
    have hclient := hs.askable_of_lookup waits
    refine ⟨(congrArg _ (hstep.client_eq (hs.not_waiting waits))).trans hclient, ?_⟩
    rcases hstep.perDocument hclient uri with ⟨hdrops, -⟩ | hstored | ⟨-, hstores, -⟩
    · exact absurd hdrops not_drops_reply
    · obtain ⟨number', r', rest', h, -, -, hsome⟩ := hstored
      cases h
      exact hsome
    · exact absurd ⟨number, r, rest, rfl, waits, isOpen⟩ hstores
  | later before e kept drops stores ih =>
    obtain ⟨hclient, hkept⟩ := ih
    rw [run_concat]
    have hstep := step_cases (run {} before).1 e
    have hphase : (run {} before).1.phase ≠ .waiting := by
      intro hphase
      rw [(wellFormed_run before).untouched hphase] at hclient
      cases hclient
    refine ⟨(congrArg _ (hstep.client_eq hphase)).trans hclient, ?_⟩
    rcases hstep.perDocument hclient uri with ⟨hdrops, -⟩ | hstored | ⟨-, -, hsame⟩
    · exact absurd hdrops drops
    · obtain ⟨number', r', rest', h, hlookup, hopen, -⟩ := hstored
      exact absurd ⟨number', r', rest', h, hlookup, hopen⟩ stores
    · exact hsame.trans hkept

/-- Settings are kept for open documents. -/
theorem Kept.isOpen (h : Kept uri number r events) :
    (run {} events).1.session.isOpen uri = true := by
  induction h with
  | stored before rest waits isOpen =>
    rw [run_concat]
    exact (step_cases _ _).isOpen (not_closed_of_not_drops not_drops_reply) isOpen
  | later before e kept drops stores ih =>
    rw [run_concat]
    exact (step_cases _ _).isOpen (not_closed_of_not_drops drops) ih

/-! ## The order of the questions -/

theorem Checked.asked_le {uris : List Uri} (h : Checked s uris t out) : s.asked ≤ t.asked := by
  cases h with
  | all known => exact Nat.le_refl _
  | upTo done u rest split known unknown => exact Nat.le_succ _

theorem Step.asked_le (h : Step s e t out) : s.asked ≤ t.asked := by
  cases h with
  | noticed n running checked => exact checked.asked_le
  | replied number r uri rest waits checked => exact checked.asked_le
  | greeted running configuration => exact Nat.le_succ _
  | watched | begun | stopped | ended | passed => exact Nat.le_refl _

theorem asked_le_run (s : Server) (events : List Event) : s.asked ≤ (s.run events).1.asked := by
  induction events generalizing s with
  | nil => exact Nat.le_refl _
  | cons e rest ih => exact Nat.le_trans (step_cases s e).asked_le (ih (s.step e).1)

theorem Checked.mem_tasks {uris : List Uri} (h : Checked s uris t out) {waiting : Nat × Task}
    (hmem : waiting ∈ t.tasks) :
    waiting ∈ s.tasks ∨ (waiting.1 = s.asked ∧ .ask waiting.1 waiting.2.question ∈ out) := by
  cases h with
  | all known => exact .inl hmem
  | upTo done u rest split known unknown =>
    rcases List.mem_cons.1 hmem with rfl | hmem
    · exact .inr ⟨rfl, List.mem_append_right _ List.mem_cons_self⟩
    · exact .inl hmem

/-- A task waits from the step in which its question is asked. -/
theorem Step.mem_tasks (h : Step s e t out) {waiting : Nat × Task} (hmem : waiting ∈ t.tasks) :
    waiting ∈ s.tasks ∨ (waiting.1 = s.asked ∧ .ask waiting.1 waiting.2.question ∈ out) := by
  cases h with
  | noticed n running checked =>
    exact (checked.mem_tasks hmem).imp_right fun h => ⟨h.1, List.mem_append_left _ h.2⟩
  | replied number r uri rest waits checked =>
    exact (checked.mem_tasks hmem).imp (fun hmem => (List.mem_filter.1 hmem).1)
      fun h => ⟨h.1, List.mem_append_right _ h.2⟩
  | watched number r waits => exact .inl (List.mem_filter.1 hmem).1
  | greeted running configuration =>
    rcases List.mem_cons.1 hmem with rfl | hmem
    · exact .inr ⟨rfl, List.mem_cons_of_mem _ List.mem_cons_self⟩
    · exact .inl hmem
  | ended id => exact absurd hmem List.not_mem_nil
  | begun | stopped | passed => exact .inl hmem

theorem Checked.tasks_subset {uris : List Uri} (h : Checked s uris t out) :
    s.tasks ⊆ t.tasks := by
  cases h with
  | all known => exact List.Subset.refl _
  | upTo done u rest split known unknown => exact List.subset_cons_self _ _

/-- A question is open until there is a reply to it. -/
theorem Step.mem_tasks_of_reply (h : Step s (.reply number r) t out) {waiting : Nat × Task}
    (hmem : waiting ∈ s.tasks) (hne : waiting.1 ≠ number) : waiting ∈ t.tasks := by
  have hwithout : waiting ∈ (s.without number).tasks :=
    List.mem_filter.2 ⟨hmem, bne_iff_ne.2 hne⟩
  cases h with
  | replied number r uri rest waits checked => exact checked.tasks_subset hwithout
  | watched number r waits => exact hwithout
  | passed e notice reply aside => exact hmem

/-- A question that was asked before a run and is open after it was open all the time. -/
theorem mem_tasks_of_run {waiting : Nat × Task} (hmem : waiting ∈ (s.run events).1.tasks)
    (hold : waiting.1 < s.asked) : waiting ∈ s.tasks := by
  induction events generalizing s with
  | nil => exact hmem
  | cons e rest ih =>
    have hstep := step_cases s e
    have hmem' := ih hmem (Nat.lt_of_lt_of_le hold hstep.asked_le)
    exact (hstep.mem_tasks hmem').resolve_right fun h => Nat.ne_of_lt hold h.1

/-- What waits has been asked. -/
theorem asked_of_mem_tasks {waiting : Nat × Task} (hmem : waiting ∈ (run {} events).1.tasks) :
    .ask waiting.1 waiting.2.question ∈ (run {} events).2 := by
  induction events using List.reverseRecOn with
  | nil => exact absurd hmem List.not_mem_nil
  | append_singleton before e ih =>
    rw [run_concat] at hmem ⊢
    rcases (step_cases _ e).mem_tasks hmem with hmem | ⟨-, hask⟩
    · exact List.mem_append_left _ (ih hmem)
    · exact List.mem_append_right _ hask

theorem Kept.asked (h : Kept uri number r events) :
    .ask number (.settings uri) ∈ (run {} events).2 := by
  induction h with
  | stored before rest waits isOpen =>
    rw [run_concat]
    exact List.mem_append_left _ (asked_of_mem_tasks (mem_tasks_of_lookup waits))
  | later before e kept drops stores ih =>
    rw [run_concat]
    exact List.mem_append_left _ ih

end Server
end GymLang
