import Mathlib.Data.List.Basic
import GymLang.Proofs.Server.Questions

/-!
# Checking a list of documents to its end

A notice may touch many documents, and the settings of each may have to be asked for.  If
nothing else happens meanwhile, their problems are published in order, each once, however
often the work is set aside.

* `Checks` — the invariant: those that are not pending have been published, with the
  settings that are known of them.
* `checks_run` — it holds from the notice on while replies come in.
* `published_of_checks` — in the end every document has been published.
-/

namespace GymLang

/-- What is published. -/
def published (out : List Outgoing) : List Publication :=
  out.filterMap fun
    | .publish p => some p
    | _ => none

theorem published_of_aside {out : List Outgoing} (h : ∀ o ∈ out, o.IsAside) :
    published out = [] := by
  refine List.eq_nil_iff_forall_not_mem.2 fun p hp => ?_
  obtain ⟨o, ho, hp⟩ := List.mem_filterMap.1 hp
  cases o with
  | publish q => exact h _ ho
  | response _ _ | greeting | ask _ _ => cases hp

@[simp] theorem published_append (out more : List Outgoing) :
    published (out ++ more) = published out ++ published more := List.filterMap_append

namespace Server

variable {s t : Server} {e : Event} {sent out : List Outgoing} {uri : Uri} {uris : List Uri}
variable {number : Nat} {r : Reply} {settings : Settings} {n : Notice} {p : Publication}

theorem published_toList (p? : Option Publication) :
    published (p?.toList.map .publish) = p?.toList := by
  cases p? <;> rfl

theorem published_known (s : Server) (uris : List Uri) :
    published (uris.flatMap s.publishKnown) = uris.filterMap s.knownPublication? := by
  induction uris with
  | nil => rfl
  | cons uri rest ih =>
    rw [List.flatMap_cons, published_append, ih, publishKnown, published_toList]
    cases hp : s.knownPublication? uri with
    | none => rw [List.filterMap_cons_none hp]; rfl
    | some p => rw [List.filterMap_cons_some hp]; rfl

/-- Of the documents to check, those that are not pending have been published, each with
the settings that are known of it. -/
def Checks (uris : List Uri) (s : Server) (sent : List Outgoing) : Prop :=
  ∃ done, uris = done ++ s.pending ∧ published sent = done.filterMap s.knownPublication?

theorem Checked.checks (h : Checked s uris t out) (htasks : s.tasks = []) :
    Checks uris t out := by
  cases h with
  | all known =>
    refine ⟨uris, ?_, published_known s uris⟩
    rw [pending, htasks, List.flatMap_nil, List.append_nil]
  | upTo done u rest split known unknown =>
    refine ⟨done, ?_, ?_⟩
    · rw [pending, suspend, htasks]
      simpa [Task.documents] using split
    · rw [published_append, published_known]
      exact List.append_nil _

/-- A reply to the question that is open, or to none, goes on with the documents. -/
theorem Checks.reply (h : Checks uris s sent) (hs : WellFormed s) (hserial : Serial s)
    (hnodup : uris.Nodup) (hstep : Step s (.reply number r) t out) :
    Checks uris t (sent ++ out) := by
  obtain ⟨done, huris, hpublished⟩ := h
  cases hstep with
  | passed e notice reply aside =>
    refine ⟨done, huris, ?_⟩
    rw [published_append, hpublished, published_of_aside aside, List.append_nil]
  | watched number r waits =>
    have hpending : (s.without number).pending = s.pending := by
      rw [pending, hserial.tasks_without waits, pending,
        hserial.single _ (mem_tasks_of_lookup waits)]
      rfl
    refine ⟨done, huris.trans (by rw [hpending]), ?_⟩
    rw [published_append, hpublished]
    exact List.append_nil _
  | replied number r u rest waits checked =>
    have hclient := hs.askable_of_lookup waits
    have hmem := mem_tasks_of_lookup waits
    have hopen := hserial.isOpen _ hmem u List.mem_cons_self
    have hpending : s.pending = u :: rest := by
      rw [pending, hserial.single _ hmem]
      exact List.append_nil _
    rw [hpending] at huris
    obtain ⟨more, hrest, hout⟩ := checked.checks (hserial.tasks_without waits)
    refine ⟨done ++ u :: more, ?_, ?_⟩
    · rw [huris, hrest, List.append_assoc, List.cons_append]
    · have hdone : done.filterMap s.knownPublication? = done.filterMap t.knownPublication? := by
        refine List.filterMap_congr fun v hv => ?_
        have hne : u ≠ v := by
          rintro rfl
          rw [huris] at hnodup
          exact (List.nodup_append.1 hnodup).2.2 u hv u List.mem_cons_self rfl
        rw [checked.knownPublication?_eq, knownPublication?_storing hclient hne]
      obtain ⟨p, hp⟩ := Session.exists_publication?
        ((isOpen_storing s number u u r.settings).trans hopen) r.settings
      have hsettings := settingsFor_storing hclient hopen number r.settings
      have hknown : t.knownPublication? u = some p := by
        rw [checked.knownPublication?_eq, knownPublication?_of_ready hsettings, hp]
      rw [published_append, published_append, hpublished, hout, hdone, publish, published_toList,
        hp, List.filterMap_append, List.filterMap_cons_some hknown]
      rfl

/-- **Documents are checked in order.**  Once a list of documents is being checked, replies
keep what has been published in step with what is pending. -/
theorem checks_run {replies : List Event} (h : Checks uris s sent) (hs : WellFormed s)
    (hserial : Serial s) (hnodup : uris.Nodup)
    (hreplies : ∀ e ∈ replies, ∃ number r, e = .reply number r) :
    Checks uris (s.run replies).1 (sent ++ (s.run replies).2) := by
  induction replies generalizing s sent with
  | nil =>
    rw [run, List.append_nil]
    exact h
  | cons e rest ih =>
    obtain ⟨number, r, rfl⟩ := hreplies e List.mem_cons_self
    have hstep := step_cases s (.reply number r)
    have hserial' := hserial.step (fun m hm => by cases hm) hstep
    rw [run_cons, ← List.append_assoc]
    exact ih (h.reply hs hserial hnodup hstep) (hs.step hstep) hserial'
      fun e he => hreplies e (List.mem_cons_of_mem _ he)

/-- Replies do not close documents. -/
theorem isOpen_run {replies : List Event}
    (hreplies : ∀ e ∈ replies, ∃ number r, e = .reply number r)
    (hopen : s.session.isOpen uri = true) : (s.run replies).1.session.isOpen uri = true := by
  induction replies generalizing s with
  | nil => exact hopen
  | cons e rest ih =>
    obtain ⟨number, r, rfl⟩ := hreplies e List.mem_cons_self
    refine ih (fun e he => hreplies e (List.mem_cons_of_mem _ he)) ?_
    exact (step_cases s _).isOpen (not_closed_of_not_drops not_drops_reply) hopen

/-- When nothing is left to do, every document on the list has been published once, in
order, with the settings that are known of it. -/
theorem published_of_checks (h : Checks uris s sent) (htasks : s.tasks = [])
    (hknown : ∀ uri ∈ uris, ∃ p, s.knownPublication? uri = some p) :
    (published sent).map Publication.uri = uris ∧
      ∀ p ∈ published sent, s.knownPublication? p.uri = some p := by
  obtain ⟨done, huris, hpublished⟩ := h
  rw [pending, htasks, List.flatMap_nil, List.append_nil] at huris
  subst huris
  rw [hpublished]
  constructor
  · rw [List.map_filterMap]
    refine (List.filterMap_congr fun uri hmem => ?_).trans List.filterMap_some
    obtain ⟨p, hp⟩ := hknown uri hmem
    rw [hp, Option.map_some, uri_of_knownPublication? hp]
  · intro p hp
    obtain ⟨uri, -, hp⟩ := List.mem_filterMap.1 hp
    rw [uri_of_knownPublication? hp]
    exact hp

end Server
end GymLang
