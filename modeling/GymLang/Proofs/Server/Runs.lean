import Mathlib.Data.List.Induction
import GymLang.Proofs.Server.Steps

/-!
# Runs of the server

What can be told of every state that a run leads to.

* `WellFormed` — waiting tasks have numbers of their own, which have been given out, and
  belong to a client that can be asked.  Every step preserves it (`WellFormed.step`).
* `run_append`, `run_concat` — runs in parts.
* `run_invariant` — what every step preserves holds after every run, and so every state
  that is reached is well-formed (`wellFormed_run`).
-/

namespace GymLang
namespace Server

variable {s t : Server} {e : Event} {out : List Outgoing} {uri : Uri} {uris : List Uri}
variable {number : Nat} {task : Task}

/-! ## Well-formed states -/

/-- What holds of every state that is reached. -/
structure WellFormed (s : Server) : Prop where
  /-- Nothing happens until the client introduces itself. -/
  untouched : s.phase = .waiting → s = {}
  /-- The numbers of open questions have been given out, -/
  numbered : ∀ waiting ∈ s.tasks, waiting.1 < s.asked
  /-- and no two questions have the same number. -/
  distinct : (s.tasks.map Prod.fst).Nodup
  /-- Only a client that can be asked is waited for. -/
  askable : s.tasks ≠ [] → s.session.client.configuration = true

theorem wellFormed_initial : WellFormed {} where
  untouched _ := rfl
  numbered _ h := absurd h List.not_mem_nil
  distinct := List.nodup_nil
  askable h := absurd rfl h

/-- A question that is open. -/
theorem mem_tasks_of_lookup (hlookup : s.tasks.lookup number = some task) :
    (number, task) ∈ s.tasks := by
  obtain ⟨before, after, htasks, -⟩ := List.lookup_eq_some_iff.1 hlookup
  rw [htasks]
  exact List.mem_append_right before List.mem_cons_self

namespace WellFormed

theorem lookup_eq (h : WellFormed s) (hmem : (number, task) ∈ s.tasks) :
    s.tasks.lookup number = some task := by
  obtain ⟨before, after, htasks⟩ := List.append_of_mem hmem
  refine List.lookup_eq_some_iff.2 ⟨before, after, htasks, fun waiting hwaiting => ?_⟩
  have hdistinct := h.distinct
  rw [htasks, List.map_append, List.map_cons, List.nodup_append] at hdistinct
  rw [bne_iff_ne]
  exact (hdistinct.2.2 _ (List.mem_map_of_mem hwaiting) _ List.mem_cons_self).symm

/-- A server with open questions has been introduced to the client. -/
theorem not_waiting (h : WellFormed s) (hlookup : s.tasks.lookup number = some task) :
    s.phase ≠ .waiting := by
  intro hphase
  rw [h.untouched hphase] at hlookup
  cases hlookup

theorem askable_of_lookup (h : WellFormed s) (hlookup : s.tasks.lookup number = some task) :
    s.session.client.configuration = true :=
  h.askable (List.ne_nil_of_mem (mem_tasks_of_lookup hlookup))

theorem suspend (h : WellFormed s) (hphase : s.phase ≠ .waiting)
    (hclient : s.session.client.configuration = true) (task : Task) :
    WellFormed (s.suspend task).1 where
  untouched hwaiting := absurd hwaiting hphase
  numbered := by
    intro waiting hwaiting
    rcases List.mem_cons.1 hwaiting with rfl | hwaiting
    · exact Nat.lt_succ_self s.asked
    · exact Nat.lt_succ_of_lt (h.numbered waiting hwaiting)
  distinct := by
    refine List.nodup_cons.2 ⟨fun hmem => ?_, h.distinct⟩
    obtain ⟨waiting, hwaiting, hnumber⟩ := List.mem_map.1 hmem
    exact Nat.lt_irrefl _ (hnumber ▸ h.numbered waiting hwaiting)
  askable _ := hclient

theorem without (h : WellFormed s) (number : Nat) : WellFormed (s.without number) where
  untouched hwaiting := by rw [h.untouched hwaiting]; rfl
  numbered waiting hwaiting := h.numbered waiting (List.mem_filter.1 hwaiting).1
  distinct := h.distinct.sublist (List.filter_sublist.map Prod.fst)
  askable hne := h.askable fun hnil => hne (by rw [Server.without, hnil]; rfl)

/-- Another session of the same client. -/
theorem with_session (h : WellFormed s) (hphase : s.phase ≠ .waiting) {session : Session}
    (hclient : session.client = s.session.client) :
    WellFormed { s with session := session } where
  untouched hwaiting := absurd hwaiting hphase
  numbered := h.numbered
  distinct := h.distinct
  askable hne := hclient ▸ h.askable hne

theorem checked (h : WellFormed s) (hphase : s.phase ≠ .waiting) (hchecked : Checked s uris t out) :
    WellFormed t := by
  cases hchecked with
  | all known => exact h
  | upTo done u rest split known unknown =>
    exact h.suspend hphase (configuration_of_fetch unknown) _

theorem storing (h : WellFormed s) (hlookup : s.tasks.lookup number = some task) (uri : Uri)
    (settings : Settings) : WellFormed (s.storing number uri settings) :=
  (h.without number).with_session (h.not_waiting hlookup)
    (Session.client_storeSettings s.session uri settings)

theorem step (h : WellFormed s) (hstep : Step s e t out) : WellFormed t := by
  cases hstep with
  | noticed n running checked =>
    have hphase : s.phase ≠ .waiting := fun h => nomatch running.symm.trans h
    exact (h.with_session hphase (Session.client_notify s.session n)).checked hphase checked
  | replied number r uri rest waits checked =>
    exact (h.storing waits uri r.settings).checked (h.not_waiting waits) checked
  | watched number r waits => exact h.without number
  | begun i client waiting =>
    rw [h.untouched waiting]
    exact ⟨fun h => (nomatch h), fun _ h => absurd h List.not_mem_nil, List.nodup_nil,
      fun h => absurd rfl h⟩
  | greeted running configuration =>
    exact h.suspend (fun h => nomatch running.symm.trans h) configuration .watch
  | stopped m running body aside =>
    exact ⟨fun h => (nomatch h), h.numbered, h.distinct, h.askable⟩
  | ended id =>
    exact ⟨fun h => (nomatch h), fun _ h => absurd h List.not_mem_nil, List.nodup_nil,
      fun h => absurd rfl h⟩
  | passed e notice reply aside => exact h

/-- When a task is taken up again, the others keep what they have to check. -/
theorem pending_without (h : WellFormed s) (hlookup : s.tasks.lookup number = some task)
    (huri : uri ∈ s.pending) : uri ∈ task.documents ∨ uri ∈ (s.without number).pending := by
  obtain ⟨⟨number', task'⟩, hmem, huri⟩ := List.mem_flatMap.1 huri
  by_cases hnumber : number' = number
  · subst hnumber
    cases hlookup.symm.trans (h.lookup_eq hmem)
    exact .inl huri
  · exact .inr (List.mem_flatMap.2 ⟨_, List.mem_filter.2 ⟨hmem, bne_iff_ne.2 hnumber⟩, huri⟩)

end WellFormed

/-! ## Runs -/

theorem run_cons (s : Server) (e : Event) (rest : List Event) :
    s.run (e :: rest) = (((s.step e).1.run rest).1, (s.step e).2 ++ ((s.step e).1.run rest).2) :=
  rfl

theorem run_append (s : Server) (before after : List Event) :
    s.run (before ++ after) =
      (((s.run before).1.run after).1, (s.run before).2 ++ ((s.run before).1.run after).2) := by
  induction before generalizing s with
  | nil => rfl
  | cons e rest ih =>
    rw [List.cons_append, run_cons, run_cons, ih, List.append_assoc]

theorem run_concat (s : Server) (before : List Event) (e : Event) :
    s.run (before ++ [e]) =
      (((s.run before).1.step e).1, (s.run before).2 ++ ((s.run before).1.step e).2) := by
  rw [run_append, run_cons, run, List.append_nil]

/-- What every step preserves holds after every run. -/
theorem run_invariant {P : Server → List Outgoing → Prop} (initial : P s [])
    (step : ∀ {s t : Server} {e : Event} {sent out : List Outgoing},
      P s sent → Step s e t out → P t (sent ++ out)) (events : List Event) :
    P (s.run events).1 (s.run events).2 := by
  induction events using List.reverseRecOn with
  | nil => exact initial
  | append_singleton before e ih =>
    rw [run_concat]
    exact step ih (step_cases _ e)

theorem wellFormed_run (events : List Event) : WellFormed (run {} events).1 :=
  run_invariant (P := fun s _ => WellFormed s) wellFormed_initial (fun h => h.step) events

theorem not_ended_run {events : List Event} (h : ∀ e ∈ events, ¬ e.IsExit) :
    (run {} events).1.phase ≠ .ended := by
  induction events using List.reverseRecOn with
  | nil => exact fun h => nomatch h
  | append_singleton before e ih =>
    rw [run_concat]
    refine (step_cases _ e).not_ended_of (h e (List.mem_append_right _ List.mem_cons_self)) ?_
    exact ih fun e' he' => h e' (List.mem_append_left _ he')

end Server
end GymLang
