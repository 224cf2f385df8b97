import GymLang.Proofs.Server.Provenance
import GymLang.Proofs.Session.Parts

/-!
# When kept settings are out of date

When the client reports a change of its configuration, the settings that are kept are
dropped and asked for again.  That is meant to keep settings from before the change out of
what is published after it, but a question that is open while the change is taken in is
still answered, and its answer is kept.  It may come last, after the answer to the newer
question, and then the settings from before the change hold until the next one.

* `AskedSinceChange`, `WaitedThroughChange` — when a question was asked, and whether it
  was open while the configuration changed.
* `kept_settings_origin` — **the exact condition**: known settings came with one reply, and
  they are from after the last change if and only if the question was not open during any.
* `staleReply` — a run in which they are not.
-/

namespace GymLang
namespace Server

variable {s : Server} {e : Event} {uri : Uri} {events : List Event}
variable {number : Nat} {r : Reply} {settings : Settings}

/-- A change of the configuration is taken in. -/
def Changes (s : Server) (e : Event) : Prop :=
  ∃ report, s.takenIn? e = some (.configurationChanged report)

/-- A question was asked with or after the last change of the configuration: the numbers
given out before every change are smaller. -/
def AskedSinceChange (events : List Event) (number : Nat) : Prop :=
  ∀ before e after, events = before ++ e :: after → Changes (run {} before).1 e →
    (run {} before).1.asked ≤ number

/-- A question was open while a change of the configuration was taken in. -/
def WaitedThroughChange (events : List Event) (number : Nat) : Prop :=
  ∃ before e after, events = before ++ e :: after ∧ Changes (run {} before).1 e ∧
    ∃ task, (run {} before).1.tasks.lookup number = some task

theorem Changes.drops (h : Changes s e) (uri : Uri) : Drops s e uri := by
  obtain ⟨report, hreport⟩ := h
  exact ⟨_, hreport, trivial⟩

theorem not_changes_reply : ¬ Changes s (.reply number r) := by
  rintro ⟨report, h⟩
  exact nomatch (takenIn?_reply s number r).symm.trans h

/-- A question whose answer is kept, and which was asked before a change, was open while
the change was taken in: otherwise the change would have dropped the answer. -/
theorem Kept.waits {before after : List Event} (h : Kept uri number r events)
    (hevents : events = before ++ e :: after) (hchanges : Changes (run {} before).1 e)
    (hold : number < (run {} before).1.asked) :
    ∃ task, (run {} before).1.tasks.lookup number = some task := by
  induction h generalizing after with
  | stored before' rest waits isOpen =>
    rcases split_concat hevents with ⟨-, rfl, -⟩ | ⟨more, rfl, -⟩
    · exact absurd hchanges not_changes_reply
    · rw [run_append] at waits
      have hmem := mem_tasks_of_run (mem_tasks_of_lookup waits) hold
      exact ⟨.check uri rest, (wellFormed_run before).lookup_eq hmem⟩
  | later before' last kept drops stores ih =>
    rcases split_concat hevents with ⟨rfl, rfl, -⟩ | ⟨more, hmore, -⟩
    · exact absurd (hchanges.drops uri) drops
    · exact ih hmore

/-- The answer that is kept for a document is out of date exactly if its question was open
while the configuration changed. -/
theorem Kept.askedSinceChange_iff (h : Kept uri number r events) :
    AskedSinceChange events number ↔ ¬ WaitedThroughChange events number := by
  constructor
  · rintro hasked ⟨before, e, after, hevents, hchanges, task, hlookup⟩
    have hlt := (wellFormed_run before).numbered _ (mem_tasks_of_lookup hlookup)
    exact Nat.not_le.2 hlt (hasked before e after hevents hchanges)
  · intro hwaited before e after hevents hchanges
    rcases Nat.lt_or_ge number (run {} before).1.asked with hold | hnew
    · exact absurd ⟨before, e, after, hevents, hchanges, h.waits hevents hchanges hold⟩ hwaited
    · exact hnew

/-- **Where known settings come from.**  For a client that can be asked, the settings that
are known of a document after any run came with exactly one reply that is kept since.  They
are from after the last change of the configuration if and only if the question they
answer was not open while a change was taken in. -/
theorem kept_settings_origin (events : List Event) (uri : Uri) (settings : Settings)
    (hclient : (run {} events).1.session.client.configuration = true)
    (hknown : (run {} events).1.session.settingsFor uri = .ready settings) :
    ∃ number r, Kept uri number r events ∧ settings = r.settings ∧
      (∀ number' r', Kept uri number' r' events → number' = number ∧ r' = r) ∧
      (AskedSinceChange events number ↔ ¬ WaitedThroughChange events number) := by
  rw [Session.settingsFor_eq_ready_iff hclient] at hknown
  obtain ⟨number, r, hkept, hsettings⟩ := kept_run hclient hknown
  exact ⟨number, r, hkept, hsettings, fun number' r' h => h.unique hkept,
    hkept.askedSinceChange_iff⟩

/-! ## An answer from before the change -/

/-- The configuration changes while the first question is open, and the second question is
answered first. -/
def staleReply : List Event :=
  [.message ⟨some (.number 1), .start { configuration := true }⟩,
    .message ⟨none, .notice (.opened ⟨"u", "gymlang", 1, ['?', '\n', '?']⟩)⟩,
    .message ⟨none, .notice (.configurationChanged .null)⟩,
    .reply 1 (.value (.array [.array [.nat 2]])), .reply 0 (.value (.array [.array [.nat 1]]))]

theorem kept_settings_origin_staleReply :
    ∃ number r, Kept "u" number r staleReply ∧ Settings.mk 1 = r.settings ∧
      (∀ number' r', Kept "u" number' r' staleReply → number' = number ∧ r' = r) ∧
      (AskedSinceChange staleReply number ↔ ¬ WaitedThroughChange staleReply number) :=
  kept_settings_origin staleReply "u" ⟨1⟩ (by decide) (by decide)

/-- Nothing is left to do, and the settings that are known are those from before the
change. -/
theorem staleReply_settings_stale :
    (run {} staleReply).1.tasks = [] ∧
      (run {} staleReply).1.session.client.configuration = true ∧
      (run {} staleReply).1.session.isOpen "u" = true ∧
      (run {} staleReply).1.session.settingsFor "u" = .ready ⟨1⟩ ∧
      ∀ number r, Kept "u" number r staleReply → ¬ AskedSinceChange staleReply number := by
  refine ⟨by decide, by decide, by decide, by decide, fun number r hkept hasked => ?_⟩
  have hlast : Kept "u" 0 (.value (.array [.array [.nat 1]])) staleReply :=
    .stored (staleReply.take 4) [] (by decide) (by decide)
  obtain ⟨rfl, -⟩ := hkept.unique hlast
  have hchanges : Changes (run {} (staleReply.take 2)).1
      (.message ⟨none, .notice (.configurationChanged .null)⟩) := ⟨.null, rfl⟩
  exact absurd (hasked (staleReply.take 2) _ (staleReply.drop 3) rfl hchanges) (by decide)

end Server
end GymLang
