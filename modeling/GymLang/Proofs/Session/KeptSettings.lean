import Mathlib.Data.List.Induction
import GymLang.Proofs.Session.Parts

/-!
# Kept settings, by history

Which settings are known of a document is a matter of what has happened so far.  For a
client that can be asked, they are those that were stored last while the document was
open, unless something has dropped them since (`LastStored`); for any other client, those
of its last report, for all documents alike.

* `lastStored_concat_notice`, `lastStored_concat_store` — how one more act changes that.
* `kept_iff_lastStored` — **what is kept is what was stored last.**
* `isOpen_of_kept` — nothing is kept for a document that is not open.
* `settings_by_history` — the three together.
-/

namespace GymLang
namespace Session

variable {s : Session} {uri : Uri} {settings : Settings} {history : List Act}

/-! ## What was stored last -/

/-- Settings were stored for a document while it was open, and since then no notice has
dropped them and no others have been stored while it was open. -/
def LastStored (s : Session) (history : List Act) (uri : Uri) (settings : Settings) : Prop :=
  ∃ before rest, history = before ++ .store uri settings :: rest ∧
    (s.after before).isOpen uri = true ∧
    (∀ n, .notice n ∈ rest → ¬ n.drops uri) ∧
    ∀ between other later, rest = between ++ .store uri other :: later →
      (s.after (before ++ .store uri settings :: between)).isOpen uri = false

theorem not_lastStored_nil : ¬ LastStored s [] uri settings := by
  rintro ⟨before, rest, hhistory, -⟩
  simp at hhistory

/-- A notice keeps what was stored last, or drops it. -/
theorem lastStored_concat_notice (n : Notice) :
    LastStored s (history ++ [.notice n]) uri settings ↔
      ¬ n.drops uri ∧ LastStored s history uri settings := by
  constructor
  · rintro ⟨before, rest, hhistory, hopen, hnotices, hstores⟩
    rcases split_concat hhistory with ⟨-, hlast, -⟩ | ⟨more, rfl, rfl⟩
    · cases hlast
    · refine ⟨hnotices n (by simp), before, more, rfl, hopen, ?_, ?_⟩
      · intro n' hn'
        exact hnotices n' (List.mem_append_left _ hn')
      · intro between other later hmore
        exact hstores between other (later ++ [.notice n]) (by simp [hmore])
  · rintro ⟨hdrops, before, rest, rfl, hopen, hnotices, hstores⟩
    refine ⟨before, rest ++ [.notice n], by simp, hopen, ?_, ?_⟩
    · intro n' hn'
      rcases List.mem_append.1 hn' with hn' | hn'
      · exact hnotices n' hn'
      · cases List.mem_singleton.1 hn'
        exact hdrops
    · intro between other later hrest
      rcases split_concat hrest with ⟨-, hlast, -⟩ | ⟨more, rfl, -⟩
      · cases hlast
      · exact hstores between other more rfl

/-- Settings that are stored take the place of what was stored last, if the document is
open. -/
theorem lastStored_concat_store (u : Uri) (stored : Settings) :
    LastStored s (history ++ [.store u stored]) uri settings ↔
      if u = uri ∧ (s.after history).isOpen u = true then stored = settings
      else LastStored s history uri settings := by
  split
  · rename_i hstored
    obtain ⟨rfl, hopen⟩ := hstored
    constructor
    · rintro ⟨before, rest, hhistory, -, -, hstores⟩
      rcases split_concat hhistory with ⟨-, hlast, -⟩ | ⟨more, rfl, rfl⟩
      · cases hlast
        rfl
      · have hclosed := hstores more stored [] rfl
        exact nomatch hopen.symm.trans hclosed
    · rintro rfl
      exact ⟨history, [], rfl, hopen, by simp, by simp⟩
  · rename_i hstored
    constructor
    · rintro ⟨before, rest, hhistory, hopen, hnotices, hstores⟩
      rcases split_concat hhistory with ⟨rfl, hlast, -⟩ | ⟨more, rfl, rfl⟩
      · cases hlast
        exact absurd ⟨rfl, hopen⟩ hstored
      · refine ⟨before, more, rfl, hopen, ?_, ?_⟩
        · intro n hn
          exact hnotices n (List.mem_append_left _ hn)
        · intro between other later hmore
          exact hstores between other (later ++ [.store u stored]) (by simp [hmore])
    · rintro ⟨before, rest, rfl, hopen, hnotices, hstores⟩
      refine ⟨before, rest ++ [.store u stored], by simp, hopen, ?_, ?_⟩
      · intro n hn
        exact hnotices n (by simpa using hn)
      · intro between other later hrest
        rcases split_concat hrest with ⟨rfl, hlast, -⟩ | ⟨more, rfl, -⟩
        · cases hlast
          exact Bool.eq_false_iff.2 fun hopen' => hstored ⟨rfl, hopen'⟩
        · exact hstores between other more rfl

/-! ## What is kept -/

/-- **What is kept is what was stored last.** -/
theorem kept_iff_lastStored (hclient : s.client.configuration = true)
    (hnothing : s.settings.perDocument[uri]? = none) (history : List Act) :
    (s.after history).settings.perDocument[uri]? = some settings ↔
      LastStored s history uri settings := by
  induction history using List.reverseRecOn with
  | nil => simp [hnothing, not_lastStored_nil]
  | append_singleton history a ih =>
    rw [after_append, after_cons, after_nil]
    cases a with
    | notice n =>
      have hclient' : (s.after history).client.configuration = true := by
        rw [client_after, hclient]
      rw [act, perDocument_notify hclient', lastStored_concat_notice, ← ih]
      by_cases hdrops : n.drops uri
      · simp [hdrops]
      · simp [hdrops]
    | store u stored =>
      rw [act, perDocument_storeSettings, lastStored_concat_store, ← ih]
      by_cases hstored : u = uri ∧ (s.after history).isOpen u = true
      · rw [if_pos hstored, if_pos hstored, Option.some.injEq]
      · rw [if_neg hstored, if_neg hstored]

/-- An act that concerns a document keeps nothing for it unless it is open. -/
theorem Part.act_kept {p : Part} (h : p.kept.isSome → p.document.isSome) (a : Act) :
    (p.act a).kept.isSome → (p.act a).document.isSome := by
  cases a with
  | notice n =>
    cases n with
    | opened d =>
      rw [Part.act]
      split
      · exact fun _ => rfl
      · exact h
    | changed u version changes =>
      rw [Part.act, Option.isSome_map]
      exact h
    | closed u => simp [Part.act]
    | configurationChanged report =>
      rw [Part.act]
      split
      · simp
      · exact h
  | store u settings =>
    rw [Part.act]
    split
    · rename_i hopen
      exact fun _ => hopen
    · exact h

/-- **Nothing is kept for a document that is not open.** -/
theorem isOpen_of_kept (hnothing : s.settings.perDocument[uri]? = none) (history : List Act)
    (h : (s.after history).settings.perDocument[uri]? = some settings) :
    (s.after history).isOpen uri = true := by
  have hpart : ((s.after history).part uri).kept.isSome →
      ((s.after history).part uri).document.isSome := by
    rw [part_after]
    generalize history.filter (·.concerns uri) = acts
    induction acts using List.reverseRecOn with
    | nil => simp [part, hnothing]
    | append_singleton acts a ih =>
      rw [List.foldl_append, List.foldl_cons, List.foldl_nil]
      exact Part.act_kept ih a
  rw [isOpen, Std.ExtTreeMap.contains_eq_isSome_getElem?]
  exact hpart (by rw [part, h]; rfl)

/-! ## What was reported last -/

/-- The report of a change of the configuration. -/
def Act.report? : Act → Option Json
  | .notice (.configurationChanged report) => some report
  | _ => none

/-- The last report of a change of the configuration. -/
def lastReport? (history : List Act) : Option Json :=
  (history.filterMap Act.report?).getLast?

theorem shared_act (hclient : s.client.configuration = false) (a : Act) :
    (s.act a).settings.shared = (a.report?.map Settings.ofReport).getD s.settings.shared := by
  cases a with
  | notice n =>
    rw [act, shared_notify hclient]
    cases n <;> rfl
  | store u settings =>
    rw [act, storeSettings]
    split <;> rfl

/-- A client that cannot be asked has reported the settings that hold for all documents. -/
theorem shared_after (hclient : s.client.configuration = false) (history : List Act) :
    (s.after history).settings.shared =
      ((lastReport? history).map Settings.ofReport).getD s.settings.shared := by
  induction history using List.reverseRecOn with
  | nil => rfl
  | append_singleton history a ih =>
    have hclient' : (s.after history).client.configuration = false := by
      rw [client_after, hclient]
    have hlast : lastReport? (history ++ [a]) = a.report?.or (lastReport? history) := by
      simp [lastReport?, List.getLast?_filterMap]
    rw [after_append, after_cons, after_nil, shared_act hclient', ih, hlast]
    cases a.report? <;> rfl

/-! ## The whole -/

/-- **The settings of a document are a matter of history.**  In a session of a client that
can be asked, the settings of a document are known if and only if they were stored for it
while it was open and have been neither dropped nor replaced since.  Whatever the client,
settings are only kept for open documents.  In a session of a client that cannot be asked,
they are always known, and are those of its last report. -/
theorem settings_by_history (client : ClientSupport) (history : List Act) (uri : Uri) :
    (client.configuration = true →
      (∀ settings, ((withClient {} client).after history).settingsFor uri = .ready settings ↔
        LastStored (withClient {} client) history uri settings) ∧
      (((withClient {} client).after history).settingsFor uri = .fetch ↔
        ∀ settings, ¬ LastStored (withClient {} client) history uri settings)) ∧
    (((withClient {} client).after history).settings.perDocument.contains uri = true →
      ((withClient {} client).after history).isOpen uri = true) ∧
    (client.configuration = false →
      ((withClient {} client).after history).settingsFor uri =
        .ready (((lastReport? history).map Settings.ofReport).getD {})) := by
  have hnothing : (withClient {} client).settings.perDocument[uri]? = none :=
    Std.ExtTreeMap.getElem?_empty
  have hsame : ((withClient {} client).after history).client = client := client_after _ _
  refine ⟨fun hasked => ?_, fun hkept => ?_, fun hnever => ?_⟩
  · have hlast (settings : Settings) :
        ((withClient {} client).after history).settings.perDocument[uri]? = some settings ↔
          LastStored (withClient {} client) history uri settings :=
      kept_iff_lastStored hasked hnothing history
    rw [← hsame] at hasked
    refine ⟨fun settings => ?_, ?_⟩
    · rw [settingsFor_eq_ready_iff hasked, hlast]
    · simp only [settingsFor_eq_fetch_iff hasked, ← hlast, Option.eq_none_iff_forall_ne_some]
  · rw [Std.ExtTreeMap.contains_eq_isSome_getElem?, Option.isSome_iff_exists] at hkept
    obtain ⟨settings, hkept⟩ := hkept
    exact isOpen_of_kept hnothing history hkept
  · rw [settingsFor_of_shared (by rw [hsame, hnever]), shared_after hnever]
    rfl

/-- A history with settings that come too early, settings that are replaced after the
document was opened again, and settings of a document that is not open. -/
def storedTwice : List Act :=
  [.store "a" ⟨1⟩, .notice (.opened ⟨"a", "gymlang", 1, []⟩), .store "a" ⟨2⟩,
    .notice (.opened ⟨"a", "gymlang", 2, []⟩), .store "a" ⟨3⟩,
    .notice (.opened ⟨"b", "python", 1, []⟩), .store "b" ⟨4⟩]

/-- The third settings are kept if the client can be asked, and those that it never
reported are the default if it cannot. -/
theorem settings_by_history_storedTwice :
    ((withClient {} { configuration := true }).after storedTwice).settingsFor "a" = .ready ⟨3⟩ ∧
      ((withClient {} { configuration := true }).after storedTwice).isOpen "a" = true ∧
      ((withClient {} {}).after storedTwice).settingsFor "a" = .ready {} := by
  have hlast : LastStored (withClient {} { configuration := true }) storedTwice "a" ⟨3⟩ := by
    refine ⟨storedTwice.take 4, storedTwice.drop 5, rfl, by decide, ?_, ?_⟩
    · intro n hn
      have hn' : n = .opened ⟨"b", "python", 1, []⟩ := by simpa [storedTwice] using hn
      rw [hn']
      exact id
    · intro between other later hrest
      have hmem : Act.store "a" other ∈ storedTwice.drop 5 := by simp [hrest]
      simp [storedTwice] at hmem
  have hasked := settings_by_history { configuration := true } storedTwice "a"
  exact ⟨(hasked.1 rfl).1 ⟨3⟩ |>.2 hlast, hasked.2.1 (by decide),
    (settings_by_history {} storedTwice "a").2.2 rfl⟩

end Session
end GymLang
