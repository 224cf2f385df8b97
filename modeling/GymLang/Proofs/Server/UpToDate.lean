import GymLang.Proofs.Server.Publications

/-!
# What the client sees of the documents

The client sees the problems that were published last.  Between the steps of a run it may
see the problems of a text that has been edited, but only of documents that some task is
still to check; in the end it sees what is there.

* `UpToDate` — the invariant: of an open document that no task is still to check, the
  client sees the problems that its settings allow, and of any other document nothing.
* `upToDate_run` — it holds after every run that has not come to its end.
* `published_current` — **the main result**: whatever is published with a version is true
  of the document at that moment, and when nothing is left to do the client sees the
  current problems of the open documents and of no others.
-/

namespace GymLang
namespace Server

variable {s t : Server} {e : Event} {sent out : List Outgoing} {uri u : Uri}
variable {number : Nat} {p : Publication} {settings : Settings} {n : Notice}

/-! ## The invariant -/

/-- What the client sees of the documents that no task is still to check. -/
structure UpToDate (s : Server) (sent : List Outgoing) : Prop where
  /-- Of an open document, the problems that its settings allow. -/
  shown : ∀ uri, s.session.isOpen uri = true → uri ∉ s.pending →
    ∃ p, s.knownPublication? uri = some p ∧ lastPublication uri sent = some p
  /-- Of any other document, nothing. -/
  hidden : ∀ uri, s.session.isOpen uri = false →
    ∀ p, lastPublication uri sent = some p → p = ⟨uri, none, []⟩

namespace UpToDate

theorem initial : UpToDate {} [] where
  shown uri hopen := by
    rw [Session.isOpen, Std.ExtTreeMap.contains_empty] at hopen
    cases hopen
  hidden _ _ _ hp := nomatch hp

/-- A document that a step leaves alone is seen as before. -/
theorem shown_of_eq (h : UpToDate s sent)
    (hdocuments : t.session.documents[uri]? = s.session.documents[uri]?)
    (hsettings : s.session.isOpen uri = true →
      t.session.settingsFor uri = s.session.settingsFor uri)
    (hopen : t.session.isOpen uri = true) (hpending : uri ∉ s.pending)
    (hout : publications uri out = []) :
    ∃ p, t.knownPublication? uri = some p ∧ lastPublication uri (sent ++ out) = some p := by
  have hopen' := (Session.isOpen_of_documents hdocuments).symm.trans hopen
  obtain ⟨p, hp, hlast⟩ := h.shown uri hopen' hpending
  refine ⟨p, (knownPublication?_congr hdocuments (hsettings hopen')).trans hp, ?_⟩
  rw [lastPublication_append_of_nil hout, hlast]

theorem hidden_of_eq (h : UpToDate s sent)
    (hdocuments : t.session.documents[uri]? = s.session.documents[uri]?)
    (hclosed : t.session.isOpen uri = false) (hout : publications uri out = [])
    (hp : lastPublication uri (sent ++ out) = some p) : p = ⟨uri, none, []⟩ := by
  rw [lastPublication_append_of_nil hout] at hp
  exact h.hidden uri ((Session.isOpen_of_documents hdocuments).symm.trans hclosed) p hp

/-- A step that leaves all documents alone and publishes nothing. -/
theorem of_eq (h : UpToDate s sent) (hdocuments : t.session.documents = s.session.documents)
    (hsettings : ∀ uri, s.session.isOpen uri = true →
      t.session.settingsFor uri = s.session.settingsFor uri)
    (hpending : s.pending ⊆ t.pending) (hout : ∀ uri, publications uri out = []) :
    UpToDate t (sent ++ out) where
  shown uri hopen huri := by
    refine h.shown_of_eq (by rw [hdocuments]) (hsettings uri) hopen ?_ (hout uri)
    exact fun hmem => huri (hpending hmem)
  hidden uri hclosed p hp := h.hidden_of_eq (by rw [hdocuments]) hclosed (hout uri) hp

/-- A notice is taken in. -/
theorem noticed (h : UpToDate s sent)
    (hchecked : Checked (s.taking n) (s.session.toCheck n) t out) :
    UpToDate t (sent ++ (out ++ s.withdrawn n)) where
  shown uri hopen huri := by
    have hclosed : n ≠ .closed uri := by
      rintro rfl
      rw [hchecked.session_eq] at hopen
      obtain ⟨d, hd⟩ := Session.isOpen_iff.1 hopen
      exact nomatch (Session.documents_notify_closed s.session uri).symm.trans hd
    by_cases hcheck : uri ∈ s.session.toCheck n
    · -- The document is checked on the way, so its problems are published again.
      obtain ⟨p, hp, hlast⟩ := hchecked.published hcheck huri hopen
      refine ⟨p, hp, ?_⟩
      rw [← List.append_assoc, lastPublication_append_of_nil (publications_withdrawn hclosed)]
      exact lastPublication_append_of_some hlast
    · -- The notice is about other documents.
      obtain ⟨hdocuments, hsettings⟩ := Session.notify_elsewhere hcheck hclosed
      refine h.shown_of_eq (by rw [hchecked.session_eq]; exact hdocuments)
        (by rw [hchecked.session_eq]; exact hsettings) hopen
        (fun hmem => huri (hchecked.pending_subset hmem)) ?_
      rw [publications_append, hchecked.publications_eq_nil hcheck,
        publications_withdrawn hclosed, List.append_nil]
  hidden uri hclosed p hp := by
    have hout := hchecked.publications_of_closed hclosed
    by_cases hn : n = .closed uri
    · subst hn
      cases hopen : s.session.isOpen uri with
      | true =>
        rw [← List.append_assoc,
          lastPublication_append_of_some (lastPublication_withdrawn hopen)] at hp
        exact (Option.some.inj hp).symm
      | false =>
        rw [withdrawn_of_closed hopen, List.append_nil, lastPublication_append_of_nil hout] at hp
        exact h.hidden uri hopen p hp
    · have hcheck : uri ∉ s.session.toCheck n := by
        intro hmem
        rw [hchecked.session_eq] at hclosed
        exact nomatch hclosed.symm.trans (Session.isOpen_of_mem_toCheck hmem)
      obtain ⟨hdocuments, -⟩ := Session.notify_elsewhere hcheck hn
      refine h.hidden_of_eq (by rw [hchecked.session_eq]; exact hdocuments) hclosed ?_ hp
      rw [publications_append, hout, publications_withdrawn hn, List.append_nil]

/-- The settings of a document come in. -/
theorem replied (h : UpToDate s sent) (hs : WellFormed s) {rest : List Uri}
    (hwaits : s.tasks.lookup number = some (.check u rest))
    (hchecked : Checked (s.storing number u settings) rest t out) :
    UpToDate t (sent ++ ((s.storing number u settings).publish u settings ++ out)) where
  shown uri hopen huri := by
    have hclient := hs.askable_of_lookup hwaits
    by_cases hrest : uri ∈ rest
    · -- The document is checked again after the one that the settings are for.
      obtain ⟨p, hp, hlast⟩ := hchecked.published hrest huri hopen
      exact ⟨p, hp, lastPublication_append_of_some (lastPublication_append_of_some hlast)⟩
    · have hout := hchecked.publications_eq_nil hrest
      by_cases hsame : u = uri
      · subst hsame
        rw [hchecked.session_eq] at hopen
        have hsettings := settingsFor_storing hclient ((isOpen_storing ..).symm.trans hopen)
          number settings
        obtain ⟨p, hp⟩ := Session.exists_publication? hopen settings
        refine ⟨p, ?_, lastPublication_append_of_some ?_⟩
        · rw [hchecked.knownPublication?_eq, knownPublication?_of_ready hsettings, hp]
        · rw [lastPublication_append_of_nil hout]
          have hmem := mem_publications_publish.2 ⟨rfl, hp⟩
          refine lastPublication_of_forall (List.ne_nil_of_mem hmem) fun q hq => ?_
          exact Option.some.inj ((mem_publications_publish.1 hq).2.symm.trans hp)
      · have hpending : uri ∉ s.pending := by
          intro hmem
          rcases hs.pending_without hwaits hmem with hmem | hmem
          · rcases List.mem_cons.1 hmem with rfl | hmem
            · exact hsame rfl
            · exact hrest hmem
          · exact huri (hchecked.pending_subset hmem)
        have hsettings := Session.settingsFor_storeSettings hclient u uri settings
        rw [if_neg fun hand => hsame hand.1] at hsettings
        refine h.shown_of_eq (by rw [hchecked.session_eq, documents_storing])
          (fun _ => by rw [hchecked.session_eq]; exact hsettings) hopen hpending ?_
        rw [publications_append, hout, List.append_nil]
        exact List.eq_nil_iff_forall_not_mem.2 fun q hq =>
          hsame (mem_publications_publish.1 hq).1
  hidden uri hclosed p hp := by
    refine h.hidden_of_eq (by rw [hchecked.session_eq, documents_storing]) hclosed ?_ hp
    rw [publications_append, hchecked.publications_of_closed hclosed, List.append_nil]
    refine List.eq_nil_iff_forall_not_mem.2 fun q hq => ?_
    obtain ⟨rfl, htrue⟩ := mem_publications_publish.1 hq
    obtain ⟨-, d, hd, -⟩ := Session.publication?_eq_some htrue
    rw [hchecked.session_eq] at hclosed
    exact nomatch (Session.not_isOpen_iff.1 hclosed).symm.trans hd

theorem step (h : UpToDate s sent) (hs : WellFormed s) (hstep : Step s e t out)
    (hended : t.phase ≠ .ended) : UpToDate t (sent ++ out) := by
  cases hstep with
  | noticed n running checked => exact h.noticed checked
  | replied number r uri rest waits checked => exact h.replied hs waits checked
  | watched number r waits =>
    refine h.of_eq rfl (fun _ _ => rfl) (fun uri huri => ?_) fun _ => rfl
    exact (hs.pending_without waits huri).resolve_left List.not_mem_nil
  | begun i client waiting =>
    refine h.of_eq rfl (fun uri hopen => ?_) (List.Subset.refl _) fun _ => rfl
    rw [hs.untouched waiting, Session.isOpen, Std.ExtTreeMap.contains_empty] at hopen
    cases hopen
  | greeted running configuration =>
    exact h.of_eq rfl (fun _ _ => rfl) (List.subset_append_right _ _) fun _ => rfl
  | stopped m running body aside =>
    exact h.of_eq rfl (fun _ _ => rfl) (List.Subset.refl _) fun _ => publications_of_aside aside
  | ended id => exact absurd rfl hended
  | passed e notice reply aside =>
    exact h.of_eq rfl (fun _ _ => rfl) (List.Subset.refl _) fun _ => publications_of_aside aside

end UpToDate

/-- What the client sees after a run is up to date. -/
theorem upToDate_run (events : List Event) (h : (run {} events).1.phase ≠ .ended) :
    UpToDate (run {} events).1 (run {} events).2 := by
  have hrun := run_invariant
    (P := fun s sent => WellFormed s ∧ (s.phase ≠ .ended → UpToDate s sent))
    ⟨wellFormed_initial, fun _ => UpToDate.initial⟩
    (fun h hstep => ⟨h.1.step hstep, fun hended =>
      (h.2 (hstep.not_ended hended)).step h.1 hstep hended⟩) events
  exact hrun.2 h

/-! ## Main result -/

/-- What a step publishes is withdrawn, or it is what is known after the step, with the
settings that came in with the step if it is the document they were asked for. -/
theorem Step.published (hs : WellFormed s) (hstep : Step s e t out) (hp : .publish p ∈ out) :
    p.version = none ∨ t.knownPublication? p.uri = some p ∧
      ∀ number r rest, e = .reply number r →
        s.tasks.lookup number = some (.check p.uri rest) →
          t.session.settingsFor p.uri = .ready r.settings := by
  cases hstep with
  | noticed n running checked =>
    rcases List.mem_append.1 hp with hp | hp
    · have hknown := (checked.mem_publications (mem_publications.2 ⟨hp, rfl⟩)).2
      exact .inr ⟨hknown, fun _ _ _ h => nomatch h⟩
    · obtain ⟨u, -, hsame⟩ := mem_withdrawn hp
      cases hsame
      exact .inl rfl
  | replied number r u rest waits checked =>
    have hclient := hs.askable_of_lookup waits
    have hstored : t.session.isOpen u = true → t.session.settingsFor u = .ready r.settings := by
      intro hopen
      rw [checked.session_eq] at hopen ⊢
      exact settingsFor_storing hclient ((isOpen_storing ..).symm.trans hopen) number r.settings
    have hknown : t.knownPublication? p.uri = some p := by
      rcases List.mem_append.1 hp with hp | hp
      · obtain ⟨rfl, hp⟩ := mem_publications_publish.1 (mem_publications.2 ⟨hp, rfl⟩)
        obtain ⟨-, d, hd, -⟩ := Session.publication?_eq_some hp
        rw [← checked.session_eq] at hd hp
        rw [knownPublication?_of_ready (hstored (Session.isOpen_iff.2 ⟨d, hd⟩)), hp]
      · exact (checked.mem_publications (mem_publications.2 ⟨hp, rfl⟩)).2
    refine .inr ⟨hknown, fun number' r' rest' h hlookup => ?_⟩
    cases h
    cases waits.symm.trans hlookup
    exact hstored (isOpen_of_knownPublication? hknown)
  | begun i client waiting => exact nomatch List.mem_singleton.1 hp
  | greeted running configuration =>
    rcases List.mem_cons.1 hp with hp | hp
    · cases hp
    · exact nomatch List.mem_singleton.1 hp
  | watched number r waits => exact absurd hp List.not_mem_nil
  | ended id => exact absurd hp List.not_mem_nil
  | stopped m running body aside => exact absurd (aside _ hp) id
  | passed e notice reply aside => exact absurd (aside _ hp) id

/-- **The client sees what is there.**  In every run, whatever is published with a version
belongs to a document that is open at that moment: it has the version of that document, and
of the problems of its text as many as the settings allow with which it was checked.  When
nothing is left to do, the last that was published for an open document has its version
and is the beginning of its problems, and the last that was published for any other
document is empty. -/
theorem published_current (events : List Event) :
    (∀ before e after, events = before ++ e :: after →
      ∀ p version, .publish p ∈ ((run {} before).1.step e).2 → p.version = some version →
        ∃ d settings, ((run {} before).1.step e).1.session.documents[p.uri]? = some d ∧
          version = d.version ∧
          p.problems = (Document.problems Engine.standard d.text).take settings.maxProblems ∧
          ((run {} before).1.step e).1.session.settingsFor p.uri = .ready settings ∧
          ∀ number r rest, e = .reply number r →
            (run {} before).1.tasks.lookup number = some (.check p.uri rest) →
              settings = r.settings) ∧
    ((∀ e ∈ events, ¬ e.IsExit) → (run {} events).1.tasks = [] → ∀ uri,
      (∀ d, (run {} events).1.session.documents[uri]? = some d →
        ∃ p, lastPublication uri (run {} events).2 = some p ∧ p.version = some d.version ∧
          p.problems <+: Document.problems Engine.standard d.text) ∧
      ((run {} events).1.session.documents[uri]? = none →
        ∀ p, lastPublication uri (run {} events).2 = some p → p = ⟨uri, none, []⟩)) := by
  constructor
  · intro before e after _ p version hp hversion
    rcases (step_cases _ e).published (wellFormed_run before) hp with hnone | ⟨hknown, hreply⟩
    · exact nomatch hnone.symm.trans hversion
    · obtain ⟨settings, hsettings, htrue⟩ := knownPublication?_eq_some hknown
      obtain ⟨-, d, hd, hsame, hproblems⟩ := Session.publication?_eq_some htrue
      refine ⟨d, settings, hd, Option.some.inj (hversion.symm.trans hsame), hproblems, hsettings,
        fun number r rest he hlookup => ?_⟩
      cases hsettings.symm.trans (hreply number r rest he hlookup)
      rfl
  · intro hexit htasks uri
    have h := upToDate_run events (not_ended_run hexit)
    constructor
    · intro d hd
      have hpending : uri ∉ (run {} events).1.pending := by
        rw [pending, htasks]
        exact List.not_mem_nil
      obtain ⟨p, hknown, hlast⟩ := h.shown uri (Session.isOpen_iff.2 ⟨d, hd⟩) hpending
      obtain ⟨settings, -, hp⟩ := knownPublication?_eq_some hknown
      obtain ⟨-, d', hd', hversion, hproblems⟩ := Session.publication?_eq_some hp
      cases hd.symm.trans hd'
      exact ⟨p, hlast, hversion, hproblems ▸ List.take_prefix _ _⟩
    · intro hclosed
      exact h.hidden uri (Session.not_isOpen_iff.2 hclosed)

/-- A reply that comes after the document was edited. -/
def lateReply : List Event :=
  [.message ⟨some (.number 1), .start { configuration := true }⟩,
    .message ⟨none, .notice (.opened ⟨"u", "gymlang", 1, ['?']⟩)⟩,
    .message ⟨none, .notice (.changed "u" 2 [⟨none, []⟩])⟩,
    .reply 1 (.value (.array [.array [.nat 1]])), .reply 0 .failed]

theorem published_current_lateReply :
    ∃ p, lastPublication "u" (run {} lateReply).2 = some p ∧ p.version = some 2 ∧
      p.problems <+: Document.problems Engine.standard [] :=
  ((published_current lateReply).2 (by simp [lateReply, Event.IsExit]) (by decide) "u").1 ⟨[], 2⟩
    (by decide)

end Server
end GymLang
