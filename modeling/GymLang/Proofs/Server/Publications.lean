import GymLang.Proofs.Server.Runs

/-!
# Publications

What is published for a document, and what the client sees of it, which is the last.

* `publications`, `lastPublication` — what was published for a document.
* `knownPublication?_congr`, `knownPublication?_storing` — when what can be published for a document
  stays the same.
* `Checked.mem_publications`, `Checked.published` — what is published while documents are
  checked is what is known of them, and each is published or still to be checked.
* `publications_withdrawn`, `lastPublication_withdrawn` — what is withdrawn.
-/

namespace GymLang

/-- What was published for a document. -/
def publications (uri : Uri) (out : List Outgoing) : List Publication :=
  out.filterMap fun
    | .publish p => if p.uri = uri then some p else none
    | _ => none

/-- What the client sees of a document. -/
def lastPublication (uri : Uri) (out : List Outgoing) : Option Publication :=
  (publications uri out).getLast?

section Publications

variable {uri u : Uri} {out more : List Outgoing} {p : Publication}

theorem mem_publications : p ∈ publications uri out ↔ .publish p ∈ out ∧ p.uri = uri := by
  rw [publications, List.mem_filterMap]
  constructor
  · rintro ⟨o, ho, hp⟩
    cases o with
    | publish q =>
      obtain ⟨huri, hq⟩ := Option.ite_none_right_eq_some.1 hp
      cases hq
      exact ⟨ho, huri⟩
    | response _ _ | greeting | ask _ _ => cases hp
  · rintro ⟨hp, huri⟩
    exact ⟨_, hp, if_pos huri⟩

@[simp] theorem publications_append (uri : Uri) (out more : List Outgoing) :
    publications uri (out ++ more) = publications uri out ++ publications uri more :=
  List.filterMap_append

theorem publications_of_aside (h : ∀ o ∈ out, o.IsAside) : publications uri out = [] := by
  refine List.eq_nil_iff_forall_not_mem.2 fun p hp => ?_
  exact h _ (mem_publications.1 hp).1

/-- What is not published for a document does not change what the client sees of it. -/
theorem lastPublication_append_of_nil (h : publications uri more = []) :
    lastPublication uri (out ++ more) = lastPublication uri out := by
  rw [lastPublication, publications_append, h, List.append_nil, lastPublication]

/-- The client sees what comes last. -/
theorem lastPublication_append_of_some (h : lastPublication uri more = some p) :
    lastPublication uri (out ++ more) = some p := by
  rw [lastPublication, publications_append, List.getLast?_append, ← lastPublication, h,
    Option.some_or]

/-- If always the same is published, the client sees that. -/
theorem lastPublication_of_forall (hne : publications uri out ≠ [])
    (h : ∀ q ∈ publications uri out, q = p) : lastPublication uri out = some p := by
  rw [lastPublication, List.getLast?_eq_some_getLast hne]
  exact congrArg some (h _ (List.getLast_mem hne))

end Publications

theorem Session.publication?_eq_some {s : Session} {uri : Uri} {settings : Settings}
    {p : Publication} (h : s.publication? Engine.standard uri settings = some p) :
    p.uri = uri ∧ ∃ d, s.documents[uri]? = some d ∧ p.version = some d.version ∧
      p.problems = (Document.problems Engine.standard d.text).take settings.maxProblems := by
  obtain ⟨d, hd, rfl⟩ := Option.map_eq_some_iff.1 h
  exact ⟨rfl, d, hd, rfl, rfl⟩

theorem Session.exists_publication? {s : Session} {uri : Uri} (h : s.isOpen uri = true)
    (settings : Settings) : ∃ p, s.publication? Engine.standard uri settings = some p := by
  obtain ⟨d, hd⟩ := isOpen_iff.1 h
  exact ⟨_, Option.map_eq_some_iff.2 ⟨d, hd, rfl⟩⟩

namespace Server

variable {s t : Server} {out : List Outgoing} {uri u : Uri} {uris : List Uri}
variable {number : Nat} {p : Publication} {settings : Settings} {n : Notice}

/-! ## What can be published -/

theorem knownPublication?_of_ready (h : s.session.settingsFor uri = .ready settings) :
    s.knownPublication? uri = s.session.publication? Engine.standard uri settings := by
  rw [knownPublication?, h]

theorem knownPublication?_eq_some (h : s.knownPublication? uri = some p) :
    ∃ settings, s.session.settingsFor uri = .ready settings ∧
      s.session.publication? Engine.standard uri settings = some p := by
  rw [knownPublication?] at h
  split at h
  · rename_i settings hknown
    exact ⟨settings, hknown, h⟩
  · cases h

theorem uri_of_knownPublication? (h : s.knownPublication? uri = some p) : p.uri = uri := by
  obtain ⟨settings, -, hp⟩ := knownPublication?_eq_some h
  exact (Session.publication?_eq_some hp).1

theorem isOpen_of_knownPublication? (h : s.knownPublication? uri = some p) :
    s.session.isOpen uri = true := by
  obtain ⟨settings, -, hp⟩ := knownPublication?_eq_some h
  obtain ⟨-, d, hd, -⟩ := Session.publication?_eq_some hp
  exact Session.isOpen_iff.2 ⟨d, hd⟩

theorem knownPublication?_congr (hdocuments : t.session.documents[uri]? = s.session.documents[uri]?)
    (hsettings : t.session.settingsFor uri = s.session.settingsFor uri) :
    t.knownPublication? uri = s.knownPublication? uri := by
  simp only [knownPublication?, Session.publication?, hdocuments, hsettings]

theorem Checked.knownPublication?_eq (h : Checked s uris t out) (uri : Uri) :
    t.knownPublication? uri = s.knownPublication? uri :=
  knownPublication?_congr (by rw [h.session_eq]) (by rw [h.session_eq])

/-- What is known of other documents stays when the settings of one come in. -/
theorem knownPublication?_storing (hclient : s.session.client.configuration = true)
    (hne : u ≠ uri) :
    (s.storing number u settings).knownPublication? uri = s.knownPublication? uri := by
  refine knownPublication?_congr (by rw [documents_storing]) ?_
  exact (Session.settingsFor_storeSettings hclient u uri settings).trans
    (if_neg fun h => hne h.1)

theorem settingsFor_storing (hclient : s.session.client.configuration = true)
    (hopen : s.session.isOpen uri = true) (number : Nat) (settings : Settings) :
    (s.storing number uri settings).session.settingsFor uri = .ready settings :=
  (Session.settingsFor_storeSettings hclient uri uri settings).trans (if_pos ⟨rfl, hopen⟩)

/-! ## What is published on the way -/

theorem mem_publications_toList {p? : Option Publication} (h : ∀ q, p? = some q → q.uri = u) :
    p ∈ publications uri (p?.toList.map .publish) ↔ u = uri ∧ p? = some p := by
  rw [mem_publications, List.mem_map]
  constructor
  · rintro ⟨⟨q, hq, hsame⟩, huri⟩
    cases hsame
    rw [Option.mem_toList] at hq
    exact ⟨(h p hq).symm.trans huri, hq⟩
  · rintro ⟨rfl, hp⟩
    exact ⟨⟨p, Option.mem_toList.2 hp, rfl⟩, h p hp⟩

theorem mem_publications_publish :
    p ∈ publications uri (s.publish u settings) ↔
      u = uri ∧ s.session.publication? Engine.standard u settings = some p :=
  mem_publications_toList fun _ hq => (Session.publication?_eq_some hq).1

theorem mem_publications_known :
    p ∈ publications uri (uris.flatMap s.publishKnown) ↔
      uri ∈ uris ∧ s.knownPublication? uri = some p := by
  have hone : ∀ u, p ∈ publications uri (s.publishKnown u) ↔
      u = uri ∧ s.knownPublication? u = some p :=
    fun u => mem_publications_toList fun _ hq => uri_of_knownPublication? hq
  rw [mem_publications, List.mem_flatMap]
  constructor
  · rintro ⟨⟨u, hu, hp⟩, huri⟩
    obtain ⟨rfl, hknown⟩ := (hone u).1 (mem_publications.2 ⟨hp, huri⟩)
    exact ⟨hu, hknown⟩
  · rintro ⟨huri, hknown⟩
    obtain ⟨hp, hsame⟩ := mem_publications.1 ((hone uri).2 ⟨rfl, hknown⟩)
    exact ⟨⟨uri, huri, hp⟩, hsame⟩

theorem publications_suspend (task : Task) : publications uri (s.suspend task).2 = [] :=
  rfl

/-- What is published on the way is known. -/
theorem Checked.mem_publications (h : Checked s uris t out) (hp : p ∈ publications uri out) :
    uri ∈ uris ∧ t.knownPublication? uri = some p := by
  rw [h.knownPublication?_eq]
  cases h with
  | all known => exact mem_publications_known.1 hp
  | upTo done u rest split known unknown =>
    rw [publications_append, publications_suspend, List.append_nil] at hp
    obtain ⟨hmem, hknown⟩ := mem_publications_known.1 hp
    exact ⟨split ▸ List.mem_append_left _ hmem, hknown⟩

theorem Checked.publications_eq_nil (h : Checked s uris t out) (huri : uri ∉ uris) :
    publications uri out = [] :=
  List.eq_nil_iff_forall_not_mem.2 fun _ hp => huri (h.mem_publications hp).1

/-- Nothing is published for a document that is closed. -/
theorem Checked.publications_of_closed (h : Checked s uris t out)
    (hclosed : t.session.isOpen uri = false) : publications uri out = [] := by
  refine List.eq_nil_iff_forall_not_mem.2 fun p hp => ?_
  exact nomatch hclosed.symm.trans (isOpen_of_knownPublication? (h.mem_publications hp).2)

theorem Checked.pending_subset (h : Checked s uris t out) : s.pending ⊆ t.pending := by
  cases h with
  | all known => exact List.Subset.refl _
  | upTo done u rest split known unknown => exact List.subset_append_right _ _

/-- Every document on the list has its problems published, or is still to be checked. -/
theorem Checked.published (h : Checked s uris t out) (huri : uri ∈ uris)
    (hpending : uri ∉ t.pending) (hopen : t.session.isOpen uri = true) :
    ∃ p, t.knownPublication? uri = some p ∧ lastPublication uri out = some p := by
  have hdone : ∃ done : List Uri, uri ∈ done ∧ publications uri out =
      publications uri (done.flatMap s.publishKnown) ∧
      ∃ settings, s.session.settingsFor uri = .ready settings := by
    cases h with
    | all known => exact ⟨uris, huri, rfl, known uri huri⟩
    | upTo done u rest split known unknown =>
      rw [split] at huri
      rcases List.mem_append.1 huri with huri | huri
      · refine ⟨done, huri, ?_, known uri huri⟩
        rw [publications_append, publications_suspend, List.append_nil]
      · exact absurd (List.mem_append_left _ huri) hpending
  rw [h.knownPublication?_eq]
  rw [h.session_eq] at hopen
  obtain ⟨done, huri, hout, settings, hsettings⟩ := hdone
  obtain ⟨p, hp⟩ := Session.exists_publication? hopen settings
  rw [← knownPublication?_of_ready hsettings] at hp
  refine ⟨p, hp, ?_⟩
  rw [lastPublication, hout, ← lastPublication]
  have hmem := mem_publications_known.2 ⟨huri, hp⟩
  refine lastPublication_of_forall (List.ne_nil_of_mem hmem) fun q hq => ?_
  exact Option.some.inj ((mem_publications_known.1 hq).2.symm.trans hp)

/-! ## What is withdrawn -/

theorem publications_withdrawn (h : n ≠ .closed uri) : publications uri (s.withdrawn n) = [] := by
  refine List.eq_nil_iff_forall_not_mem.2 fun p hp => ?_
  obtain ⟨hp, huri⟩ := mem_publications.1 hp
  obtain ⟨u, rfl, hsame⟩ := mem_withdrawn hp
  cases hsame
  exact h (congrArg Notice.closed huri)

theorem lastPublication_withdrawn (h : s.session.isOpen uri = true) :
    lastPublication uri (s.withdrawn (.closed uri)) = some ⟨uri, none, []⟩ := by
  rw [withdrawn, if_pos h, lastPublication, publications]
  simp

theorem withdrawn_of_closed (h : s.session.isOpen uri = false) :
    s.withdrawn (.closed uri) = [] := by
  rw [withdrawn, if_neg (by rw [h]; exact Bool.false_ne_true)]

end Server
end GymLang
