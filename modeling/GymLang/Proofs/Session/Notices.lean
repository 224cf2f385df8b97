import GymLang.Session.Basic

/-!
# What a notice does to a session

Everything the theory of the server has to know about sessions.  A notice changes only
the documents that have to be checked again or are closed by it (`notify_elsewhere`); the
documents to check are open (`isOpen_of_mem_toCheck`); and of the settings that were asked
for, a notice drops those of a closed document, or all of them when the configuration
changes (`perDocument_notify`).
-/

namespace GymLang

/-- The notices that drop what is kept of the settings of a document. -/
def Notice.drops (uri : Uri) : Notice → Prop
  | .closed u => u = uri
  | .configurationChanged _ => True
  | .opened _ => False
  | .changed _ _ _ => False

instance (uri : Uri) (n : Notice) : Decidable (n.drops uri) := by
  cases n <;> unfold Notice.drops <;> infer_instance

namespace Session

variable {s : Session} {n : Notice} {uri : Uri} {settings : Settings}

/-! ## Open documents -/

theorem isOpen_iff : s.isOpen uri = true ↔ ∃ d, s.documents[uri]? = some d := by
  rw [isOpen, Std.ExtTreeMap.contains_eq_isSome_getElem?, Option.isSome_iff_exists]

theorem not_isOpen_iff : s.isOpen uri = false ↔ s.documents[uri]? = none := by
  rw [isOpen, Std.ExtTreeMap.contains_eq_isSome_getElem?, Option.isSome_eq_false_iff,
    Option.isNone_iff_eq_none]

theorem mem_openDocuments : uri ∈ s.openDocuments ↔ s.isOpen uri = true := by
  rw [openDocuments, Std.ExtTreeMap.mem_keys, isOpen, Std.ExtTreeMap.contains_iff_mem]

theorem isOpen_of_documents {t : Session} (h : s.documents[uri]? = t.documents[uri]?) :
    s.isOpen uri = t.isOpen uri := by
  rw [isOpen, isOpen, Std.ExtTreeMap.contains_eq_isSome_getElem?, h,
    Std.ExtTreeMap.contains_eq_isSome_getElem?]

/-! ## Notices -/

@[simp] theorem client_notify (s : Session) (n : Notice) : (s.notify n).client = s.client := by
  unfold notify
  split
  · split <;> rfl
  · split <;> rfl
  · rfl
  · rfl

theorem documents_notify_closed (s : Session) (uri : Uri) :
    (s.notify (.closed uri)).documents[uri]? = none := by
  rw [notify, Std.ExtTreeMap.getElem?_erase_self]

/-- The documents to check again are open. -/
theorem isOpen_of_mem_toCheck (h : uri ∈ s.toCheck n) : (s.notify n).isOpen uri = true := by
  cases n with
  | opened d =>
    rw [toCheck] at h
    split at h
    · rename_i hlanguage
      rw [List.mem_singleton] at h
      subst h
      rw [isOpen_iff, notify, if_pos hlanguage]
      exact ⟨_, Std.ExtTreeMap.getElem?_insert_self⟩
    · exact absurd h List.not_mem_nil
  | changed u version changes =>
    rw [toCheck] at h
    split at h
    · rename_i hopen
      rw [List.mem_singleton] at h
      subst h
      obtain ⟨d, hd⟩ := isOpen_iff.1 hopen
      rw [isOpen_iff]
      simp only [notify, hd]
      exact ⟨_, Std.ExtTreeMap.getElem?_insert_self⟩
    · exact absurd h List.not_mem_nil
  | closed u => exact absurd h List.not_mem_nil
  | configurationChanged report => exact mem_openDocuments.1 h

/-- **A notice leaves the rest alone.**  A document that is not checked again and is not
closed stays as it is, and so does what is known of its settings while it is open. -/
theorem notify_elsewhere (hcheck : uri ∉ s.toCheck n) (hclosed : n ≠ .closed uri) :
    (s.notify n).documents[uri]? = s.documents[uri]? ∧
      (s.isOpen uri = true → (s.notify n).settingsFor uri = s.settingsFor uri) := by
  cases n with
  | opened d =>
    rw [toCheck] at hcheck
    rw [notify]
    split at hcheck
    · rename_i hlanguage
      have hne : d.uri ≠ uri := fun h => hcheck (List.mem_singleton.2 h.symm)
      rw [if_pos hlanguage]
      refine ⟨?_, fun _ => rfl⟩
      rw [Std.ExtTreeMap.getElem?_insert, if_neg (by simpa using hne)]
    · rename_i hlanguage
      rw [if_neg hlanguage]
      exact ⟨rfl, fun _ => rfl⟩
  | changed u version changes =>
    rw [toCheck] at hcheck
    rw [notify]
    split
    · rename_i d hd
      have hopen : s.isOpen u = true := isOpen_iff.2 ⟨d, hd⟩
      rw [if_pos hopen] at hcheck
      have hne : u ≠ uri := fun h => hcheck (List.mem_singleton.2 h.symm)
      refine ⟨?_, fun _ => rfl⟩
      rw [Std.ExtTreeMap.getElem?_insert, if_neg (by simpa using hne)]
    · exact ⟨rfl, fun _ => rfl⟩
  | closed u =>
    have hne : ¬ compare u uri = .eq := by
      simpa using fun h : u = uri => hclosed (congrArg Notice.closed h)
    rw [notify]
    refine ⟨?_, fun _ => ?_⟩
    · rw [Std.ExtTreeMap.getElem?_erase, if_neg hne]
    · simp only [settingsFor, SettingsStore.lookup, SettingsStore.erase,
        Std.ExtTreeMap.getElem?_erase, if_neg hne]
  | configurationChanged report =>
    exact ⟨rfl, fun hopen => absurd (mem_openDocuments.2 hopen) hcheck⟩

/-- **What is dropped.**  For a client that can be asked, a notice keeps the settings of a
document or drops them. -/
theorem perDocument_notify (hclient : s.client.configuration = true) (n : Notice) (uri : Uri) :
    (s.notify n).settings.perDocument[uri]? =
      if n.drops uri then none else s.settings.perDocument[uri]? := by
  cases n with
  | opened d =>
    rw [if_neg (show ¬ Notice.drops uri (.opened d) from id), notify]
    split <;> rfl
  | changed u version changes =>
    rw [if_neg (show ¬ Notice.drops uri (.changed u version changes) from id), notify]
    split <;> rfl
  | closed u =>
    rw [notify, SettingsStore.erase, Std.ExtTreeMap.getElem?_erase]
    by_cases h : u = uri
    · subst h
      rw [if_pos Std.compare_self, if_pos (show Notice.drops u (.closed u) from rfl)]
    · rw [if_neg (by simpa using h), if_neg (show ¬ Notice.drops uri (.closed u) from h)]
  | configurationChanged report =>
    rw [if_pos (show Notice.drops uri (.configurationChanged report) from trivial)]
    simp only [notify, SettingsStore.configurationChanged, if_pos hclient]
    exact Std.ExtTreeMap.getElem?_empty

/-! ## Settings that were asked for -/

@[simp] theorem documents_storeSettings (s : Session) (uri : Uri) (settings : Settings) :
    (s.storeSettings uri settings).documents = s.documents := by
  unfold storeSettings
  split <;> rfl

@[simp] theorem client_storeSettings (s : Session) (uri : Uri) (settings : Settings) :
    (s.storeSettings uri settings).client = s.client := by
  unfold storeSettings
  split <;> rfl

/-- Settings are kept for the document they were asked for, if it is open. -/
theorem perDocument_storeSettings (s : Session) (uri u : Uri) (settings : Settings) :
    (s.storeSettings uri settings).settings.perDocument[u]? =
      if uri = u ∧ s.isOpen uri = true then some settings else s.settings.perDocument[u]? := by
  unfold storeSettings
  split
  · rename_i hopen
    rw [SettingsStore.insert, Std.ExtTreeMap.getElem?_insert]
    by_cases h : uri = u
    · subst h
      rw [if_pos Std.compare_self, if_pos ⟨rfl, hopen⟩]
    · rw [if_neg (by simpa using h), if_neg (fun h' => h h'.1)]
  · rename_i hopen
    rw [if_neg (fun h => hopen h.2)]

/-- What is known of the settings of a document a client can be asked about. -/
theorem settingsFor_of_client (hclient : s.client.configuration = true) (uri : Uri) :
    s.settingsFor uri = match s.settings.perDocument[uri]? with
      | some settings => .ready settings
      | none => .fetch :=
  if_pos hclient

theorem settingsFor_eq_ready_iff (hclient : s.client.configuration = true) :
    s.settingsFor uri = .ready settings ↔ s.settings.perDocument[uri]? = some settings := by
  rw [settingsFor_of_client hclient]
  cases s.settings.perDocument[uri]? <;> simp

theorem settingsFor_eq_fetch_iff (hclient : s.client.configuration = true) :
    s.settingsFor uri = .fetch ↔ s.settings.perDocument[uri]? = none := by
  rw [settingsFor_of_client hclient]
  cases s.settings.perDocument[uri]? <;> simp

theorem settingsFor_storeSettings (hclient : s.client.configuration = true) (uri u : Uri)
    (settings : Settings) :
    (s.storeSettings uri settings).settingsFor u =
      if uri = u ∧ s.isOpen uri = true then .ready settings else s.settingsFor u := by
  rw [settingsFor_of_client ((client_storeSettings s uri settings).symm ▸ hclient),
    settingsFor_of_client hclient, perDocument_storeSettings]
  by_cases hstored : uri = u ∧ s.isOpen uri = true
  · rw [if_pos hstored, if_pos hstored]
  · rw [if_neg hstored, if_neg hstored]

/-! ## Settings that were reported -/

/-- The report of a change replaces the settings of a client that cannot be asked. -/
theorem shared_notify (h : s.client.configuration = false) (n : Notice) :
    (s.notify n).settings.shared =
      match n with
      | .configurationChanged report => Settings.ofReport report
      | _ => s.settings.shared := by
  cases n with
  | opened d => rw [notify]; split <;> rfl
  | changed uri version changes => rw [notify]; split <;> rfl
  | closed uri => rfl
  | configurationChanged report =>
    rw [notify, SettingsStore.configurationChanged, if_neg (by rw [h]; exact Bool.false_ne_true)]

theorem settingsFor_of_shared (h : s.client.configuration = false) (uri : Uri) :
    s.settingsFor uri = .ready s.settings.shared := by
  rw [settingsFor, SettingsStore.lookup, if_neg (by rw [h]; exact Bool.false_ne_true)]

end Session
end GymLang
