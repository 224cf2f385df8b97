import GymLang.Proofs.Session.Notices

/-!
# A session, document by document

A session keeps the open documents in one table and the settings that were asked for in
another, and what happens to it goes through both.  `Session.part` is what it knows of a
single document, and `Part.act` is what an act does to that much.

* `part_act` — an act changes the parts of the documents it concerns, and no other.
* `part_after` — so the part of a document can be told from the acts that concern it.
* `ext_part` — a session is no more than its parts.
-/

namespace GymLang

/-- The document a notice is about.  A change of the configuration is about none. -/
def Notice.uri? : Notice → Option Uri
  | .opened d => some d.uri
  | .changed uri _ _ => some uri
  | .closed uri => some uri
  | .configurationChanged _ => none

/-- An entry of a list with one more entry at the end is the last one or one before it. -/
theorem split_concat {α : Type} {l before rest : List α} {a last : α}
    (h : l ++ [last] = before ++ a :: rest) :
    (l = before ∧ last = a ∧ rest = []) ∨
      ∃ more, l = before ++ a :: more ∧ rest = more ++ [last] := by
  rcases List.eq_nil_or_concat rest with rfl | ⟨more, last', rfl⟩
  · obtain ⟨hbefore, hlast⟩ := List.append_singleton_inj.1 h
    exact .inl ⟨hbefore, hlast, rfl⟩
  · rw [List.concat_eq_append] at h ⊢
    rw [← List.cons_append, ← List.append_assoc] at h
    obtain ⟨hbefore, rfl⟩ := List.append_singleton_inj.1 h
    exact .inr ⟨more, hbefore, rfl⟩

namespace Session

/-! ## Histories -/

/-- What happens to a session once the client has introduced itself. -/
inductive Act
  /-- A notice is taken in. -/
  | notice (n : Notice)
  /-- The client has given its settings for a document. -/
  | store (uri : Uri) (settings : Settings)

namespace Act

/-- The document an act is about. -/
def uri? : Act → Option Uri
  | notice n => n.uri?
  | store uri _ => some uri

/-- Whether an act concerns a document: it is about this one, or about none. -/
def concerns (uri : Uri) (a : Act) : Bool :=
  match a.uri? with
  | some u => u == uri
  | none => true

theorem concerns_of_uri? {a : Act} {u : Uri} (h : a.uri? = some u) (uri : Uri) :
    a.concerns uri = (u == uri) := by
  rw [concerns, h]

end Act

/-- The session after an act. -/
def act (s : Session) : Act → Session
  | .notice n => s.notify n
  | .store uri settings => s.storeSettings uri settings

/-- The session after a history. -/
def after (s : Session) (history : List Act) : Session := history.foldl act s

variable {s t : Session} {a : Act} {uri : Uri} {history : List Act}

@[simp] theorem after_nil (s : Session) : s.after [] = s := rfl

@[simp] theorem after_cons (s : Session) (a : Act) (history : List Act) :
    s.after (a :: history) = (s.act a).after history := rfl

@[simp] theorem after_append (s : Session) (before history : List Act) :
    s.after (before ++ history) = (s.after before).after history :=
  List.foldl_append

@[simp] theorem client_act (s : Session) (a : Act) : (s.act a).client = s.client := by
  cases a with
  | notice n => exact client_notify s n
  | store uri settings => exact client_storeSettings s uri settings

@[simp] theorem client_after (s : Session) (history : List Act) :
    (s.after history).client = s.client := by
  induction history generalizing s with
  | nil => rfl
  | cons a history ih => rw [after_cons, ih, client_act]

/-! ## Parts -/

/-- What a session knows of one document. -/
structure Part where
  document : Option Document
  /-- The settings the client gave for the document. -/
  kept : Option Settings
  /-- The settings of a client that cannot be asked. -/
  shared : Settings
  client : ClientSupport

/-- The part of a session that a document has. -/
def part (s : Session) (uri : Uri) : Part :=
  ⟨s.documents[uri]?, s.settings.perDocument[uri]?, s.settings.shared, s.client⟩

/-- What an act that concerns a document does to its part. -/
def Part.act (p : Part) : Act → Part
  | .notice (.opened d) =>
    if d.language = language then { p with document := some ⟨d.text, d.version⟩ } else p
  | .notice (.changed _ version changes) =>
    { p with document := p.document.map (·.edit changes version) }
  | .notice (.closed _) => { p with document := none, kept := none }
  | .notice (.configurationChanged report) =>
    if p.client.configuration then { p with kept := none }
    else { p with shared := .ofReport report }
  | .store _ settings => if p.document.isSome then { p with kept := some settings } else p

theorem part_opened (s : Session) (d : OpenedDocument) (uri : Uri) :
    (s.notify (.opened d)).part uri =
      if d.uri = uri then (s.part uri).act (.notice (.opened d)) else s.part uri := by
  by_cases hlanguage : d.language = language
  · by_cases huri : d.uri = uri
    · simp [notify, part, Part.act, hlanguage, huri]
    · simp [notify, part, hlanguage, huri, Std.ExtTreeMap.getElem?_insert]
  · simp [notify, part, Part.act, hlanguage]

theorem part_changed (s : Session) (u : Uri) (version : Int) (changes : List Document.Change)
    (uri : Uri) :
    (s.notify (.changed u version changes)).part uri =
      if u = uri then (s.part uri).act (.notice (.changed u version changes))
      else s.part uri := by
  by_cases huri : u = uri
  · subst huri
    cases hd : s.documents[u]? with
    | none => simp [notify, part, Part.act, hd]
    | some d => simp [notify, part, Part.act, hd]
  · cases hd : s.documents[u]? with
    | none => simp [notify, part, huri, hd]
    | some d => simp [notify, part, huri, hd, Std.ExtTreeMap.getElem?_insert]

theorem part_closed (s : Session) (u uri : Uri) :
    (s.notify (.closed u)).part uri =
      if u = uri then (s.part uri).act (.notice (.closed u)) else s.part uri := by
  by_cases huri : u = uri
  · simp [notify, part, Part.act, SettingsStore.erase, huri]
  · simp [notify, part, SettingsStore.erase, huri, Std.ExtTreeMap.getElem?_erase]

theorem part_configurationChanged (s : Session) (report : Json) (uri : Uri) :
    (s.notify (.configurationChanged report)).part uri =
      (s.part uri).act (.notice (.configurationChanged report)) := by
  by_cases hclient : s.client.configuration = true
  · simp [notify, part, Part.act, SettingsStore.configurationChanged, hclient]
  · simp [notify, part, Part.act, SettingsStore.configurationChanged, hclient]

theorem part_storeSettings (s : Session) (u : Uri) (settings : Settings) (uri : Uri) :
    (s.storeSettings u settings).part uri =
      if u = uri then (s.part uri).act (.store u settings) else s.part uri := by
  have hopen (v : Uri) : s.isOpen v = s.documents[v]?.isSome :=
    Std.ExtTreeMap.contains_eq_isSome_getElem?
  by_cases huri : u = uri
  · subst huri
    cases hd : s.documents[u]? with
    | none => simp [storeSettings, part, Part.act, hopen, hd]
    | some d => simp [storeSettings, part, Part.act, hopen, hd, SettingsStore.insert]
  · cases hd : s.documents[u]? with
    | none => simp [storeSettings, part, huri, hopen, hd]
    | some d =>
      simp [storeSettings, part, huri, hopen, hd, SettingsStore.insert,
        Std.ExtTreeMap.getElem?_insert]

/-- **An act keeps to the parts it concerns.** -/
theorem part_act (s : Session) (a : Act) (uri : Uri) :
    (s.act a).part uri = if a.concerns uri then (s.part uri).act a else s.part uri := by
  cases a with
  | notice n =>
    cases n with
    | opened d => simp [act, part_opened, Act.concerns, Act.uri?, Notice.uri?]
    | changed u version changes => simp [act, part_changed, Act.concerns, Act.uri?, Notice.uri?]
    | closed u => simp [act, part_closed, Act.concerns, Act.uri?, Notice.uri?]
    | configurationChanged report =>
      simp [act, part_configurationChanged, Act.concerns, Act.uri?, Notice.uri?]
  | store u settings => simp [act, part_storeSettings, Act.concerns, Act.uri?]

/-- The part of a document after a history is told by the acts that concern it. -/
theorem part_after (s : Session) (history : List Act) (uri : Uri) :
    (s.after history).part uri =
      (history.filter (·.concerns uri)).foldl Part.act (s.part uri) := by
  induction history generalizing s with
  | nil => rfl
  | cons a history ih =>
    rw [after_cons, ih, part_act]
    by_cases h : a.concerns uri = true
    · rw [if_pos h, List.filter_cons_of_pos h, List.foldl_cons]
    · rw [if_neg h, List.filter_cons_of_neg h]

/-- **A session is its parts.** -/
theorem ext_part (h : ∀ uri, s.part uri = t.part uri) : s = t := by
  obtain ⟨documents, ⟨perDocument, shared⟩, client⟩ := s
  obtain ⟨documents', ⟨perDocument', shared'⟩, client'⟩ := t
  have hpart (uri : Uri) := Part.mk.inj (h uri)
  have hdocuments : documents = documents' :=
    Std.ExtTreeMap.ext_getElem? fun uri => (hpart uri).1
  have hkept : perDocument = perDocument' :=
    Std.ExtTreeMap.ext_getElem? fun uri => (hpart uri).2.1
  obtain ⟨-, -, hshared, hclient⟩ := hpart ""
  cases hdocuments
  cases hkept
  cases hshared
  cases hclient
  rfl

end Session
end GymLang
