import GymLang.Proofs.Session.Parts

/-!
# Documents do not interfere

Whatever an editor is told of a document is told from its part of the session
(`alike_of_part`).  So it makes no difference to a document what else is opened, edited,
closed or configured by name (`documents_do_not_interfere`), and two acts that are about
different documents may happen in either order.
-/

namespace GymLang
namespace Session

variable {engine : Engine} {s t : Session} {uri : Uri}

/-! ## What is told of a document -/

/-- Two sessions tell the same of a document. -/
structure Alike (engine : Engine) (uri : Uri) (s t : Session) : Prop where
  isOpen : s.isOpen uri = t.isOpen uri
  text : s.text? uri = t.text? uri
  settings : s.settingsFor uri = t.settingsFor uri
  publication : ∀ settings,
    s.publication? engine uri settings = t.publication? engine uri settings
  hover : ∀ p, s.answer engine (.hover uri p) = t.answer engine (.hover uri p)
  definition : ∀ p, s.answer engine (.definition uri p) = t.answer engine (.definition uri p)
  outline : s.answer engine (.outline uri) = t.answer engine (.outline uri)

/-- **A part is all that is told of a document.** -/
theorem alike_of_part (h : s.part uri = t.part uri) : Alike engine uri s t := by
  obtain ⟨hdocument, hkept, hshared, hclient⟩ := Part.mk.inj h
  have htext : s.text? uri = t.text? uri := by rw [text?, text?, hdocument]
  exact {
    isOpen := isOpen_of_documents hdocument
    text := htext
    settings := by
      simp only [settingsFor, SettingsStore.lookup, hkept, hshared, hclient]
    publication := fun settings => by rw [publication?, publication?, hdocument]
    hover := fun p => by rw [answer, answer, htext]
    definition := fun p => by rw [answer, answer, htext]
    outline := by rw [answer, answer, htext] }

/-! ## Acts about different documents -/

/-- Of two acts about different documents, at most one concerns any given document, so
their order is of no account. -/
theorem filter_concerns_swap {a b : Act} {u v : Uri} (ha : a.uri? = some u)
    (hb : b.uri? = some v) (hne : u ≠ v) (rest : List Act) (uri : Uri) :
    (a :: b :: rest).filter (·.concerns uri) = (b :: a :: rest).filter (·.concerns uri) := by
  by_cases hu : u = uri
  · have hv : v ≠ uri := fun hv => hne (hu.trans hv.symm)
    simp [Act.concerns_of_uri? ha, Act.concerns_of_uri? hb, hu, hv]
  · simp [Act.concerns_of_uri? ha, Act.concerns_of_uri? hb, hu, List.filter_cons]

/-- **Documents do not interfere.**  What is told of a document after a history is told as
well after the acts of the history that concern the document; and acts about different
documents may change places. -/
theorem documents_do_not_interfere (engine : Engine) (s : Session) :
    (∀ (history : List Act) (uri : Uri),
      Alike engine uri (s.after history) (s.after (history.filter (·.concerns uri)))) ∧
    ∀ (before rest : List Act) (a b : Act) (u v : Uri), a.uri? = some u → b.uri? = some v →
      u ≠ v → s.after (before ++ a :: b :: rest) = s.after (before ++ b :: a :: rest) := by
  refine ⟨fun history uri => alike_of_part ?_, fun before rest a b u v ha hb hne => ?_⟩
  · rw [part_after, part_after, List.filter_filter]
    simp only [Bool.and_self]
  · refine ext_part fun uri => ?_
    rw [part_after, part_after, List.filter_append, List.filter_append,
      filter_concerns_swap ha hb hne rest uri]

/-- One document is closed while the settings of another are stored. -/
theorem documents_do_not_interfere_closed :
    (Act.store "a" ⟨7⟩).uri? = some "a" ∧ (Act.notice (.closed "b")).uri? = some "b" ∧
      "a" ≠ "b" ∧
      (withClient {} { configuration := true }).after
          [.notice (.opened ⟨"a", "gymlang", 1, []⟩), .notice (.opened ⟨"b", "gymlang", 1, []⟩),
            .store "b" ⟨3⟩, .store "a" ⟨7⟩, .notice (.closed "b"),
            .notice (.configurationChanged .null)] =
        (withClient {} { configuration := true }).after
          [.notice (.opened ⟨"a", "gymlang", 1, []⟩), .notice (.opened ⟨"b", "gymlang", 1, []⟩),
            .store "b" ⟨3⟩, .notice (.closed "b"), .store "a" ⟨7⟩,
            .notice (.configurationChanged .null)] :=
  have hne : "a" ≠ "b" := by decide
  ⟨rfl, rfl, hne, (documents_do_not_interfere Engine.standard _).2
    [.notice (.opened ⟨"a", "gymlang", 1, []⟩), .notice (.opened ⟨"b", "gymlang", 1, []⟩),
      .store "b" ⟨3⟩] [.notice (.configurationChanged .null)] (.store "a" ⟨7⟩)
    (.notice (.closed "b")) "a" "b" rfl rfl hne⟩

end Session
end GymLang
