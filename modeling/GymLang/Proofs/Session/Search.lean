import Mathlib.Data.List.Flatten
import Mathlib.Data.List.Infix
import Mathlib.Data.String.Basic
import GymLang.Proofs.Document.Rowwise
import GymLang.Proofs.Line.Leading
import GymLang.Proofs.Session.Notices

/-!
# Searches over the open documents

A search goes through the outlines of all open documents and keeps the entries whose keyword
it asks for.  The table of documents has an order of its own, so nothing in the answer comes
from the order in which documents were opened or edited.

* `occursIn_iff` — a text occurs in another where it is a stretch of it.
* `Lowered`, `matchesQuery_iff_lowered` — the two small forms of a capital sigma make no difference
  to what a query asks for.
* `texts_eq_of_text?` — the texts of the open documents, as they are gone through, hang on
  which documents are open and on their texts only.
* `mem_search_iff`, `pairwise_search` — what is found, and in which order.
* `search_sublist` — a longer query finds less, in the same order.
* `search_by_text` — **the answer to a search**, as the four together.
-/

namespace GymLang

/-! ## Parts of keywords -/

/-- A text occurs in another if it is a stretch of it. -/
theorem Text.occursIn_iff {part t : Text} : occursIn part t = true ↔ part <:+: t := by
  induction t with
  | nil => simp [occursIn]
  | cons c t ih =>
    rw [occursIn, Bool.or_eq_true, List.isPrefixOf_iff_prefix, ih, List.infix_cons_iff]

/-- A part of a text is a part of it in small letters as well. -/
theorem Text.lower_infix {part t : Text} (h : part <:+: t) : lower part <:+: lower t :=
  h.flatMap lowerForm

/-- The ways to write a text in small letters.  A capital sigma has a second small form, which
stands at the end of words; here either form may stand anywhere. -/
inductive Text.Lowered : Text → Text → Prop
  | nil : Lowered [] []
  | cons (c : Char) {t u : Text} : Lowered t u → Lowered (c :: t) (lowerForm c ++ u)
  | final {t u : Text} : Lowered t u → Lowered ('\u03A3' :: t) ('\u03C2' :: u)

namespace Text.Lowered

variable {t u : Text}

/-- Without a capital sigma there is one way only. -/
theorem eq_lower (h : Lowered t u) (hsigma : '\u03A3' ∉ t) : u = lower t := by
  induction h with
  | nil => rfl
  | cons c _ ih =>
    rw [ih (List.not_mem_of_not_mem_cons hsigma)]
    rfl
  | final _ _ => exact absurd List.mem_cons_self hsigma

/-- With one there is a character beyond ASCII, whichever way it is written. -/
theorem exists_mem (h : Lowered t u) (hsigma : '\u03A3' ∈ t) : ∃ c ∈ u, 128 ≤ c.toNat := by
  induction h with
  | nil => exact absurd hsigma List.not_mem_nil
  | cons c _ ih =>
    rcases List.mem_cons.1 hsigma with rfl | hsigma
    · have hform : '\u03C3' ∈ lowerForm '\u03A3' := by decide +kernel
      exact ⟨_, List.mem_append_left _ hform, by decide⟩
    · obtain ⟨d, hd, hlarge⟩ := ih hsigma
      exact ⟨d, List.mem_append_right _ hd, hlarge⟩
  | final _ _ => exact ⟨_, List.mem_cons_self, by decide⟩

end Text.Lowered

theorem Text.lowered_lower (t : Text) : Lowered t (lower t) := by
  induction t with
  | nil => exact .nil
  | cons c t ih => exact .cons c ih

namespace Command

variable {c : Command} {query query' : Text}

theorem matchesQuery_iff :
    c.matchesQuery query = true ↔ Text.lower query <:+: Text.lower c.word :=
  Text.occursIn_iff

/-- Keywords in small letters are ASCII. -/
theorem toNat_lt_of_mem_lower_word {d : Char} (h : d ∈ Text.lower c.word) : d.toNat < 128 := by
  have hall : (Text.lower c.word).all (·.toNat < 128) = true := by cases c <;> decide
  exact of_decide_eq_true (List.all_eq_true.1 hall d h)

/-- No keyword has a part with a character beyond ASCII. -/
theorem not_infix_lower_word {t : Text} {d : Char} (hd : d ∈ t) (hlarge : 128 ≤ d.toNat) :
    ¬ t <:+: Text.lower c.word := fun h =>
  Nat.not_lt.2 hlarge (toNat_lt_of_mem_lower_word (h.subset hd))

/-- **A query asks for the same commands however its capital sigmas are written** in small
letters. -/
theorem matchesQuery_iff_lowered {low : Text} (h : Text.Lowered query low) :
    c.matchesQuery query = true ↔ low <:+: Text.lower c.word := by
  rw [matchesQuery_iff]
  by_cases hsigma : '\u03A3' ∈ query
  · obtain ⟨d, hd, hlarge⟩ := (Text.lowered_lower query).exists_mem hsigma
    obtain ⟨d', hd', hlarge'⟩ := h.exists_mem hsigma
    exact iff_of_false (not_infix_lower_word hd hlarge) (not_infix_lower_word hd' hlarge')
  · rw [h.eq_lower hsigma]

/-- What a query asks for is asked for by every part of the query. -/
theorem matchesQuery_of_infix (hquery : query <:+: query') (h : c.matchesQuery query' = true) :
    c.matchesQuery query = true :=
  matchesQuery_iff.2 ((Text.lower_infix hquery).trans (matchesQuery_iff.1 h))

/-- The empty query asks for every command. -/
theorem matchesQuery_nil (c : Command) : c.matchesQuery [] = true :=
  matchesQuery_iff.2 List.nil_infix

end Command

/-! ## The texts of a session -/

namespace Session

variable {s t : Session} {uri : Uri} {text : Text}

theorem mem_texts_iff : (uri, text) ∈ s.texts ↔ s.text? uri = some text := by
  simp only [texts, text?, List.mem_map, Prod.mk.injEq, Prod.exists, Option.map_eq_some_iff,
    Std.ExtTreeMap.mem_toList_iff_getElem?_eq_some]
  constructor
  · rintro ⟨u, d, hd, rfl, rfl⟩
    exact ⟨d, hd, rfl⟩
  · rintro ⟨d, hd, rfl⟩
    exact ⟨uri, d, hd, rfl, rfl⟩

/-- Documents are gone through in the order of their identifiers. -/
theorem pairwise_texts (s : Session) : s.texts.Pairwise fun a b => a.1 < b.1 := by
  rw [texts, List.pairwise_map]
  exact Std.ExtTreeMap.ordered_keys_toList.imp compare_lt_iff_lt.1

/-- **Only the texts count.**  Two sessions with the same documents open and the same texts in
them have them in the same order. -/
theorem texts_eq_of_text? (h : ∀ uri, s.text? uri = t.text? uri) : s.texts = t.texts := by
  have htexts (s : Session) : s.texts = (s.documents.map fun _ d => d.text).toList := by
    rw [Std.ExtTreeMap.toList_map]
    rfl
  have hmap : (s.documents.map fun _ d => d.text) = t.documents.map fun _ d => d.text := by
    refine Std.ExtTreeMap.ext_getElem? fun uri => ?_
    rw [Std.ExtTreeMap.getElem?_map, Std.ExtTreeMap.getElem?_map]
    exact h uri
  rw [htexts, htexts, hmap]

end Session

/-! ## What is found -/

/-- One find stands in front of another: in a document with a smaller identifier, or in the
same one and further up. -/
def Found.Before (f g : Found) : Prop :=
  f.uri < g.uri ∨ f.uri = g.uri ∧ f.entry.range.start.line < g.entry.range.start.line

namespace Document

variable {engine : Engine} {query query' : Text} {documents : List (Uri × Text)} {f : Found}

theorem mem_search_iff : f ∈ search engine query documents ↔
    ∃ text, (f.uri, text) ∈ documents ∧ f.entry ∈ outline engine text ∧
      f.entry.command.matchesQuery query = true := by
  obtain ⟨uri, e⟩ := f
  simp only [search, List.mem_flatMap, List.mem_map, List.mem_filter, Found.mk.injEq, Prod.exists]
  constructor
  · rintro ⟨u, text, hdocument, d, ⟨hd, hmatches⟩, rfl, rfl⟩
    exact ⟨text, hdocument, hd, hmatches⟩
  · rintro ⟨text, hdocument, he, hmatches⟩
    exact ⟨uri, text, hdocument, e, ⟨he, hmatches⟩, rfl, rfl⟩

/-- **Finds go by document, then by row**, if the documents do. -/
theorem pairwise_search (engine : Engine) (query : Text)
    (h : documents.Pairwise fun a b => a.1 < b.1) :
    (search engine query documents).Pairwise Found.Before := by
  refine List.pairwise_flatMap.2 ⟨fun (uri, text) _ => ?_, h.imp fun huri f hf g hg => ?_⟩
  · refine List.pairwise_map.2 ((pairwise_outline.filter _).imp fun hrow => ?_)
    exact .inr ⟨rfl, hrow⟩
  · obtain ⟨d, -, rfl⟩ := List.mem_map.1 hf
    obtain ⟨e, -, rfl⟩ := List.mem_map.1 hg
    exact .inl huri

/-- **A longer query finds less**, and leaves what it finds in order. -/
theorem search_sublist (engine : Engine) (documents : List (Uri × Text))
    (h : query <:+: query') :
    (search engine query' documents).Sublist (search engine query documents) := by
  refine List.Sublist.flatMap_right documents fun (uri, text) _ => List.Sublist.map _ ?_
  exact List.monotone_filter_right _ fun e => Command.matchesQuery_of_infix h

/-- The empty query finds all entries of all outlines. -/
theorem search_nil (engine : Engine) (documents : List (Uri × Text)) :
    search engine [] documents =
      documents.flatMap fun (uri, text) => (outline engine text).map (Found.mk uri) := by
  simp only [search, Command.matchesQuery_nil, List.filter_true]

end Document

/-! ## The answer to a search -/

namespace Session

/-- What a search is to find in a session: a row of an open document that starts with a word
naming a command, of which the query, in small letters, is a part of the keyword in small
letters.  The range of the find is the whole row. -/
def Finds (engine : Engine) (s : Session) (query : Text) (f : Found) : Prop :=
  ∃ text row line first args, s.text? f.uri = some text ∧ (Text.rows text)[row]? = some line ∧
    engine.tokenize line = .ok (first :: args) ∧ first.kind = .word ∧
    Command.named? first.text = some f.entry.command ∧
    Text.lower query <:+: Text.lower f.entry.command.word ∧ f.entry.range = Range.ofRow row line

theorem mem_search_texts_iff {engine : Engine} {s : Session} {query : Text} {f : Found} :
    f ∈ Document.search engine query s.texts ↔ s.Finds engine query f := by
  simp only [Document.mem_search_iff, mem_texts_iff, Document.mem_outline_iff,
    Line.leading_eq_ok_iff, Command.matchesQuery_iff]
  constructor
  · rintro ⟨text, htext, ⟨row, line, hline, ⟨first, args, htokens, hkind, hnamed⟩, hrange⟩, hquery⟩
    exact ⟨text, row, line, first, args, htext, hline, htokens, hkind, hnamed, hquery, hrange⟩
  · rintro ⟨text, row, line, first, args, htext, hline, htokens, hkind, hnamed, hquery, hrange⟩
    exact ⟨text, htext, ⟨row, line, hline, ⟨first, args, htokens, hkind, hnamed⟩, hrange⟩, hquery⟩

/-- **The answer to a search.**  It lists exactly the rows of open documents that the query
asks for, by document and then by row, so none of them twice.  It hangs on the texts of the
open documents only, and not on what has happened to them.  A longer query leaves out some of
the finds of a shorter one and adds none, and the empty query finds every entry of every
outline. -/
theorem search_by_text (engine : Engine) :
    (∀ (s : Session) (query : Text), ∃ found, s.answer engine (.search query) = .search found ∧
      (∀ f, f ∈ found ↔ s.Finds engine query f) ∧ found.Pairwise Found.Before) ∧
    (∀ s t : Session, (∀ uri, s.text? uri = t.text? uri) →
      ∀ query, s.answer engine (.search query) = t.answer engine (.search query)) ∧
    (∀ (s : Session) (query query' : Text) (found found' : List Found), query <:+: query' →
      s.answer engine (.search query) = .search found →
      s.answer engine (.search query') = .search found' → found'.Sublist found) ∧
    ∀ s : Session, s.answer engine (.search []) =
      .search (s.texts.flatMap fun (uri, text) =>
        (Document.outline engine text).map (Found.mk uri)) := by
  refine ⟨?_, ?_, ?_, ?_⟩
  · intro s query
    refine ⟨Document.search engine query s.texts, rfl, fun f => mem_search_texts_iff, ?_⟩
    exact Document.pairwise_search engine query s.pairwise_texts
  · intro s t htext query
    rw [answer, answer, texts_eq_of_text? htext]
  · intro s query query' found found' hquery hfound hfound'
    cases hfound
    cases hfound'
    exact Document.search_sublist engine s.texts hquery
  · intro s
    rw [answer, Document.search_nil]

/-- Two documents that are opened one after the other. -/
def openedInTurn : Session :=
  (notify {} (.opened ⟨"b", "gymlang", 1, "rack x 1".toList⟩)).notify
    (.opened ⟨"a", "gymlang", 1, "@\nBULK x 1".toList⟩)

/-- The same documents, one of them opened twice and a third one closed again. -/
def openedTwice : Session :=
  ((((notify {} (.opened ⟨"a", "gymlang", 1, "FLEX x".toList⟩)).notify
    (.opened ⟨"c", "gymlang", 1, "RACK x 1".toList⟩)).notify
    (.opened ⟨"b", "gymlang", 5, "rack x 1".toList⟩)).notify (.closed "c")).notify
    (.opened ⟨"a", "gymlang", 2, "@\nBULK x 1".toList⟩)

/-- The sign for degrees Kelvin is a `k` in small letters, and so a part of two keywords. -/
theorem search_by_text_kelvin :
    (∀ uri, openedInTurn.text? uri = openedTwice.text? uri) ∧
      ['\u212A'] <:+: ['c', '\u212A'] ∧
      ∃ found found', openedInTurn.answer Engine.standard (.search ['\u212A']) = .search found ∧
        openedTwice.answer Engine.standard (.search ['\u212A']) = .search found ∧
        openedInTurn.answer Engine.standard (.search ['c', '\u212A']) = .search found' ∧
        ⟨"a", .bulk, Range.inRow 1 0 8⟩ ∈ found ∧ found'.Sublist found := by
  have htext (uri : Uri) : openedInTurn.text? uri = openedTwice.text? uri := by
    simp only [openedInTurn, openedTwice, notify, text?, language, if_true,
      Std.ExtTreeMap.getElem?_insert, Std.ExtTreeMap.getElem?_erase]
    by_cases ha : compare "a" uri = .eq
    · rw [if_pos ha, if_pos ha]
      rfl
    · by_cases hc : compare "c" uri = .eq
      · obtain rfl : "c" = uri := Std.LawfulEqCmp.eq_of_compare hc
        simp
      · simp only [if_neg ha, if_neg hc]
        split <;> rfl
  have hpart : ['\u212A'] <:+: ['c', '\u212A'] := by decide
  obtain ⟨hanswer, hsame, hless, -⟩ := search_by_text Engine.standard
  obtain ⟨found, hfound, hmem, -⟩ := hanswer openedInTurn ['\u212A']
  obtain ⟨found', hfound', -, -⟩ := hanswer openedInTurn ['c', '\u212A']
  refine ⟨htext, hpart, found, found', hfound, ?_, hfound', (hmem _).2 ?_, ?_⟩
  · rw [← hsame openedInTurn openedTwice htext, hfound]
  · have hbulk : openedInTurn.text? "a" = some "@\nBULK x 1".toList := by
      simp [openedInTurn, notify, text?, language]
    have htokens : Token.tokenize "BULK x 1".toList =
        .ok [⟨.word, "BULK".toList, ⟨0, 4⟩⟩, ⟨.word, ['x'], ⟨5, 6⟩⟩, ⟨.number, ['1'], ⟨7, 8⟩⟩] := by
      decide +kernel
    exact ⟨_, 1, "BULK x 1".toList, _, _, hbulk, by decide +kernel, htokens, rfl,
      by decide +kernel, by decide +kernel, by decide +kernel⟩
  · exact hless openedInTurn _ _ found found' hpart hfound hfound'

end Session
end GymLang
