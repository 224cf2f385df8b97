import GymLang.Editor.Completion
import GymLang.Proofs.Command.Names
import GymLang.Proofs.Number.Digits

/-!
# Resolving completion items

An item comes back from the editor with its kind and its label, and these two decide which
item of the list it is taken for.  Labels need not be those that were offered: keywords are
known in any letter case, and the number of a word of wisdom may have a plus sign and zeros
in front (`KnownAs`).

* `documentation?_eq_some_iff` — documentation is known for what is taken for an offered item.
* `resolve_known_items` — **what resolving does**: it gives an item the documentation of the
  offered item it is taken for, and does nothing to any other.
* `resolve_leadingZero` — an item that was not offered can be taken for one that was.
-/

namespace GymLang

namespace Completion

variable {offered item : CompletionItem} {label saying s : String} {kind : Option ItemKind}
  {start t rest : Text} {n place : Nat}

/-! ## Reading labels -/

theorem afterStart?_eq_some_iff : afterStart? start t = some rest ↔ t = start ++ rest := by
  fun_induction afterStart? start t with
  | case1 t => simp
  | case2 c start => simp
  | case3 start d t ih => simp [ih]
  | case4 c start d t hne =>
    simp only [reduceCtorEq, List.cons_append, List.cons.injEq, false_iff, not_and]
    exact fun h => absurd h.symm hne

/-- How the number of a word of wisdom can be written: with a plus sign or without, and with
any number of zeros in front. -/
def Numbers (n : Nat) (t : Text) : Prop :=
  ∃ plus k, (plus = [] ∨ plus = ['+']) ∧ t = plus ++ (List.replicate k '0' ++ Number.numeral n)

/-- Digits say a place if the number they say is the next one. -/
theorem placeOfDigits_eq_some_iff {ds : Text} :
    (if ds.isEmpty || !ds.all Text.isDigit then none
      else match Number.natOfDigits ds with
        | 0 => none
        | n + 1 => some n) = some place ↔
      ∃ k, ds = List.replicate k '0' ++ Number.numeral (place + 1) := by
  rw [← Number.natOfDigits_eq_succ_iff, ← List.all_eq_true]
  by_cases hall : ds.all Text.isDigit = true
  · cases ds with
    | nil => simp [Number.natOfDigits]
    | cons d ds =>
      simp only [hall, List.isEmpty_cons, Bool.not_true, Bool.or_false, Bool.false_eq_true,
        if_false, true_and]
      cases Number.natOfDigits (d :: ds) <;> simp
  · simp [hall]

theorem head?_zeros_append_numeral (k n : Nat) :
    (List.replicate k '0' ++ Number.numeral n).head? ≠ some '+' := by
  intro h
  have hmem : '+' ∈ List.replicate k '0' ++ Number.numeral n := List.mem_of_head? h
  rcases List.mem_append.1 hmem with hmem | hmem
  · exact absurd (List.eq_of_mem_replicate hmem) (by decide)
  · exact absurd (Number.isDigit_of_mem_numeral hmem) (by decide)

theorem placeOf?_eq_some_iff : placeOf? t = some place ↔ Numbers (place + 1) t := by
  unfold placeOf? Numbers
  split
  · rename_i ds
    refine placeOfDigits_eq_some_iff.trans ⟨?_, ?_⟩
    · rintro ⟨k, rfl⟩
      exact ⟨['+'], k, .inr rfl, rfl⟩
    · rintro ⟨plus, k, rfl | rfl, ht⟩
      · have hhead : (List.replicate k '0' ++ Number.numeral (place + 1)).head? = some '+' :=
          congrArg List.head? ht.symm
        exact absurd hhead (head?_zeros_append_numeral k _)
      · exact ⟨k, (List.cons.inj ht).2⟩
  · rename_i hplus
    refine placeOfDigits_eq_some_iff.trans ⟨?_, ?_⟩
    · rintro ⟨k, rfl⟩
      exact ⟨[], k, .inl rfl, rfl⟩
    · rintro ⟨plus, k, rfl | rfl, ht⟩
      · exact ⟨k, ht⟩
      · exact absurd ht (hplus _)

/-! ## Items that are taken for offered ones -/

/-- The labels under which an offered item is known: its own, but for commands in any letter
case, and for words of wisdom with the number written in any way. -/
inductive KnownAs : CompletionItem → String → Prop
  | command {c : Command} {label : String} :
      Text.sameIgnoringCase c.word label.toList = true → KnownAs (commandItem c) label
  | name {n : String} : n ∈ commonNames → KnownAs (nameItem n) n
  | wisdom {saying : String} {place : Nat} {label : String} {number : Text} :
      wisdom[place]? = some saying → label.toList = wisdomLabel.toList ++ number →
      Numbers (place + 1) number → KnownAs (wisdomItem saying place) label

theorem mem_items_iff : offered ∈ items ↔
    (∃ c, commandItem c = offered) ∨ (∃ n ∈ commonNames, nameItem n = offered) ∨
      ∃ saying place, wisdom[place]? = some saying ∧ wisdomItem saying place = offered := by
  simp only [items, List.mem_append, List.mem_map, Command.mem_all, true_and, or_assoc,
    Prod.exists, List.mem_zipIdx_iff_getElem?]

/-- What an item can be taken for has been offered. -/
theorem KnownAs.mem_items (h : KnownAs offered label) : offered ∈ items := by
  cases h with
  | command _ => exact mem_items_iff.2 (.inl ⟨_, rfl⟩)
  | name hn => exact mem_items_iff.2 (.inr (.inl ⟨_, hn, rfl⟩))
  | wisdom hsaying _ _ => exact mem_items_iff.2 (.inr (.inr ⟨_, _, hsaying, rfl⟩))

/-- Offered items are known by the labels they were offered with. -/
theorem knownAs_label (h : offered ∈ items) : KnownAs offered offered.label := by
  rcases mem_items_iff.1 h with ⟨c, rfl⟩ | ⟨n, hn, rfl⟩ | ⟨saying, place, hsaying, rfl⟩
  · exact .command (beq_self_eq_true _)
  · exact .name hn
  · have hlabel : (wisdomItem saying place).label.toList =
        wisdomLabel.toList ++ Number.numeral (place + 1) := by
      rw [wisdomItem, String.toList_append, Nat.toString_eq_repr, Nat.toList_repr,
        Number.numeral, if_neg (Nat.succ_ne_zero place)]
    exact .wisdom hsaying hlabel ⟨[], 0, .inl rfl, rfl⟩

/-- **Documentation is known** for what is taken for an offered item, and is that of the
offered item. -/
theorem documentation?_eq_some_iff : documentation? kind label = some s ↔
    ∃ offered, KnownAs offered label ∧ offered.kind = kind ∧
      offered.documentation = some (.ofMarkdown s) := by
  constructor
  · intro h
    unfold documentation? at h
    split at h
    · obtain ⟨c, hc, rfl⟩ := Option.map_eq_some_iff.1 h
      exact ⟨commandItem c, .command (Command.named?_eq_some_iff.1 hc), rfl, rfl⟩
    · split at h
      · rename_i hn
        obtain rfl := Option.some.inj h
        exact ⟨nameItem label, .name hn, rfl, rfl⟩
      · exact absurd h nofun
    · obtain ⟨number, hnumber, h⟩ := Option.bind_eq_some_iff.1 h
      obtain ⟨place, hplace, hsaying⟩ := Option.bind_eq_some_iff.1 h
      exact ⟨wisdomItem s place, .wisdom hsaying (afterStart?_eq_some_iff.1 hnumber)
        (placeOf?_eq_some_iff.1 hplace), rfl, rfl⟩
    · exact absurd h nofun
  · rintro ⟨offered, hknown, rfl, hs⟩
    cases hknown with
    | @command c _ hcase =>
      cases hs
      have hnamed : Command.named? label.toList = some c := Command.named?_eq_some_iff.2 hcase
      simp only [documentation?, commandItem, hnamed, Option.map_some]
    | name hn =>
      cases hs
      simp only [documentation?, nameItem, if_pos hn]
    | @wisdom saying place _ number hsaying hlabel hnumber =>
      cases hs
      simp only [documentation?, wisdomItem, afterStart?_eq_some_iff.2 hlabel,
        Option.bind_eq_bind, Option.bind_some, placeOf?_eq_some_iff.2 hnumber, hsaying]

/-- Every offered item is documented. -/
theorem documentation_of_mem_items (h : offered ∈ items) :
    ∃ s, offered.documentation = some (.ofMarkdown s) := by
  rcases mem_items_iff.1 h with ⟨c, rfl⟩ | ⟨n, -, rfl⟩ | ⟨saying, place, -, rfl⟩
  · exact ⟨_, rfl⟩
  · exact ⟨_, rfl⟩
  · exact ⟨_, rfl⟩

/-- **What resolving does.**  An item that has the kind of an offered one and a label under
which that one is known gets its documentation, and keeps everything else.  The label that an
item was offered with is such a label.  An item that no offered one is known as comes back as
it was sent. -/
theorem resolve_known_items (item : CompletionItem) :
    (∀ offered ∈ items, offered.kind = item.kind → KnownAs offered item.label →
      resolve item = { item with documentation := offered.documentation }) ∧
    (∀ offered ∈ items, offered.label = item.label → KnownAs offered item.label) ∧
    ((∀ offered ∈ items, offered.kind = item.kind → ¬ KnownAs offered item.label) →
      resolve item = item) := by
  refine ⟨?_, ?_, ?_⟩
  · intro offered hoffered hkind hknown
    obtain ⟨s, hs⟩ := documentation_of_mem_items hoffered
    have hfound : documentation? item.kind item.label = some s :=
      documentation?_eq_some_iff.2 ⟨offered, hknown, hkind, hs⟩
    rw [resolve, hfound, hs]
  · intro offered hoffered hlabel
    rw [← hlabel]
    exact knownAs_label hoffered
  · intro hunknown
    cases hfound : documentation? item.kind item.label with
    | none => rw [resolve, hfound]
    | some s =>
      obtain ⟨offered, hknown, hkind, -⟩ := documentation?_eq_some_iff.1 hfound
      exact absurd hknown (hunknown offered hknown.mem_items hkind)

/-- An item as an editor may send it back, with a number of its own making. -/
def sentBack (kind : ItemKind) : CompletionItem where
  label := "wisdom_+10"
  kind := some kind
  detail := some "Gym wisdom"
  deprecated := some false
  data := some (.nat 7)

/-- The last word of wisdom is known under the label, and no variable is. -/
theorem resolve_known_items_wisdom :
    (resolve (sentBack .text)).documentation =
        some (.ofMarkdown "💪 The only bad workout is the one that didn't happen!") ∧
      resolve (sentBack .binding) = sentBack .binding := by
  constructor
  · have hsaying : wisdom[9]? =
        some "💪 The only bad workout is the one that didn't happen!" := rfl
    have hnumber : Numbers (9 + 1) ['+', '1', '0'] := ⟨['+'], 0, .inr rfl, by decide +kernel⟩
    have hknown : KnownAs _ "wisdom_+10" := .wisdom hsaying (by decide +kernel) hnumber
    rw [(resolve_known_items (sentBack .text)).1 _ hknown.mem_items rfl hknown]
    rfl
  · refine (resolve_known_items (sentBack .binding)).2.2 fun offered _ hkind hknown => ?_
    have hlabel : (sentBack .binding).label = "wisdom_+10" := rfl
    rw [hlabel] at hknown
    cases hknown with
    | command _ => exact absurd hkind nofun
    | name hn => exact absurd hn (by decide)
    | wisdom _ _ _ => exact absurd hkind nofun

/-- A zero in front of its number: nothing with this label was offered, and yet the item gets
documentation. -/
theorem resolve_leadingZero :
    (∀ offered ∈ items, offered.label ≠ "wisdom_01") ∧
      resolve { label := "wisdom_01", kind := some .text } ≠
        { label := "wisdom_01", kind := some .text } := by
  refine ⟨by decide +kernel, fun h => ?_⟩
  have hfound : documentation? (some .text) "wisdom_01" =
      some "💪 Pain is temporary, gains are forever!" := by decide +kernel
  have hdocumentation := congrArg CompletionItem.documentation h
  simp [resolve, hfound] at hdocumentation

end Completion
end GymLang
