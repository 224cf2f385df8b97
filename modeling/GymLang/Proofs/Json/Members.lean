import GymLang.Json.Writer
import GymLang.Proofs.Json.Naturals

/-!
# Reading members that have been written

An object with one member is read as it was written, if its name needs no escapes and its value
is read as it was written.

* `ReadsBack` — a value is read where it has been written.
* `readsBack_nat`, `ReadsBack.member` — natural numbers are, and objects with one member.
* `read?_write` — **the text of such a value is read as that value**.
-/

namespace GymLang
namespace Json
namespace Reader

open Text (isDigit)

variable {w rest : Text} {c : Char} {n allowance : Nat} {j : Json} {name : String}

/-! ## Strings without escapes -/

/-- A character that stands for itself in a string. -/
structure IsPlain (c : Char) : Prop where
  quote : c ≠ '"'
  backslash : c ≠ '\\'
  visible : 0x20 ≤ c.toNat

theorem isPlain_of_all (h : (w.all fun c => c != '"' && c != '\\' && 0x20 ≤ c.toNat) = true) :
    ∀ c ∈ w, IsPlain c := by
  intro c hc
  have hplain := List.all_eq_true.1 h c hc
  simp only [Bool.and_eq_true, bne_iff_ne, decide_eq_true_eq] at hplain
  exact ⟨hplain.1.1, hplain.1.2, hplain.2⟩

theorem escapedChar_of_isPlain (h : IsPlain c) : escapedChar c = [c] := by
  have hcontrol : ∀ d : Char, d.toNat < 0x20 → c ≠ d := by
    rintro d hd rfl
    exact Nat.not_lt_of_ge h.visible hd
  have hvisible : ¬ c.toNat < 0x20 := Nat.not_lt_of_ge h.visible
  unfold escapedChar
  simp [h.quote, h.backslash, hvisible, hcontrol '\n', hcontrol '\r', hcontrol '\t']

theorem flatMap_escapedChar (hw : ∀ c ∈ w, IsPlain c) : w.flatMap escapedChar = w := by
  induction w with
  | nil => rfl
  | cons c w ih =>
    obtain ⟨hc, hw⟩ := List.forall_mem_cons.1 hw
    rw [List.flatMap_cons, escapedChar_of_isPlain hc, ih hw, List.singleton_append]

theorem quoted_of_isPlain (h : ∀ c ∈ name.toList, IsPlain c) :
    quoted name = '"' :: name.toList ++ ['"'] := by
  rw [quoted, flatMap_escapedChar h]

/-- A character that stands for itself is taken up as it is. -/
theorem stringBody?_cons (h : IsPlain c) (allowance : Nat) (done t : Text) :
    stringBody? (allowance + 1) done (c :: t) = stringBody? allowance (c :: done) t := by
  rw [stringBody?, if_neg (Nat.not_lt_of_ge h.visible)]
  · exact h.quote
  · rintro more hc -
    exact absurd hc h.backslash
  · intro d more hc
    exact absurd hc h.backslash

/-- A string of such characters is read up to the quote behind it. -/
theorem stringBody?_append (hw : ∀ c ∈ w, IsPlain c) (hallowance : w.length < allowance)
    (done rest : Text) :
    stringBody? allowance done (w ++ '"' :: rest) = some (done.reverse ++ w, rest) := by
  induction w generalizing allowance done with
  | nil =>
    obtain ⟨a, rfl⟩ : ∃ a, allowance = a + 1 := ⟨allowance - 1, by omega⟩
    simp [stringBody?]
  | cons c w ih =>
    obtain ⟨a, rfl⟩ : ∃ a, allowance = a + 1 := ⟨allowance - 1, by omega⟩
    obtain ⟨hc, hw⟩ := List.forall_mem_cons.1 hw
    rw [List.cons_append, stringBody?_cons hc, ih hw (by simpa using hallowance)]
    simp

/-! ## Values that are read as they were written -/

/-- A value is read where it has been written, if nothing follows that a number would go on with.
The length of its text is allowance enough. -/
def ReadsBack (j : Json) : Prop :=
  ∀ allowance rest, (write j).length ≤ allowance → Ends rest →
    value? allowance (write j ++ rest) = some (j, rest)

theorem skipBlanks_cons (h : c ≠ ' ' ∧ c ≠ '\t' ∧ c ≠ '\n' ∧ c ≠ '\r') (t : Text) :
    skipBlanks (c :: t) = c :: t := by
  simp [skipBlanks, h]

theorem write_nat (n : Nat) : write (.nat n) = Nat.toDigits 10 n := by
  rw [Json.nat, write]
  exact Nat.toList_repr

/-- What starts with a digit is read as a number. -/
theorem value?_digit (hc : isDigit c = true) (allowance : Nat) (t : Text) :
    value? (allowance + 1) (c :: t) = number? (c :: t) := by
  have hne : ∀ d : Char, isDigit d = false → c ≠ d := by
    rintro d hd rfl
    exact Bool.false_ne_true (hd.symm.trans hc)
  have hblank : c ≠ ' ' ∧ c ≠ '\t' ∧ c ≠ '\n' ∧ c ≠ '\r' :=
    ⟨hne ' ' rfl, hne '\t' rfl, hne '\n' rfl, hne '\r' rfl⟩
  rw [value?, skipBlanks_cons hblank]
  split
  case h_7 => rfl
  -- all other values start with a character that is no digit
  all_goals
    rename_i hhead
    exact absurd (List.cons.inj hhead).1 (hne _ rfl)

/-- **Natural numbers** of 64 bits are read as they were written. -/
theorem readsBack_nat (h : n < 2 ^ 64) : ReadsBack (.nat n) := by
  intro allowance rest hallowance hrest
  rw [write_nat] at hallowance ⊢
  have hnumber := number?_append (isNatural_toDigits h) hrest
  obtain ⟨c, ds, hds⟩ := List.exists_cons_of_ne_nil (Nat.toDigits_ne_nil (n := n) (b := 10))
  have hc : isDigit c = true := (isNatural_toDigits h).digits c (by simp [hds])
  rw [hds, List.length_cons] at hallowance
  obtain ⟨a, rfl⟩ : ∃ a, allowance = a + 1 := ⟨allowance - 1, by omega⟩
  rw [← hnumber, hds, List.cons_append, value?_digit hc]

theorem ends_cons (h : isDigit c = false ∧ c ≠ '.' ∧ c ≠ 'e' ∧ c ≠ 'E') (t : Text) :
    Ends (c :: t) := by
  intro d hd
  obtain rfl : c = d := Option.some.inj hd
  exact h

theorem write_member (hname : ∀ c ∈ name.toList, IsPlain c) (j : Json) :
    write (.object [(name, j)]) =
      '\x7b' :: '"' :: (name.toList ++ '"' :: ':' :: (write j ++ ['\x7d'])) := by
  simp [write, writeMember, writeMembers, quoted_of_isPlain hname]

/-- An object with members starts with a quote behind its brace. -/
theorem value?_object (allowance : Nat) (t : Text) :
    value? (allowance + 1) ('\x7b' :: '"' :: t) = members? allowance [] ('"' :: t) := by
  rw [value?, skipBlanks_cons (by decide)]
  simp [skipBlanks_cons]

/-- The last member is its name, a colon, its value and the brace behind it. -/
theorem members?_last {done : List (String × Json)} {t u : Text}
    (hstring : stringBody? (t.length + 1) [] t = some (w, ':' :: u))
    (hvalue : value? allowance u = some (j, '\x7d' :: rest)) :
    members? (allowance + 1) done ('"' :: t) =
      some (.object (setMember (String.ofList w) j done), rest) := by
  rw [members?, skipBlanks_cons (by decide)]
  simp [hstring, skipBlanks_cons, hvalue]

/-- **An object with one member** is read as it was written if the value of the member is. -/
theorem ReadsBack.member (h : ReadsBack j) (hname : ∀ c ∈ name.toList, IsPlain c) :
    ReadsBack (.object [(name, j)]) := by
  intro allowance rest hallowance hrest
  rw [write_member hname] at hallowance ⊢
  obtain ⟨a, rfl, ha⟩ : ∃ a, allowance = a + 1 + 1 ∧ (write j).length ≤ a := by
    simp only [List.length_cons, List.length_append] at hallowance
    exact ⟨allowance - 2, by omega, by omega⟩
  have hvalue : value? a (write j ++ '\x7d' :: rest) = some (j, '\x7d' :: rest) :=
    h a ('\x7d' :: rest) ha (ends_cons (by decide) rest)
  have hstring : stringBody? ((name.toList ++ '"' :: ':' :: (write j ++ '\x7d' :: rest)).length + 1)
      [] (name.toList ++ '"' :: ':' :: (write j ++ '\x7d' :: rest)) =
        some (name.toList, ':' :: (write j ++ '\x7d' :: rest)) := by
    refine stringBody?_append hname ?_ [] (':' :: (write j ++ '\x7d' :: rest))
    rw [List.length_append]
    omega
  have htext : '\x7b' :: '"' :: (name.toList ++ '"' :: ':' :: (write j ++ ['\x7d'])) ++ rest =
      '\x7b' :: '"' :: (name.toList ++ '"' :: ':' :: (write j ++ '\x7d' :: rest)) := by
    simp
  rw [htext, value?_object, members?_last hstring hvalue, String.ofList_toList, setMember]

/-- **What was written is read**, as the text of a whole. -/
theorem read?_write (h : ReadsBack j) : read? (write j) = some j := by
  have hvalue := h ((write j).length + 1) [] (Nat.le_succ _) nofun
  rw [List.append_nil] at hvalue
  rw [read?, hvalue]
  rfl

end Reader
end Json
end GymLang
