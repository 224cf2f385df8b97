import GymLang.Json.Reader
import GymLang.Proofs.Number.Digits

/-!
# Natural numbers in JSON

A number literal has a sign, digits, a fraction and an exponent, of which only the digits must
be there.  Where nothing but the digits is there, and they say a number that fits into 64 bits,
the literal is read as that number; any other literal is read as a negative number or as one of
binary64.

* `number?_eq` — reading a number, part by part.
* `number?_eq_some_nat_iff` — **the literals that are read as a natural number**.
* `isNatural_toDigits` — the digits of a natural number are one of them.
-/

namespace GymLang
namespace Json
namespace Reader

open Text (isDigit)
open Number (natOfDigits)

variable {negative : Bool} {whole fraction exponent t ds rest : Text} {n : Nat} {j : Json}

/-! ## The parts of a number -/

/-- A minus sign or none, and what follows. -/
def signPart (t : Text) : Bool × Text :=
  match t with
  | '-' :: rest => (true, rest)
  | _ => (false, t)

/-- A point and the digits behind it or nothing, and what follows. -/
def fractionPart (t : Text) : Text × Text :=
  match t with
  | '.' :: rest => ('.' :: rest.takeWhile isDigit, rest.dropWhile isDigit)
  | _ => ([], t)

/-- The sign of an exponent or nothing, and what follows. -/
def exponentSign (t : Text) : Text × Text :=
  match t with
  | '+' :: more => (['+'], more)
  | '-' :: more => (['-'], more)
  | _ => ([], t)

/-- An exponent or nothing, and what follows. -/
def exponentPart (t : Text) : Text × Text :=
  match t with
  | c :: rest =>
    if c = 'e' ∨ c = 'E' then
      let (sign, rest) := exponentSign rest
      (c :: sign ++ rest.takeWhile isDigit, rest.dropWhile isDigit)
    else ([], t)
  | [] => ([], t)

/-- **A number is read part by part.** -/
theorem number?_eq (t : Text) : number? t =
    let (negative, t) := signPart t
    let (fraction, u) := fractionPart (t.dropWhile isDigit)
    let (exponent, rest) := exponentPart u
    if isWholePart (t.takeWhile isDigit) && fraction != ['.'] then
      (numberOf? negative (t.takeWhile isDigit) fraction exponent).map (·, rest)
    else none := rfl

/-! Each part is missing, or the text starts with the character that announces it. -/

theorem signPart_cases (t : Text) :
    t.head? ≠ some '-' ∧ signPart t = (false, t) ∨
      t.head? = some '-' ∧ (signPart t).1 = true := by
  unfold signPart
  split
  · exact .inr ⟨rfl, rfl⟩
  · rename_i hother
    refine .inl ⟨fun hhead => ?_, rfl⟩
    obtain ⟨more, hmore⟩ := List.head?_eq_some_iff.1 hhead
    exact hother more hmore

theorem fractionPart_cases (t : Text) :
    t.head? ≠ some '.' ∧ fractionPart t = ([], t) ∨
      t.head? = some '.' ∧ (fractionPart t).1 ≠ [] := by
  unfold fractionPart
  split
  · exact .inr ⟨rfl, List.cons_ne_nil _ _⟩
  · rename_i hother
    refine .inl ⟨fun hhead => ?_, rfl⟩
    obtain ⟨more, hmore⟩ := List.head?_eq_some_iff.1 hhead
    exact hother more hmore

theorem exponentPart_cases (t : Text) :
    (∀ c ∈ t.head?, c ≠ 'e' ∧ c ≠ 'E') ∧ exponentPart t = ([], t) ∨
      (∃ c ∈ t.head?, c = 'e' ∨ c = 'E') ∧ (exponentPart t).1 ≠ [] := by
  unfold exponentPart
  split
  · rename_i c more
    split
    · rename_i hmark
      exact .inr ⟨⟨c, rfl, hmark⟩, List.cons_ne_nil _ _⟩
    · rename_i hmark
      rw [not_or] at hmark
      refine .inl ⟨fun d hd => ?_, rfl⟩
      obtain rfl : c = d := Option.some.inj hd
      exact hmark
  · exact .inl ⟨nofun, rfl⟩

/-! ## Literals that are natural numbers -/

/-- A number of binary64 is none. -/
theorem float?_ne_some_nat (e : Int) (n : Nat) :
    Literal.float? negative whole fraction e ≠ some (.nat n) := by
  intro h
  obtain ⟨x, -, hx⟩ := Option.map_eq_some_iff.1 h
  cases hx

/-- Digits alone are read as the number they say if it has 64 bits. -/
theorem whole?_false (whole : Text) : Literal.whole? false whole =
    if 2 ^ 64 ≤ natOfDigits whole then Literal.float? false whole [] 0
    else some (.nat (natOfDigits whole)) := by
  simp [Literal.whole?, Json.nat]

/-- With a minus sign they are read as no natural number, not even zero. -/
theorem whole?_true_ne_some_nat (whole : Text) (n : Nat) :
    Literal.whole? true whole ≠ some (.nat n) := by
  simp only [Literal.whole?, Bool.true_and, if_true]
  split
  · exact float?_ne_some_nat 0 n
  · rename_i hint
    simp only [Bool.or_eq_true, beq_iff_eq, not_or] at hint
    simp only [Json.nat, ne_eq, Option.some.injEq, Json.int.injEq]
    have hne := hint.1.1
    omega

theorem whole?_eq_some_nat_iff : Literal.whole? negative whole = some (.nat n) ↔
    negative = false ∧ natOfDigits whole = n ∧ n < 2 ^ 64 := by
  cases negative with
  | true => simp [whole?_true_ne_some_nat]
  | false =>
    rw [whole?_false]
    split
    · rename_i hlarge
      constructor
      · intro h
        exact absurd h (float?_ne_some_nat 0 n)
      · rintro ⟨-, rfl, hlt⟩
        omega
    · rename_i hsmall
      simp only [Json.nat, Option.some.injEq, Json.int.injEq, true_and]
      omega

theorem numberOf?_eq_some_nat_iff :
    numberOf? negative whole fraction exponent = some (.nat n) ↔
      negative = false ∧ fraction = [] ∧ exponent = [] ∧ natOfDigits whole = n ∧ n < 2 ^ 64 := by
  unfold numberOf?
  split
  · rename_i hnone
    simp only [Bool.and_eq_true, List.isEmpty_iff] at hnone
    simp [whole?_eq_some_nat_iff, hnone]
  · rename_i hsome
    simp only [Bool.and_eq_true, List.isEmpty_iff] at hsome
    constructor
    · intro h
      obtain ⟨e, -, hfloat⟩ := Option.bind_eq_some_iff.1 h
      exact absurd hfloat (float?_ne_some_nat e n)
    · rintro ⟨-, hfraction, hexponent, -⟩
      exact absurd ⟨hfraction, hexponent⟩ hsome

/-- A text that no number in front of it goes on with. -/
def Ends (t : Text) : Prop := ∀ c ∈ t.head?, isDigit c = false ∧ c ≠ '.' ∧ c ≠ 'e' ∧ c ≠ 'E'

/-- A row of digits without zeros in front, and the number of 64 bits that it says. -/
structure IsNatural (ds : Text) (n : Nat) : Prop where
  digits : ∀ c ∈ ds, isDigit c = true
  whole : isWholePart ds = true
  value : natOfDigits ds = n
  fits : n < 2 ^ 64

theorem IsNatural.ne_nil (h : IsNatural ds n) : ds ≠ [] := by
  rintro rfl
  exact Bool.false_ne_true h.whole

/-- The digits in front of what no number goes on with. -/
theorem IsNatural.parts (h : IsNatural ds n) (hrest : Ends rest) :
    signPart (ds ++ rest) = (false, ds ++ rest) ∧ (ds ++ rest).takeWhile isDigit = ds ∧
      (ds ++ rest).dropWhile isDigit = rest ∧ fractionPart rest = ([], rest) ∧
      exponentPart rest = ([], rest) := by
  have htake : rest.takeWhile isDigit = [] := by
    cases rest with
    | nil => rfl
    | cons c rest => simp [(hrest c rfl).1]
  have hdrop : rest.dropWhile isDigit = rest := by
    cases rest with
    | nil => rfl
    | cons c rest => simp [(hrest c rfl).1]
  refine ⟨?_, ?_, ?_, ?_, ?_⟩
  · rcases signPart_cases (ds ++ rest) with ⟨-, hnone⟩ | ⟨hminus, -⟩
    · exact hnone
    · obtain ⟨c, ds, rfl⟩ := List.exists_cons_of_ne_nil h.ne_nil
      obtain rfl : c = '-' := Option.some.inj hminus
      exact absurd (h.digits '-' List.mem_cons_self) (by decide)
  · rw [List.takeWhile_append_of_pos h.digits, htake, List.append_nil]
  · rw [List.dropWhile_append_of_pos h.digits, hdrop]
  · rcases fractionPart_cases rest with ⟨-, hnone⟩ | ⟨hpoint, -⟩
    · exact hnone
    · exact absurd rfl (hrest '.' hpoint).2.1
  · rcases exponentPart_cases rest with ⟨-, hnone⟩ | ⟨⟨c, hc, hmark⟩, -⟩
    · exact hnone
    · rcases hmark with rfl | rfl
      · exact absurd rfl (hrest 'e' hc).2.2.1
      · exact absurd rfl (hrest 'E' hc).2.2.2

/-- Such digits are read. -/
theorem number?_append (h : IsNatural ds n) (hrest : Ends rest) :
    number? (ds ++ rest) = some (.nat n, rest) := by
  obtain ⟨hsign, htake, hdrop, hfraction, hexponent⟩ := h.parts hrest
  have hnumber : numberOf? false ds [] [] = some (.nat n) :=
    numberOf?_eq_some_nat_iff.2 ⟨rfl, rfl, rfl, h.value, h.fits⟩
  rw [number?_eq]
  simp [hsign, htake, hdrop, hfraction, hexponent, h.whole, hnumber]

/-- What is read as a natural number consists of nothing but digits. -/
theorem exists_of_number?_eq_nat (h : number? t = some (.nat n, rest)) :
    ∃ ds, t = ds ++ rest ∧ IsNatural ds n ∧ Ends rest := by
  rw [number?_eq] at h
  dsimp only at h
  split at h
  · rename_i hwhole
    obtain ⟨k, hk, hafter⟩ := Option.map_eq_some_iff.1 h
    obtain ⟨rfl, rfl⟩ := Prod.mk.inj hafter
    obtain ⟨hnegative, hnofraction, hnoexponent, hvalue, hfits⟩ := numberOf?_eq_some_nat_iff.1 hk
    have hsign : signPart t = (false, t) := by
      rcases signPart_cases t with ⟨-, hnone⟩ | ⟨-, hminus⟩
      · exact hnone
      · exact absurd (hnegative.symm.trans hminus) (by decide)
    rw [hsign] at hwhole hnofraction hnoexponent hvalue ⊢
    rcases fractionPart_cases (t.dropWhile isDigit) with ⟨hpoint, hfraction⟩ | ⟨-, hsome⟩
    · rw [hfraction] at hnoexponent ⊢
      rcases exponentPart_cases (t.dropWhile isDigit) with ⟨hmark, hexponent⟩ | ⟨-, hsome⟩
      · rw [hexponent]
        refine ⟨t.takeWhile isDigit, List.takeWhile_append_dropWhile.symm, ?_, ?_⟩
        · exact ⟨List.all_eq_true.1 List.all_takeWhile, (Bool.and_eq_true_iff.1 hwhole).1,
            hvalue, hfits⟩
        · intro c hc
          have hdigit := List.head?_dropWhile_not isDigit t
          rw [Option.mem_def.1 hc] at hdigit
          refine ⟨by simpa using hdigit, ?_, hmark c hc⟩
          rintro rfl
          exact hpoint hc
      · exact absurd hnoexponent hsome
    · exact absurd hnofraction hsome
  · exact absurd h (by simp)

/-- **The literals that are read as a natural number**: digits without zeros in front that say
a number of 64 bits, where nothing follows that a number would go on with. -/
theorem number?_eq_some_nat_iff : number? t = some (.nat n, rest) ↔
    ∃ ds, t = ds ++ rest ∧ IsNatural ds n ∧ Ends rest := by
  constructor
  · exact exists_of_number?_eq_nat
  · rintro ⟨ds, rfl, hds, hrest⟩
    exact number?_append hds hrest

/-! ## The digits of a natural number -/

/-- Only zero is written with a zero in front. -/
theorem eq_zero_of_head?_toDigits (h : (Nat.toDigits 10 n).head? = some '0') : n = 0 := by
  induction n using Nat.strongRecOn with
  | ind n ih =>
    by_cases hn : n < 10
    · rw [Nat.toDigits_of_lt_base hn] at h
      have hdigit : n.digitChar = '0' := Option.some.inj h
      have hcode := congrArg Char.toNat hdigit
      rw [Nat.toNat_digitChar_of_lt_ten hn] at hcode
      have hzero : '0'.toNat = 48 := rfl
      omega
    · obtain ⟨c, ds, hds⟩ :=
        List.exists_cons_of_ne_nil (Nat.toDigits_ne_nil (n := n / 10) (b := 10))
      rw [Nat.toDigits_of_base_le (by decide) (by omega), hds] at h
      have hzero := ih (n / 10) (by omega) (by rw [hds]; exact h)
      omega

theorem isWholePart_toDigits (n : Nat) : isWholePart (Nat.toDigits 10 n) = true := by
  by_cases hn : n = 0
  · rw [hn]
    rfl
  · unfold isWholePart
    split
    · rename_i hnil
      exact absurd hnil Nat.toDigits_ne_nil
    · rfl
    · rename_i hzero
      exact absurd (eq_zero_of_head?_toDigits (congrArg List.head? hzero)) hn
    · rfl

/-- **The digits of a natural number** are a literal for it. -/
theorem isNatural_toDigits (h : n < 2 ^ 64) : IsNatural (Nat.toDigits 10 n) n where
  digits _ hc := Number.isDigit_of_mem_toDigits hc
  whole := isWholePart_toDigits n
  value := Number.natOfDigits_toDigits n
  fits := h

end Reader
end Json
end GymLang
