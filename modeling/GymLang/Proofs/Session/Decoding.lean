import GymLang.Proofs.Json.Members
import GymLang.Session.Settings

/-!
# Decoding settings

A cap on problems is decoded from a natural number of 64 bits, which stands under its name in an
object or alone in an array.  From all other values the default is decoded, be it that they leave
the cap open or that they are malformed.

* `Holds`, `LeavesOpen` — values with a cap and values that leave it open.
* `decode?_eq_some_iff` — the values from which something is decoded.
* `settings_decoded` — **what is decoded from any value, from any report, and from what settings
  were written as**.
-/

namespace GymLang
namespace Settings

open Json (read? write)
open Json.Reader (IsNatural IsPlain Ends ReadsBack)

variable {v j report : Json} {s : Settings} {n : Nat} {members : List (String × Json)}

/-! ## Values with a cap -/

/-- A value holds a cap: a natural number of 64 bits, under its name in an object or alone in an
array. -/
inductive Holds : Json → Nat → Prop
  | member {members : List (String × Json)} {n : Nat} :
      members.lookup capName = some (.nat n) → n < 2 ^ 64 → Holds (.object members) n
  | item {n : Nat} : n < 2 ^ 64 → Holds (.array [.nat n]) n

/-- A value leaves the cap open. -/
inductive LeavesOpen : Json → Prop
  | object {members : List (String × Json)} :
      members.lookup capName = none → LeavesOpen (.object members)
  | array : LeavesOpen (.array [])

theorem nat64?_eq_some_iff : v.nat64? = some n ↔ v = .nat n ∧ n < 2 ^ 64 := by
  constructor
  · intro h
    obtain ⟨i, hi, rfl⟩ := Option.map_eq_some_iff.1 h
    cases v with
    | int m =>
      rw [Json.int?] at hi
      split at hi
      · rename_i hrange
        obtain rfl : m = i := Option.some.inj hi
        obtain ⟨hlow, hhigh⟩ := hrange
        refine ⟨?_, by omega⟩
        rw [Json.nat, Int.toNat_of_nonneg hlow]
      · cases hi
    | _ => cases hi
  · rintro ⟨rfl, hn⟩
    have hrange : (0 : Int) ≤ n ∧ (n : Int) < 0x10000000000000000 := by omega
    simp [Json.nat64?, Json.nat, Json.int?, hrange]

/-- What is decoded from a cap that is there. -/
theorem map_nat64?_eq_some_iff :
    v.nat64?.map Settings.mk = some s ↔ v = .nat s.maxProblems ∧ s.maxProblems < 2 ^ 64 := by
  obtain ⟨n⟩ := s
  simp [Option.map_eq_some_iff, nat64?_eq_some_iff]

/-- **The values from which something is decoded** are those with a cap and those that leave it
open. -/
theorem decode?_eq_some_iff :
    decode? v = some s ↔ Holds v s.maxProblems ∨ LeavesOpen v ∧ s = {} := by
  constructor
  · intro h
    unfold decode? at h
    split at h
    · split at h
      · rename_i cap hcap
        obtain ⟨rfl, hfits⟩ := map_nat64?_eq_some_iff.1 h
        exact .inl (.member hcap hfits)
      · rename_i hnone
        exact .inr ⟨.object hnone, (Option.some.inj h).symm⟩
    · exact .inr ⟨.array, (Option.some.inj h).symm⟩
    · obtain ⟨rfl, hfits⟩ := map_nat64?_eq_some_iff.1 h
      exact .inl (.item hfits)
    · cases h
  · intro h
    rcases h with hcap | ⟨hopen, rfl⟩
    · obtain ⟨n⟩ := s
      cases hcap with
      | member hlookup hfits =>
        simp only [decode?, hlookup]
        exact map_nat64?_eq_some_iff.2 ⟨rfl, hfits⟩
      | item hfits =>
        simp only [decode?]
        exact map_nat64?_eq_some_iff.2 ⟨rfl, hfits⟩
    · cases hopen with
      | object hnone => simp only [decode?, hnone]
      | array => rfl

theorem ofJson_of_holds (h : Holds v n) : ofJson v = ⟨n⟩ := by
  have hdecode : decode? v = some ⟨n⟩ := decode?_eq_some_iff.2 (.inl h)
  rw [ofJson, hdecode, Option.getD_some]

/-- All values without a cap are alike, whether malformed or not. -/
theorem ofJson_of_not_holds (h : ∀ n, ¬ Holds v n) : ofJson v = {} := by
  rw [ofJson]
  cases hdecode : decode? v with
  | none => rfl
  | some s =>
    rcases decode?_eq_some_iff.1 hdecode with hcap | ⟨-, rfl⟩
    · exact absurd hcap (h s.maxProblems)
    · rfl

theorem LeavesOpen.not_holds (h : LeavesOpen v) (n : Nat) : ¬ Holds v n := by
  intro hcap
  cases h with
  | object hnone =>
    cases hcap with
    | member hlookup _ => cases hnone.symm.trans hlookup
  | array => cases hcap

/-! ## Reports -/

/-- A report with settings. -/
theorem ofReport_object (h : members.lookup sectionName = some j) :
    ofReport (.object members) = ofJson j := by
  rw [ofReport, Json.member?, h]

theorem ofReport_eq_default (h : ∀ members, report = .object members →
    members.lookup sectionName = none) : ofReport report = {} := by
  cases report with
  | object members => rw [ofReport, Json.member?, h members rfl]
  | _ => rfl

/-! ## Settings that were written -/

theorem holds_toJson (h : n < 2 ^ 64) : Holds (toJson ⟨n⟩) n :=
  .member (List.lookup_cons_self) h

theorem isPlain_capName : ∀ c ∈ capName.toList, IsPlain c :=
  Json.Reader.isPlain_of_all (by decide)

theorem isPlain_sectionName : ∀ c ∈ sectionName.toList, IsPlain c :=
  Json.Reader.isPlain_of_all (by decide)

theorem readsBack_toJson (h : n < 2 ^ 64) : ReadsBack (toJson ⟨n⟩) :=
  (Json.Reader.readsBack_nat h).member isPlain_capName

/-- **What is decoded as settings.**  A value with a cap gives that cap, and every other value the
default, among them those that leave the cap open.  A report gives what is decoded from the
settings it has, and the default without any.  What settings were written as, by itself or in a
report, is read and gives their cap.  A number in the text of a value is a natural number of 64
bits just if it consists of its digits. -/
theorem settings_decoded :
    (∀ v n, ofJson v = ⟨n⟩ ↔ Holds v n ∨ n = 1000 ∧ ∀ k, ¬ Holds v k) ∧
    (∀ v, LeavesOpen v → ofJson v = ⟨1000⟩) ∧
    (∀ members j, members.lookup sectionName = some j →
      ofReport (.object members) = ofJson j) ∧
    (∀ report : Json, (∀ members, report = .object members →
      members.lookup sectionName = none) → ofReport report = ⟨1000⟩) ∧
    (∀ n < 2 ^ 64,
      (read? (write (toJson ⟨n⟩))).map ofJson = some ⟨n⟩ ∧
      (read? (write (.object [(sectionName, toJson ⟨n⟩)]))).map ofReport = some ⟨n⟩) ∧
    (∀ t n rest, Json.Reader.number? t = some (.nat n, rest) ↔
      ∃ ds, t = ds ++ rest ∧ IsNatural ds n ∧ Ends rest) := by
  refine ⟨?_, ?_, ?_, ?_, ?_, ?_⟩
  · intro v n
    constructor
    · intro h
      by_cases hcap : ∃ k, Holds v k
      · obtain ⟨k, hk⟩ := hcap
        obtain rfl : k = n := Settings.mk.inj ((ofJson_of_holds hk).symm.trans h)
        exact .inl hk
      · rw [not_exists] at hcap
        exact .inr ⟨Settings.mk.inj (h.symm.trans (ofJson_of_not_holds hcap)), hcap⟩
    · rintro (hcap | ⟨rfl, hnone⟩)
      · exact ofJson_of_holds hcap
      · exact ofJson_of_not_holds hnone
  · intro v hopen
    exact ofJson_of_not_holds hopen.not_holds
  · intro members j h
    exact ofReport_object h
  · intro report h
    exact ofReport_eq_default h
  · intro n hn
    have hback : ofJson (toJson ⟨n⟩) = ⟨n⟩ := ofJson_of_holds (holds_toJson hn)
    have hreport : ofReport (.object [(sectionName, toJson ⟨n⟩)]) = ⟨n⟩ := by
      rw [ofReport_object List.lookup_cons_self, hback]
    constructor
    · rw [Json.Reader.read?_write (readsBack_toJson hn), Option.map_some, hback]
    · rw [Json.Reader.read?_write ((readsBack_toJson hn).member isPlain_sectionName),
        Option.map_some, hreport]
  · intro t n rest
    exact Json.Reader.number?_eq_some_nat_iff

/-- The greatest cap counts beside other members, its successor, a negative number and two items
do not, and it is read back from a report. -/
theorem settings_decoded_greatest :
    ofJson (.object [("other", .null), (capName, .nat (2 ^ 64 - 1))]) = ⟨2 ^ 64 - 1⟩ ∧
    ofJson (.object [(capName, .nat (2 ^ 64))]) = ⟨1000⟩ ∧
    ofJson (.object [(capName, .int (-1))]) = ⟨1000⟩ ∧
    ofJson (.array [.nat 5]) = ⟨5⟩ ∧
    ofJson (.array [.nat 5, .nat 6]) = ⟨1000⟩ ∧
    ofJson (.object [("other", .nat 5)]) = ⟨1000⟩ ∧
    ofReport (.object [(sectionName, .array [])]) = ofJson (.array []) ∧
    ofReport (.array []) = ⟨1000⟩ ∧
    (read? (write (.object [(sectionName, toJson ⟨2 ^ 64 - 1⟩)]))).map ofReport =
      some ⟨2 ^ 64 - 1⟩ := by
  obtain ⟨hvalue, hopen, hreport, hdefault, hback, -⟩ := settings_decoded
  refine ⟨?_, ?_, ?_, ?_, ?_, ?_, ?_, ?_, ?_⟩
  · exact (hvalue _ _).2 (.inl (.member rfl (by decide)))
  · refine (hvalue _ _).2 (.inr ⟨rfl, fun k hcap => ?_⟩)
    cases hcap with
    | member hlookup hfits =>
      rw [List.lookup_cons_self, Option.some.injEq, Json.nat, Json.nat, Json.int.injEq] at hlookup
      omega
  · refine (hvalue _ _).2 (.inr ⟨rfl, fun k hcap => ?_⟩)
    cases hcap with
    | member hlookup hfits =>
      rw [List.lookup_cons_self, Option.some.injEq, Json.nat, Json.int.injEq] at hlookup
      omega
  · exact (hvalue _ _).2 (.inl (.item (by decide)))
  · refine (hvalue _ _).2 (.inr ⟨rfl, fun k hcap => ?_⟩)
    cases hcap
  · exact hopen _ (.object rfl)
  · exact hreport _ _ rfl
  · refine hdefault _ fun members hobject => ?_
    cases hobject
  · exact (hback _ (by decide)).2

end Settings
end GymLang
