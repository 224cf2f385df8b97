import GymLang.Proofs.Exec.Failures

/-!
# The arguments a command takes

`Documented` says of each command which arguments its documentation allows, and a command
that is carried out with no variable set succeeds with just these
(`succeeds_effectOf_iff`), as long as the numbers among them can be read.
-/

namespace GymLang

/-! ## Success -/

/-- A result that is no error. -/
def Succeeds {ε α : Type} (x : Except ε α) : Prop := ∃ a, x = .ok a

section

variable {ε α β : Type}

@[simp] theorem succeeds_ok (a : α) : Succeeds (.ok a : Except ε α) := ⟨a, rfl⟩

@[simp] theorem succeeds_pure (a : α) : Succeeds (pure a : Except ε α) := ⟨a, rfl⟩

@[simp] theorem not_succeeds_error (e : ε) : ¬ Succeeds (.error e : Except ε α) := nofun

@[simp] theorem not_succeeds_throw (e : ε) : ¬ Succeeds (throw e : Except ε α) := nofun

theorem succeeds_bind {x : Except ε α} {f : α → Except ε β} :
    Succeeds (x >>= f) ↔ ∃ a, x = .ok a ∧ Succeeds (f a) := by
  simp only [Succeeds, bind_eq_ok, ← exists_and_left]
  exact exists_comm

theorem succeeds_map {x : Except ε α} {f : α → β} : Succeeds (x.map f) ↔ Succeeds x := by
  cases x with
  | error e => exact ⟨nofun, nofun⟩
  | ok a => exact ⟨fun _ => ⟨a, rfl⟩, fun _ => ⟨f a, rfl⟩⟩

theorem succeeds_mapM {f : α → Except ε β} {l : List α} :
    Succeeds (l.mapM f) ↔ ∀ a ∈ l, Succeeds (f a) := by
  induction l with
  | nil => exact ⟨fun _ => nofun, fun _ => ⟨[], rfl⟩⟩
  | cons a l ih =>
    rw [List.mapM_cons, succeeds_bind, List.forall_mem_cons, ← ih]
    constructor
    · rintro ⟨b, hb, hrest⟩
      obtain ⟨bs, hbs, -⟩ := succeeds_bind.1 hrest
      exact ⟨⟨b, hb⟩, ⟨bs, hbs⟩⟩
    · rintro ⟨⟨b, hb⟩, ⟨bs, hbs⟩⟩
      exact ⟨b, hb, succeeds_bind.2 ⟨bs, hbs, succeeds_pure _⟩⟩

end

/-! ## What documentation allows -/

/-- A number or a variable. -/
def Token.IsValue (t : Token) : Prop := t.kind = .number ∨ t.kind = .word

/-- A number that stands for zero. -/
def Token.IsZero (t : Token) : Prop :=
  t.kind = .number ∧ ∃ x, Number.read? t.text = some x ∧ (x == 0) = true

/-- A variable and a value. -/
def IsUpdate (args : List Token) : Prop :=
  ∃ target value : Token, args = [target, value] ∧ target.kind = .word ∧ value.IsValue

/-- The arguments that the documentation of a command allows. -/
def Command.Documented (c : Command) (args : List Token) : Prop :=
  match c with
  | .rack | .bro | .lift | .bulk | .drop | .shred | .gains => IsUpdate args
  | .cut => ∃ target divisor : Token, args = [target, divisor] ∧ target.kind = .word ∧
      divisor.IsValue ∧ ¬ divisor.IsZero
  | .reps | .sets | .pump | .grind => args ≠ [] ∧ ∀ arg ∈ args, arg.IsValue
  | .flex => ∃ arg, args = [arg]
  | .motivation => ∃ arg, args = [arg] ∧ arg.kind = .string
  | .yolo | .swole | .beast | .savage | .legDay | .cardio | .protein | .creatine | .steroids
  | .noExcuses | .hustle | .grindMode => ∃ arg, args = [arg] ∧ arg.kind = .word

/-- A token that can be read, if it is a number. -/
def Token.Readable (t : Token) : Prop := t.kind = .number → ∃ x, Number.read? t.text = some x

/-! ## What commands accept -/

namespace Exec

variable {w : Text} {c : Command} {ctx : Context} {args : List Token} {arg : Token}
  {roll : Fin 100}

theorem succeeds_valueOf?_iff (hread : arg.Readable) :
    Succeeds (valueOf? w ctx arg) ↔ arg.IsValue := by
  unfold valueOf? Token.IsValue
  cases hkind : arg.kind with
  | word => simp
  | number =>
    obtain ⟨x, hx⟩ := hread hkind
    simp [hx]
  | string => simp

theorem succeeds_valueOf_iff (hread : arg.Readable) :
    Succeeds (valueOf w ctx arg) ↔ arg.IsValue :=
  succeeds_map.trans (succeeds_valueOf?_iff hread)

theorem succeeds_update_iff (hread : ∀ arg ∈ args, arg.Readable) (op : Float → Float → Float) :
    Succeeds (update w op ctx args) ↔ IsUpdate args := by
  simp only [update, succeeds_bind, Prod.exists, two_eq_ok, nameOf_eq_ok, succeeds_pure, and_true]
  constructor
  · rintro ⟨target, amount, rfl, name, ⟨hkind, -⟩, hvalue⟩
    exact ⟨target, amount, rfl, hkind, (succeeds_valueOf_iff (hread amount (by simp))).1 hvalue⟩
  · rintro ⟨target, amount, rfl, hkind, hvalue⟩
    refine ⟨target, amount, rfl, target.text, ⟨hkind, rfl⟩, ?_⟩
    exact (succeeds_valueOf_iff (hread amount (by simp))).2 hvalue

theorem succeeds_transform_iff (op : Float → Float) :
    Succeeds (transform w op ctx args) ↔ ∃ arg, args = [arg] ∧ arg.kind = .word := by
  simp only [transform, succeeds_bind, one_eq_ok, nameOf_eq_ok, succeeds_pure, and_true,
    exists_and_left, exists_eq']

theorem succeeds_aggregate_iff (hread : ∀ arg ∈ args, arg.Readable) (total : List Float → Float) :
    Succeeds (aggregate w total ctx args) ↔ args ≠ [] ∧ ∀ arg ∈ args, arg.IsValue := by
  have hvalues : Succeeds (valuesOf w ctx args) ↔ args ≠ [] ∧ ∀ arg ∈ args, arg.IsValue := by
    unfold valuesOf
    by_cases hempty : args = []
    · simp [hempty]
    · have hne : ¬ args.isEmpty = true := mt List.isEmpty_iff.1 hempty
      rw [if_neg hne, succeeds_mapM, and_iff_right hempty]
      exact forall₂_congr fun arg harg => succeeds_valueOf_iff (hread arg harg)
  simp only [aggregate, succeeds_bind, succeeds_pure, and_true]
  exact hvalues

theorem succeeds_showOff_iff (hread : ∀ arg ∈ args, arg.Readable) :
    Succeeds (showOff w ctx args) ↔ ∃ arg, args = [arg] := by
  simp only [showOff, succeeds_bind, one_eq_ok]
  refine exists_congr fun arg => and_iff_left_of_imp ?_
  rintro rfl
  have hvalue : Succeeds (valueOf w ctx arg) ↔ arg.IsValue :=
    succeeds_valueOf_iff (hread arg List.mem_cons_self)
  cases hkind : arg.kind with
  | string => exact succeeds_pure _
  | word | number =>
    obtain ⟨x, hx⟩ := hvalue.2 (by simp [Token.IsValue, hkind])
    exact succeeds_bind.2 ⟨x, hx, succeeds_pure _⟩

theorem succeeds_motivate_iff :
    Succeeds (motivate w args) ↔ ∃ arg, args = [arg] ∧ arg.kind = .string := by
  simp only [motivate, succeeds_bind, one_eq_ok]
  refine exists_congr fun arg => and_congr_right fun _ => ?_
  cases arg.kind with
  | string => simp
  | word | number => simp

/-- What is left of a division once its divisor is known. -/
theorem succeeds_divide_by_iff (name : Text) (hread : arg.Readable) :
    (∃ value, valueOf? w ∅ arg = .ok value ∧
      Succeeds (match value with
        | none => pure Effect.nothing
        | some x =>
          if x == 0 then throw (ExecError.divisionByZero name)
          else pure (.assign name (Context.read ∅ name / x)) : Except ExecError Effect)) ↔
      arg.IsValue ∧ ¬ arg.IsZero := by
  unfold valueOf? Token.IsValue Token.IsZero
  cases hkind : arg.kind with
  | word => simp
  | string => simp
  | number =>
    obtain ⟨x, hx⟩ := hread hkind
    by_cases hzero : (x == 0) = true
    · simp [hx, hzero]
    · simp [hx, hzero]

/-- With no variable set, a division fails if it is one by a number that is zero. -/
theorem succeeds_divide_iff (hread : ∀ arg ∈ args, arg.Readable) :
    Succeeds (divide w ∅ args) ↔ ∃ target divisor : Token, args = [target, divisor] ∧
      target.kind = .word ∧ divisor.IsValue ∧ ¬ divisor.IsZero := by
  simp only [divide, succeeds_bind, Prod.exists, two_eq_ok, nameOf_eq_ok]
  refine exists_congr fun target => exists_congr fun divisor => and_congr_right ?_
  rintro rfl
  have hdivisor := fun name => succeeds_divide_by_iff (w := w) name (hread divisor (by simp))
  constructor
  · rintro ⟨name, ⟨hkind, -⟩, h⟩
    exact ⟨hkind, (hdivisor name).1 h⟩
  · rintro ⟨hkind, h⟩
    exact ⟨target.text, ⟨hkind, rfl⟩, (hdivisor target.text).2 h⟩

/-- With no variable set, a factorial is one of zero. -/
theorem succeeds_takeFactorial_iff :
    Succeeds (takeFactorial w ∅ args) ↔ ∃ arg, args = [arg] ∧ arg.kind = .word := by
  constructor
  · intro h
    simp only [takeFactorial, succeeds_bind, one_eq_ok, nameOf_eq_ok] at h
    obtain ⟨arg, rfl, _, ⟨hkind, -⟩, -⟩ := h
    exact ⟨arg, rfl, hkind⟩
  · rintro ⟨arg, rfl, hkind⟩
    exact takeFactorial_of_not_noFactorial hkind not_noFactorial_zero

/-- **What commands accept.**  With no variable set, a command succeeds with the arguments
that its documentation allows. -/
theorem succeeds_effectOf_iff (hread : ∀ arg ∈ args, arg.Readable) :
    Succeeds (effectOf roll ∅ w c args) ↔ c.Documented args := by
  cases c with
  | rack | bro | lift | bulk | drop | shred | gains =>
    simp only [effectOf]
    exact succeeds_update_iff hread _
  | cut =>
    simp only [effectOf]
    exact succeeds_divide_iff hread
  | reps | sets | pump | grind =>
    simp only [effectOf]
    exact succeeds_aggregate_iff hread _
  | flex =>
    simp only [effectOf]
    exact succeeds_showOff_iff hread
  | motivation =>
    simp only [effectOf]
    exact succeeds_motivate_iff
  | savage =>
    simp only [effectOf]
    exact succeeds_takeFactorial_iff
  | yolo | swole | beast | legDay | cardio | protein | creatine | steroids | noExcuses | hustle
  | grindMode =>
    simp only [effectOf]
    exact succeeds_transform_iff _

end Exec
end GymLang
