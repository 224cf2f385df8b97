import GymLang.Proofs.Exec.Failures

/-!
# What errors tell

An error of a command speaks of that command, and what it shows of the line is an argument
that is there: one of the wrong kind, a number that cannot be read, or a variable.  Only a
line that starts with no word fails before a command is known.

* `FailsOnly` — results that have no other errors, closed under putting them together.
* `Command.shape` — the arguments that each command takes.
* `Blames` — the errors of a command with its arguments.
* `effectOf_blames` — **a command has no other errors.**
* `lineEffect_eq_error` — and a line has those of its command, or starts with no word.
-/

namespace GymLang

/-! ## Results with certain errors only -/

/-- A result that satisfies `P` if it is an error. -/
def FailsOnly {ε α : Type} (P : ε → Prop) (x : Except ε α) : Prop := ∀ e, x = .error e → P e

namespace FailsOnly

variable {ε α β : Type} {P : ε → Prop}

theorem ok (a : α) : FailsOnly P (.ok a) := by
  intro e h
  cases h

theorem error {e : ε} (h : P e) : FailsOnly P (.error e : Except ε α) := by
  intro e' he
  cases he
  exact h

theorem bind {x : Except ε α} {f : α → Except ε β} (hx : FailsOnly P x)
    (hf : ∀ a, x = .ok a → FailsOnly P (f a)) : FailsOnly P (x >>= f) := by
  cases x with
  | error e => exact error (hx e rfl)
  | ok a => exact hf a rfl

theorem map {x : Except ε α} (hx : FailsOnly P x) (f : α → β) : FailsOnly P (x.map f) := by
  cases x with
  | error e => exact error (hx e rfl)
  | ok a => exact ok (f a)

theorem mapM {f : α → Except ε β} {l : List α} (hf : ∀ a ∈ l, FailsOnly P (f a)) :
    FailsOnly P (l.mapM f) := by
  induction l with
  | nil => exact ok []
  | cons a l ih =>
    rw [List.forall_mem_cons] at hf
    rw [List.mapM_cons]
    exact hf.1.bind fun _ _ => (ih hf.2).bind fun _ _ => ok _

end FailsOnly

/-- The shape of the arguments of each command. -/
def Command.shape : Command → Shape
  | rack | bro | lift | bulk | drop | shred | gains | cut => .update
  | reps | sets | pump | grind => .aggregate
  | flex => .shown
  | motivation => .quoted
  | yolo | swole | beast | savage | legDay | cardio | protein | creatine | steroids
  | noExcuses | hustle | grindMode => .transform

namespace Exec

variable {w : Text} {s : Shape} {c : Command} {ctx : Context} {args : List Token} {arg : Token}
  {roll : Fin 100}

/-! ## Errors of commands -/

/-- The errors of a command with its arguments.  `w` is the word the command was given by and
`s` the shape of the arguments it takes. -/
inductive Blames (w : Text) (s : Shape) (args : List Token) : ExecError → Prop
  | arity : Blames w s args (.arity w ⟨s, args.length⟩)
  | name {arg : Token} : arg ∈ args → arg.kind ≠ .word →
      Blames w s args (.expectedName w arg.display)
  | value {arg : Token} : arg ∈ args → arg.kind = .string →
      Blames w s args (.expectedValue w arg.display)
  | string {arg : Token} : arg ∈ args → arg.kind ≠ .string →
      Blames w s args (.expectedString w arg.display)
  | number {arg : Token} : arg ∈ args → arg.kind = .number → Number.read? arg.text = none →
      Blames w s args (.invalidNumber arg.text)
  | zero {arg : Token} : arg ∈ args → arg.kind = .word →
      Blames w s args (.divisionByZero arg.text)
  | factorial {arg : Token} (x : Float) : arg ∈ args → arg.kind = .word →
      Blames w s args (.invalidFactorial arg.text x)

theorem two_blames : FailsOnly (Blames w .update args) (two w args) := by
  unfold two
  split
  · exact .ok _
  · exact .error .arity

theorem one_blames : FailsOnly (Blames w s args) (one w s args) := by
  unfold one
  split
  · exact .ok _
  · exact .error .arity

theorem nameOf_blames (h : arg ∈ args) : FailsOnly (Blames w s args) (nameOf w arg) := by
  unfold nameOf
  cases hkind : arg.kind with
  | word => exact .ok _
  | number | string => exact .error (.name h (by rw [hkind]; decide))

theorem valueOf?_blames (h : arg ∈ args) : FailsOnly (Blames w s args) (valueOf? w ctx arg) := by
  unfold valueOf?
  cases hkind : arg.kind with
  | word => exact .ok _
  | number =>
    cases hread : Number.read? arg.text with
    | none => exact .error (.number h hkind hread)
    | some x => exact .ok _
  | string => exact .error (.value h hkind)

theorem valueOf_blames (h : arg ∈ args) : FailsOnly (Blames w s args) (valueOf w ctx arg) :=
  (valueOf?_blames h).map _

theorem valuesOf_blames : FailsOnly (Blames w .aggregate args) (valuesOf w ctx args) := by
  unfold valuesOf
  split
  · rename_i hempty
    obtain rfl := List.isEmpty_iff.1 hempty
    exact .error .arity
  · exact .mapM fun _ h => valueOf_blames h

theorem update_blames (op : Float → Float → Float) :
    FailsOnly (Blames w .update args) (update w op ctx args) := by
  refine two_blames.bind fun (target, amount) htwo => ?_
  obtain rfl := two_eq_ok.1 htwo
  refine (nameOf_blames (by simp)).bind fun _ _ => ?_
  exact (valueOf_blames (by simp)).bind fun _ _ => .ok _

theorem divide_blames : FailsOnly (Blames w .update args) (divide w ctx args) := by
  refine two_blames.bind fun (target, divisor) htwo => ?_
  obtain rfl := two_eq_ok.1 htwo
  refine (nameOf_blames (by simp)).bind fun _ hname => ?_
  obtain ⟨hkind, rfl⟩ := nameOf_eq_ok.1 hname
  refine (valueOf?_blames (by simp)).bind fun value _ => ?_
  cases value with
  | none => exact .ok _
  | some x =>
    by_cases hzero : (x == 0) = true
    · simpa only [if_pos hzero] using .error (.zero (by simp) hkind)
    · simpa only [if_neg hzero] using .ok _

theorem transform_blames (op : Float → Float) :
    FailsOnly (Blames w .transform args) (transform w op ctx args) := by
  refine one_blames.bind fun target hone => ?_
  obtain rfl := one_eq_ok.1 hone
  exact (nameOf_blames (by simp)).bind fun _ _ => .ok _

theorem takeFactorial_blames : FailsOnly (Blames w .transform args) (takeFactorial w ctx args) := by
  refine one_blames.bind fun target hone => ?_
  obtain rfl := one_eq_ok.1 hone
  refine (nameOf_blames (by simp)).bind fun _ hname => ?_
  obtain ⟨hkind, rfl⟩ := nameOf_eq_ok.1 hname
  by_cases hfactorial : NoFactorial (ctx.read target.text)
  · simp only [if_pos (noFactorial_iff.1 hfactorial)]
    exact .error (.factorial _ (by simp) hkind)
  · simp only [if_neg (mt noFactorial_iff.2 hfactorial)]
    exact .ok _

theorem aggregate_blames (total : List Float → Float) :
    FailsOnly (Blames w .aggregate args) (aggregate w total ctx args) :=
  valuesOf_blames.bind fun _ _ => .ok _

theorem showOff_blames : FailsOnly (Blames w .shown args) (showOff w ctx args) := by
  refine one_blames.bind fun arg hone => ?_
  obtain rfl := one_eq_ok.1 hone
  cases arg.kind with
  | string => exact .ok _
  | word | number => exact (valueOf_blames (by simp)).bind fun _ _ => .ok _

theorem motivate_blames : FailsOnly (Blames w .quoted args) (motivate w args) := by
  refine one_blames.bind fun arg hone => ?_
  obtain rfl := one_eq_ok.1 hone
  cases hkind : arg.kind with
  | string => exact .ok _
  | word | number => exact .error (.string (by simp) (by rw [hkind]; decide))

/-- **What a command fails for** is the number of its arguments or one of them. -/
theorem effectOf_blames : FailsOnly (Blames w c.shape args) (effectOf roll ctx w c args) := by
  cases c with
  | rack | bro | lift | bulk | drop | shred | gains =>
    simp only [effectOf]
    exact update_blames _
  | cut =>
    simp only [effectOf]
    exact divide_blames
  | reps | sets | pump | grind =>
    simp only [effectOf]
    exact aggregate_blames _
  | flex =>
    simp only [effectOf]
    exact showOff_blames
  | motivation =>
    simp only [effectOf]
    exact motivate_blames
  | savage =>
    simp only [effectOf]
    exact takeFactorial_blames
  | yolo | swole | beast | legDay | cardio | protein | creatine | steroids | noExcuses | hustle
  | grindMode =>
    simp only [effectOf]
    exact transform_blames _

/-! ## Errors of lines -/

/-- **What a line fails for** is that it starts with no word, or what its command does. -/
theorem lineEffect_eq_error {ts : List Token} {e : ExecError}
    (h : lineEffect roll ctx ts = .error e) : ∃ head args, ts = head :: args ∧
      (head.kind ≠ .word ∧ e = .expectedCommand head.display ∨
        head.kind = .word ∧ ∃ c, Command.ofKeyword? (Text.upper head.text) = some c ∧
          Blames (Text.upper head.text) c.shape args e) := by
  cases ts with
  | nil => exact nomatch h
  | cons head args =>
    refine ⟨head, args, rfl, ?_⟩
    by_cases hkind : head.kind = .word
    · cases hcommand : Command.ofKeyword? (Text.upper head.text) with
      | none =>
        rw [lineEffect_of_none hkind hcommand] at h
        exact nomatch h
      | some c =>
        rw [lineEffect_of_some hkind hcommand] at h
        exact .inr ⟨hkind, c, rfl, effectOf_blames e h⟩
    · rw [lineEffect_of_not_word hkind] at h
      exact .inl ⟨hkind, (Except.error.inj h).symm⟩

end Exec
end GymLang
