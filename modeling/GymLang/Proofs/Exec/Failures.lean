import GymLang.Exec.Basic

/-!
# What a failure depends on

A line can be carried out with different variables and different random values.  Its
effects differ then, but mostly it fails always or never, and always with the same error.
The exceptions are a division by a variable and a factorial, whose success hangs on the
value of the variable they name.

* `FailAlike` — two results that are the same error, or both none.
* `effectOf_failAlike` — all commands but two fail alike with any variables.
* `LateFailure` — the two ways to fail that only the values of variables can tell.
* `failAlike_or_late` — **a line fails alike everywhere, or only in one of those ways.**
* `lateFailure_iff`, `error_of_error_empty` — what it says of a line that is first carried
  out with no variable set.
-/

namespace GymLang

/-- Two results that fail with the same error, or do not fail. -/
inductive FailAlike {ε α β : Type} : Except ε α → Except ε β → Prop
  | error (e : ε) : FailAlike (.error e) (.error e)
  | ok (a : α) (b : β) : FailAlike (.ok a) (.ok b)

namespace FailAlike

variable {ε α β γ δ : Type}

theorem refl (x : Except ε α) : FailAlike x x := by
  cases x with
  | error e => exact .error e
  | ok a => exact .ok a a

theorem bind {x : Except ε α} {y : Except ε β} {f : α → Except ε γ} {g : β → Except ε δ}
    (h : FailAlike x y) (hfg : ∀ a b, FailAlike (f a) (g b)) :
    FailAlike (x >>= f) (y >>= g) := by
  cases h with
  | error e => exact .error e
  | ok a b => exact hfg a b

/-- After the same first part, the second parts decide. -/
theorem bind_same (x : Except ε α) {f : α → Except ε γ} {g : α → Except ε δ}
    (hfg : ∀ a, FailAlike (f a) (g a)) : FailAlike (x >>= f) (x >>= g) := by
  cases x with
  | error e => exact .error e
  | ok a => exact hfg a

theorem map {x : Except ε α} {y : Except ε β} (h : FailAlike x y) (f : α → γ) (g : β → δ) :
    FailAlike (x.map f) (y.map g) := by
  cases h with
  | error e => exact .error e
  | ok a b => exact .ok (f a) (g b)

theorem mapM {f : α → Except ε β} {g : α → Except ε γ} (hfg : ∀ a, FailAlike (f a) (g a))
    (l : List α) : FailAlike (l.mapM f) (l.mapM g) := by
  induction l with
  | nil => exact .ok [] []
  | cons a l ih =>
    rw [List.mapM_cons, List.mapM_cons]
    exact (hfg a).bind fun _ _ => ih.bind fun _ _ => .ok _ _

theorem error_eq {x : Except ε α} {y : Except ε β} (h : FailAlike x y) {e : ε}
    (hx : x = .error e) : y = .error e := by
  cases h with
  | error e' => exact congrArg Except.error (Except.error.inj hx)
  | ok a b => exact absurd hx nofun

end FailAlike

theorem bind_eq_ok {ε α β : Type} {x : Except ε α} {f : α → Except ε β} {b : β} :
    x >>= f = .ok b ↔ ∃ a, x = .ok a ∧ f a = .ok b := by
  cases x with
  | error e => exact ⟨nofun, fun ⟨_, h, _⟩ => nomatch h⟩
  | ok a =>
    constructor
    · exact fun h => ⟨a, rfl, h⟩
    · rintro ⟨a', h, hf⟩
      cases h
      exact hf

namespace Exec

variable {w : Text} {c : Command} {ctx ctx' : Context} {args : List Token}
  {roll roll' : Fin 100}

/-! ## What a line does, by its first token -/

variable {head : Token}

theorem lineEffect_of_not_word (h : head.kind ≠ .word) :
    lineEffect roll ctx (head :: args) = .error (.expectedCommand head.display) := by
  unfold lineEffect
  cases hkind : head.kind with
  | word => exact absurd hkind h
  | number | string => simp only [hkind]

theorem lineEffect_of_none (h : head.kind = .word)
    (hnone : Command.ofKeyword? (Text.upper head.text) = none) :
    lineEffect roll ctx (head :: args) = .ok .nothing := by
  simp only [lineEffect, h, hnone]

theorem lineEffect_of_some (h : head.kind = .word)
    (hsome : Command.ofKeyword? (Text.upper head.text) = some c) :
    lineEffect roll ctx (head :: args) = effectOf roll ctx (Text.upper head.text) c args := by
  simp only [lineEffect, h, hsome]

theorem run_fst (roll : Fin 100) (ts : List Token) (ctx : Context) :
    (run roll ts ctx).1 = (lineEffect roll ctx ts).map Effect.output := by
  unfold run
  cases lineEffect roll ctx ts <;> rfl

theorem run_fst_eq_error_iff {ts : List Token} {e : ExecError} :
    (run roll ts ctx).1 = .error e ↔ lineEffect roll ctx ts = .error e := by
  rw [run_fst]
  cases lineEffect roll ctx ts with
  | error e' => simp [Except.map]
  | ok effect => simp [Except.map]

theorem run_fst_eq_ok_iff {ts : List Token} {out : List Text} : (run roll ts ctx).1 = .ok out ↔
    ∃ effect, lineEffect roll ctx ts = .ok effect ∧ effect.output = out := by
  rw [run_fst]
  cases lineEffect roll ctx ts with
  | error e => simp [Except.map]
  | ok effect => simp [Except.map]

/-! ## Arguments -/

theorem two_eq_ok {a b : Token} : two w args = .ok (a, b) ↔ args = [a, b] := by
  constructor
  · intro h
    unfold two at h
    split at h
    · cases h
      rfl
    · cases h
  · rintro rfl
    rfl

theorem one_eq_ok {s : Shape} {a : Token} : one w s args = .ok a ↔ args = [a] := by
  constructor
  · intro h
    unfold one at h
    split at h
    · cases h
      rfl
    · cases h
  · rintro rfl
    rfl

theorem nameOf_eq_ok {arg : Token} {name : Text} :
    nameOf w arg = .ok name ↔ arg.kind = .word ∧ arg.text = name := by
  unfold nameOf
  cases arg.kind with
  | word => simp
  | number | string => simp

/-! ## Commands that fail alike -/

theorem valueOf?_failAlike (w : Text) (ctx ctx' : Context) (arg : Token) :
    FailAlike (valueOf? w ctx arg) (valueOf? w ctx' arg) := by
  unfold valueOf?
  cases arg.kind with
  | word => exact .ok _ _
  | number => exact .refl _
  | string => exact .refl _

theorem valueOf_failAlike (w : Text) (ctx ctx' : Context) (arg : Token) :
    FailAlike (valueOf w ctx arg) (valueOf w ctx' arg) :=
  (valueOf?_failAlike w ctx ctx' arg).map _ _

theorem valuesOf_failAlike (w : Text) (ctx ctx' : Context) (args : List Token) :
    FailAlike (valuesOf w ctx args) (valuesOf w ctx' args) := by
  unfold valuesOf
  split
  · exact .error _
  · exact .mapM (valueOf_failAlike w ctx ctx') args

theorem update_failAlike (op : Float → Float → Float) :
    FailAlike (update w op ctx args) (update w op ctx' args) :=
  .bind_same _ fun (_, amount) => .bind_same _ fun _ =>
    (valueOf_failAlike w ctx ctx' amount).bind fun _ _ => .ok _ _

theorem transform_failAlike (op op' : Float → Float) :
    FailAlike (transform w op ctx args) (transform w op' ctx' args) :=
  .bind_same _ fun _ => .bind_same _ fun _ => .ok _ _

theorem aggregate_failAlike (total : List Float → Float) :
    FailAlike (aggregate w total ctx args) (aggregate w total ctx' args) :=
  (valuesOf_failAlike w ctx ctx' args).bind fun _ _ => .ok _ _

theorem showOff_failAlike : FailAlike (showOff w ctx args) (showOff w ctx' args) := by
  refine .bind_same _ fun arg => ?_
  cases arg.kind with
  | string => exact .ok _ _
  | word | number => exact (valueOf_failAlike w ctx ctx' arg).bind fun _ _ => .ok _ _

/-- **All commands but two fail alike** with any variables and any random values. -/
theorem effectOf_failAlike (hcut : c ≠ .cut) (hsavage : c ≠ .savage) :
    FailAlike (effectOf roll ctx w c args) (effectOf roll' ctx' w c args) := by
  cases c with
  | cut => exact absurd rfl hcut
  | savage => exact absurd rfl hsavage
  | rack | bro | lift | bulk | drop | shred | gains =>
    simp only [effectOf]
    exact update_failAlike _
  | reps | sets | pump | grind =>
    simp only [effectOf]
    exact aggregate_failAlike _
  | flex =>
    simp only [effectOf]
    exact showOff_failAlike
  | motivation =>
    simp only [effectOf]
    exact .refl _
  | yolo | swole | beast | legDay | cardio | protein | creatine | steroids | noExcuses | hustle
  | grindMode =>
    simp only [effectOf]
    exact transform_failAlike _ _

/-! ## Failures that hang on values -/

/-- A value that has no factorial within range. -/
def NoFactorial (x : Float) : Prop :=
  x < 0 ∨ Number.isWhole x = false ∨ maxFactorial < Number.units (Number.magnitude x)

/-- The failures of a line that its variables are to blame for: a division by a variable
that is zero, and the factorial of a variable whose value has none. -/
inductive LateFailure (ctx : Context) : List Token → ExecError → Prop
  | divisor {head target divisor : Token} {x : Float} :
      head.kind = .word → Command.ofKeyword? (Text.upper head.text) = some .cut →
      target.kind = .word → divisor.kind = .word → ctx[divisor.text]? = some x → (x == 0) = true →
      LateFailure ctx [head, target, divisor] (.divisionByZero target.text)
  | factorial {head target : Token} {x : Float} :
      head.kind = .word → Command.ofKeyword? (Text.upper head.text) = some .savage →
      target.kind = .word → ctx[target.text]? = some x → NoFactorial x →
      LateFailure ctx [head, target] (.invalidFactorial target.text x)

/-- Without variables nothing fails late. -/
theorem not_lateFailure_empty {ts : List Token} {e : ExecError} : ¬ LateFailure ∅ ts e := by
  intro h
  cases h with
  | divisor _ _ _ _ hvalue _ => exact absurd hvalue (by simp)
  | factorial _ _ _ hvalue _ => exact absurd hvalue (by simp)

/-- An undeclared variable has a factorial. -/
theorem not_noFactorial_zero : ¬ NoFactorial 0 := by
  rintro (h | h | h) <;> revert h <;> decide +kernel

theorem valueOf?_word {arg : Token} (h : arg.kind = .word) :
    valueOf? w ctx arg = .ok ctx[arg.text]? := by
  rw [valueOf?, h]

/-- A value that is no variable is the same with any variables. -/
theorem valueOf?_eq {arg : Token} (h : arg.kind ≠ .word) (ctx ctx' : Context) :
    valueOf? w ctx arg = valueOf? w ctx' arg := by
  unfold valueOf?
  cases hkind : arg.kind with
  | word => exact absurd hkind h
  | number | string => rfl

theorem divide_names {target divisor : Token} (htarget : target.kind = .word)
    (hdivisor : divisor.kind = .word) :
    divide w ctx [target, divisor] =
      match ctx[divisor.text]? with
      | none => .ok .nothing
      | some x =>
        if x == 0 then .error (.divisionByZero target.text)
        else .ok (.assign target.text (ctx.read target.text / x)) := by
  have hname : nameOf w target = .ok target.text := nameOf_eq_ok.2 ⟨htarget, rfl⟩
  simp only [divide, two, hname, valueOf?_word hdivisor, bind, Except.bind]
  rfl

/-- A division fails alike with any variables, or divides by a variable and fails only if
that is zero. -/
theorem divide_failAlike_or (w : Text) (args : List Token) :
    (∀ ctx ctx', FailAlike (divide w ctx args) (divide w ctx' args)) ∨
      ∃ target divisor : Token, args = [target, divisor] ∧ target.kind = .word ∧
        divisor.kind = .word ∧ ∀ ctx, (∃ effect, divide w ctx args = .ok effect) ∨
          ∃ x, ctx[divisor.text]? = some x ∧ (x == 0) = true ∧
            divide w ctx args = .error (.divisionByZero target.text) := by
  cases htwo : two w args with
  | error e =>
    refine .inl fun _ _ => ?_
    simp only [divide, htwo]
    exact .error e
  | ok pair =>
    obtain ⟨target, divisor⟩ := pair
    obtain rfl := two_eq_ok.1 htwo
    cases hname : nameOf w target with
    | error e =>
      refine .inl fun _ _ => ?_
      simp only [divide, htwo, hname, bind, Except.bind]
      exact .error e
    | ok name =>
      obtain ⟨htarget, rfl⟩ := nameOf_eq_ok.1 hname
      by_cases hdivisor : divisor.kind = .word
      · refine .inr ⟨target, divisor, rfl, htarget, hdivisor, fun ctx => ?_⟩
        rw [divide_names htarget hdivisor]
        cases hvalue : ctx[divisor.text]? with
        | none => exact .inl ⟨_, rfl⟩
        | some x =>
          by_cases hzero : (x == 0) = true
          · exact .inr ⟨x, rfl, hzero, if_pos hzero⟩
          · exact .inl ⟨_, if_neg hzero⟩
      · refine .inl fun ctx ctx' => ?_
        simp only [divide, htwo, bind, Except.bind, hname, valueOf?_eq hdivisor ctx ctx']
        cases valueOf? w ctx' divisor with
        | error e => exact .error e
        | ok value =>
          cases value with
          | none => exact .ok _ _
          | some x =>
            by_cases hzero : (x == 0) = true
            · simpa only [if_pos hzero] using .error _
            · simpa only [if_neg hzero] using .ok _ _

theorem noFactorial_iff {x : Float} : NoFactorial x ↔
    (x < 0 || !Number.isWhole x || maxFactorial < Number.units (Number.magnitude x)) = true := by
  simp [NoFactorial, or_assoc]

section

variable {target : Token}

theorem takeFactorial_of_noFactorial (htarget : target.kind = .word)
    (h : NoFactorial (ctx.read target.text)) :
    takeFactorial w ctx [target] =
      .error (.invalidFactorial target.text (ctx.read target.text)) := by
  have hname : nameOf w target = .ok target.text := nameOf_eq_ok.2 ⟨htarget, rfl⟩
  simp only [takeFactorial, one, hname, bind, Except.bind, if_pos (noFactorial_iff.1 h)]
  rfl

theorem takeFactorial_of_not_noFactorial (htarget : target.kind = .word)
    (h : ¬ NoFactorial (ctx.read target.text)) :
    ∃ effect, takeFactorial w ctx [target] = .ok effect := by
  have hname : nameOf w target = .ok target.text := nameOf_eq_ok.2 ⟨htarget, rfl⟩
  simp only [takeFactorial, one, hname, bind, Except.bind, if_neg (mt noFactorial_iff.2 h)]
  exact ⟨_, rfl⟩

end

/-- A factorial fails alike with any variables, or is that of a variable and fails only if
the value of that has none. -/
theorem takeFactorial_failAlike_or (w : Text) (args : List Token) :
    (∀ ctx ctx', FailAlike (takeFactorial w ctx args) (takeFactorial w ctx' args)) ∨
      ∃ target : Token, args = [target] ∧ target.kind = .word ∧
        ∀ ctx, (∃ effect, takeFactorial w ctx args = .ok effect) ∨
          ∃ x, ctx[target.text]? = some x ∧ NoFactorial x ∧
            takeFactorial w ctx args = .error (.invalidFactorial target.text x) := by
  cases hone : one w .transform args with
  | error e =>
    refine .inl fun _ _ => ?_
    simp only [takeFactorial, hone]
    exact .error e
  | ok target =>
    obtain rfl := one_eq_ok.1 hone
    cases hname : nameOf w target with
    | error e =>
      refine .inl fun _ _ => ?_
      simp only [takeFactorial, hone, hname, bind, Except.bind]
      exact .error e
    | ok name =>
      obtain ⟨htarget, rfl⟩ := nameOf_eq_ok.1 hname
      refine .inr ⟨target, rfl, htarget, fun ctx => ?_⟩
      by_cases hfactorial : NoFactorial (ctx.read target.text)
      · have herror := takeFactorial_of_noFactorial (w := w) htarget hfactorial
        cases hvalue : ctx[target.text]? with
        | none =>
          rw [Context.read, hvalue] at hfactorial
          exact absurd hfactorial not_noFactorial_zero
        | some x =>
          rw [Context.read, hvalue] at hfactorial herror
          exact .inr ⟨x, rfl, hfactorial, herror⟩
      · exact .inl (takeFactorial_of_not_noFactorial htarget hfactorial)

/-- **A line fails alike everywhere, or late.**  Either it comes to the same error or to none
whatever the variables and random values are, or it does not fail but for what one of its
variables is. -/
theorem failAlike_or_late (ts : List Token) :
    (∀ roll roll' ctx ctx', FailAlike (lineEffect roll ctx ts) (lineEffect roll' ctx' ts)) ∨
      ∀ roll ctx, (∃ effect, lineEffect roll ctx ts = .ok effect) ∨
        ∃ e, lineEffect roll ctx ts = .error e ∧ LateFailure ctx ts e := by
  cases ts with
  | nil => exact .inl fun _ _ _ _ => .ok _ _
  | cons head args =>
    by_cases hkind : head.kind = .word
    · cases hcommand : Command.ofKeyword? (Text.upper head.text) with
      | none =>
        simp only [lineEffect_of_none hkind hcommand]
        exact .inl fun _ _ _ _ => .ok _ _
      | some c =>
        simp only [lineEffect_of_some hkind hcommand]
        by_cases hcut : c = .cut
        · subst hcut
          simp only [effectOf]
          have hdivide := divide_failAlike_or (Text.upper head.text) args
          rcases hdivide with h | ⟨target, divisor, rfl, ht, hd, h⟩
          · exact .inl fun _ _ => h
          · refine .inr fun roll ctx => (h ctx).imp_right ?_
            rintro ⟨x, hvalue, hzero, herror⟩
            exact ⟨_, herror, .divisor hkind hcommand ht hd hvalue hzero⟩
        by_cases hsavage : c = .savage
        · subst hsavage
          simp only [effectOf]
          have hfactorial := takeFactorial_failAlike_or (Text.upper head.text) args
          rcases hfactorial with h | ⟨target, rfl, ht, h⟩
          · exact .inl fun _ _ => h
          · refine .inr fun roll ctx => (h ctx).imp_right ?_
            rintro ⟨x, hvalue, hnone, herror⟩
            exact ⟨_, herror, .factorial hkind hcommand ht hvalue hnone⟩
        · exact .inl fun _ _ _ _ => effectOf_failAlike hcut hsavage
    · simp only [lineEffect_of_not_word hkind]
      exact .inl fun _ _ _ _ => .error _

/-- **Late failures are the failures that only variables cause**: those of a line that does
not fail when no variable is set. -/
theorem lateFailure_iff {ts : List Token} {e : ExecError} : LateFailure ctx ts e ↔
    (∃ effect, lineEffect roll ∅ ts = .ok effect) ∧ lineEffect roll' ctx ts = .error e := by
  constructor
  · intro h
    cases h with
    | divisor hhead hcut htarget hdivisor hvalue hzero =>
      rw [lineEffect_of_some hhead hcut, lineEffect_of_some hhead hcut]
      simp only [effectOf, divide_names htarget hdivisor, hvalue, if_pos hzero, and_true]
      exact ⟨_, rfl⟩
    | @factorial head target x hhead hsavage htarget hvalue hfactorial =>
      have hread : ctx.read target.text = x := by rw [Context.read, hvalue, Option.getD_some]
      rw [lineEffect_of_some hhead hsavage, lineEffect_of_some hhead hsavage]
      simp only [effectOf]
      constructor
      · exact takeFactorial_of_not_noFactorial htarget not_noFactorial_zero
      · rw [takeFactorial_of_noFactorial htarget (hread.symm ▸ hfactorial), hread]
  · rintro ⟨⟨effect, hok⟩, herror⟩
    rcases failAlike_or_late ts with halike | hlate
    · have hempty := (halike roll' roll ctx ∅).error_eq herror
      exact nomatch hok.symm.trans hempty
    · rcases hlate roll' ctx with ⟨effect', hok'⟩ | ⟨e', herror', h⟩
      · exact nomatch hok'.symm.trans herror
      · cases herror'.symm.trans herror
        exact h

/-- **A failure that no variable causes is the same with any variables.** -/
theorem error_of_error_empty {ts : List Token} {e : ExecError}
    (h : lineEffect roll ∅ ts = .error e) : lineEffect roll' ctx ts = .error e := by
  rcases failAlike_or_late ts with halike | hlate
  · exact (halike roll roll' ∅ ctx).error_eq h
  · rcases hlate roll ∅ with ⟨effect, hok⟩ | ⟨e', -, hnot⟩
    · exact nomatch hok.symm.trans h
    · exact absurd hnot not_lateFailure_empty

end Exec
end GymLang
