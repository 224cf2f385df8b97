import GymLang.Proofs.Exec.Stepwise

/-!
# What a line can change

Six commands print one line each and change nothing.  All others print nothing, and the
variable that their first argument names is the only one they can change.

* `Allowed`, `effectOf_allowed` — the effects that a command can have with its arguments.
* `run_atomic_local` — **a line does all of its work or none**, and none but on the variable
  that its first argument names.
-/

namespace GymLang
namespace Exec

variable {w : Text} {c : Command} {ctx : Context} {args ts : List Token} {roll : Fin 100}
  {effect : Effect}

/-! ## The effects of commands -/

/-- The commands that print. -/
def printers : List Command := [.reps, .sets, .pump, .grind, .flex, .motivation]

/-- The new value of the variable that the first argument names. -/
def Assigns (args : List Token) (effect : Effect) : Prop :=
  ∃ target rest value,
    args = target :: rest ∧ target.kind = .word ∧ effect = .assign target.text value

theorem update_assigns {op : Float → Float → Float} (h : update w op ctx args = .ok effect) :
    Assigns args effect := by
  simp only [update, bind_eq_ok, Prod.exists, two_eq_ok, nameOf_eq_ok] at h
  obtain ⟨target, amount, rfl, name, ⟨hkind, rfl⟩, x, -, h⟩ := h
  cases h
  exact ⟨target, [amount], _, rfl, hkind, rfl⟩

theorem divide_assigns (h : divide w ctx args = .ok effect) :
    effect = .nothing ∨ Assigns args effect := by
  simp only [divide, bind_eq_ok, Prod.exists, two_eq_ok, nameOf_eq_ok] at h
  obtain ⟨target, divisor, rfl, name, ⟨hkind, rfl⟩, value, -, h⟩ := h
  cases value with
  | none =>
    cases h
    exact .inl rfl
  | some x =>
    by_cases hzero : (x == 0) = true
    · simp only [if_pos hzero] at h
      cases h
    · simp only [if_neg hzero] at h
      cases h
      exact .inr ⟨target, [divisor], _, rfl, hkind, rfl⟩

theorem transform_assigns {op : Float → Float} (h : transform w op ctx args = .ok effect) :
    Assigns args effect := by
  simp only [transform, bind_eq_ok, one_eq_ok, nameOf_eq_ok] at h
  obtain ⟨target, rfl, name, ⟨hkind, rfl⟩, h⟩ := h
  cases h
  exact ⟨target, [], _, rfl, hkind, rfl⟩

theorem takeFactorial_assigns (h : takeFactorial w ctx args = .ok effect) :
    Assigns args effect := by
  simp only [takeFactorial, bind_eq_ok, one_eq_ok, nameOf_eq_ok] at h
  obtain ⟨target, rfl, name, ⟨hkind, rfl⟩, h⟩ := h
  by_cases hfactorial : NoFactorial (ctx.read target.text)
  · simp only [if_pos (noFactorial_iff.1 hfactorial)] at h
    cases h
  · simp only [if_neg (mt noFactorial_iff.2 hfactorial)] at h
    cases h
    exact ⟨target, [], _, rfl, hkind, rfl⟩

theorem aggregate_prints {total : List Float → Float}
    (h : aggregate w total ctx args = .ok effect) : ∃ line, effect = .print line := by
  simp only [aggregate, bind_eq_ok] at h
  obtain ⟨values, -, h⟩ := h
  cases h
  exact ⟨_, rfl⟩

theorem showOff_prints (h : showOff w ctx args = .ok effect) :
    ∃ line, effect = .print line := by
  simp only [showOff, bind_eq_ok] at h
  obtain ⟨arg, -, h⟩ := h
  cases hkind : arg.kind with
  | string =>
    simp only [hkind] at h
    cases h
    exact ⟨_, rfl⟩
  | word | number =>
    simp only [hkind, bind_eq_ok] at h
    obtain ⟨x, -, h⟩ := h
    cases h
    exact ⟨_, rfl⟩

theorem motivate_prints (h : motivate w args = .ok effect) : ∃ line, effect = .print line := by
  simp only [motivate, bind_eq_ok] at h
  obtain ⟨arg, -, h⟩ := h
  cases hkind : arg.kind with
  | string =>
    simp only [hkind] at h
    cases h
    exact ⟨_, rfl⟩
  | word | number =>
    simp only [hkind] at h
    cases h

/-- The effects that a command can have with its arguments. -/
inductive Allowed (c : Command) (args : List Token) : Effect → Prop
  | nothing : c ∉ printers → Allowed c args .nothing
  | print (line : Text) : c ∈ printers → Allowed c args (.print line)
  | assign {effect : Effect} : c ∉ printers → Assigns args effect → Allowed c args effect

/-- **A command that prints does nothing else**, and any other changes at most the variable
that its first argument names. -/
theorem effectOf_allowed (h : effectOf roll ctx w c args = .ok effect) : Allowed c args effect := by
  cases c with
  | rack | bro | lift | bulk | drop | shred | gains =>
    simp only [effectOf] at h
    exact .assign (by decide) (update_assigns h)
  | cut =>
    simp only [effectOf] at h
    rcases divide_assigns h with rfl | hassigns
    · exact .nothing (by decide)
    · exact .assign (by decide) hassigns
  | reps | sets | pump | grind =>
    simp only [effectOf] at h
    obtain ⟨line, rfl⟩ := aggregate_prints h
    exact .print line (by decide)
  | flex =>
    simp only [effectOf] at h
    obtain ⟨line, rfl⟩ := showOff_prints h
    exact .print line (by decide)
  | motivation =>
    simp only [effectOf] at h
    obtain ⟨line, rfl⟩ := motivate_prints h
    exact .print line (by decide)
  | savage =>
    simp only [effectOf] at h
    exact .assign (by decide) (takeFactorial_assigns h)
  | yolo | swole | beast | legDay | cardio | protein | creatine | steroids | noExcuses | hustle
  | grindMode =>
    simp only [effectOf] at h
    exact .assign (by decide) (transform_assigns h)

/-! ## Lines -/

/-- The command that a line gives. -/
def command? : List Token → Option Command
  | [] => none
  | head :: _ => if head.kind = .word then Command.ofKeyword? (Text.upper head.text) else none

/-- The variable that the first argument of a line names. -/
def target? : List Token → Option Text
  | _ :: arg :: _ => if arg.kind = .word then some arg.text else none
  | _ => none

/-- A line that does not fail gives no command and does nothing, or has an effect that its
command can have. -/
theorem lineEffect_allowed (h : lineEffect roll ctx ts = .ok effect) :
    (command? ts = none ∧ effect = .nothing) ∨
      ∃ c, command? ts = some c ∧ Allowed c ts.tail effect := by
  cases ts with
  | nil =>
    cases h
    exact .inl ⟨rfl, rfl⟩
  | cons head args =>
    by_cases hkind : head.kind = .word
    · have hcommand : command? (head :: args) = Command.ofKeyword? (Text.upper head.text) :=
        if_pos hkind
      rw [hcommand]
      cases hkeyword : Command.ofKeyword? (Text.upper head.text) with
      | none =>
        rw [lineEffect_of_none hkind hkeyword] at h
        cases h
        exact .inl ⟨rfl, rfl⟩
      | some c =>
        rw [lineEffect_of_some hkind hkeyword] at h
        exact .inr ⟨c, rfl, effectOf_allowed h⟩
    · rw [lineEffect_of_not_word hkind] at h
      cases h

/-- An effect leaves all variables alone but the one that the first argument names. -/
theorem Allowed.getElem?_apply {name : Text} (h : Allowed c ts.tail effect)
    (hname : target? ts ≠ some name) : (effect.apply ctx)[name]? = ctx[name]? := by
  cases h with
  | nothing _ => rfl
  | print line _ => rfl
  | assign _ hassigns =>
    obtain ⟨target, rest, value, hargs, hkind, rfl⟩ := hassigns
    cases ts with
    | nil => cases hargs
    | cons head args =>
      obtain rfl : args = target :: rest := hargs
      have htarget : target? (head :: target :: rest) = some target.text := if_pos hkind
      have hne : target.text ≠ name := fun heq => hname (heq ▸ htarget)
      simp [Effect.apply, Std.ExtTreeMap.getElem?_insert, hne]

/-- **A line does all of its work or none, and in one place.**  It comes to the same when its
arguments are looked at one after the other and variables are written on the way.  A line that
fails leaves the variables as they were; one that does not leaves all of them as they were
but that which its first argument names.  Six commands print a line and change nothing at
all, and without one of these nothing is printed. -/
theorem run_atomic_local (roll : Fin 100) (ts : List Token) (ctx : Context) :
    (Stepwise.perform roll ts).run.run ctx = run roll ts ctx ∧
      (∀ e, (run roll ts ctx).1 = .error e → (run roll ts ctx).2 = ctx) ∧
      ∀ out, (run roll ts ctx).1 = .ok out →
        (∀ name, target? ts ≠ some name → (run roll ts ctx).2[name]? = ctx[name]?) ∧
        (∀ c ∈ printers, command? ts = some c →
          (run roll ts ctx).2 = ctx ∧ ∃ line, out = [line]) ∧
        ((∀ c ∈ printers, command? ts ≠ some c) → out = []) := by
  refine ⟨Stepwise.perform_eq_run roll ts ctx, ?_, ?_⟩
  · intro e herror
    rw [run, run_fst_eq_error_iff.1 herror]
  · intro out hok
    obtain ⟨effect, heffect, rfl⟩ := run_fst_eq_ok_iff.1 hok
    have hafter : (run roll ts ctx).2 = effect.apply ctx := by rw [run, heffect]
    rw [hafter]
    -- what the line changes and prints is now read off its one effect
    rcases lineEffect_allowed heffect with ⟨hnone, rfl⟩ | ⟨c, hcommand, hallowed⟩
    · simp [hnone, Effect.apply, Effect.output]
    · refine ⟨fun name hname => hallowed.getElem?_apply hname, ?_, ?_⟩
      · intro d hprints hd
        obtain rfl : c = d := Option.some.inj (hcommand.symm.trans hd)
        cases hallowed with
        | print line _ => exact ⟨rfl, line, rfl⟩
        | nothing hsilent | assign hsilent _ => exact absurd hprints hsilent
      · intro hsilent
        cases hallowed with
        | print line hprints => exact absurd hcommand (hsilent c hprints)
        | nothing _ => rfl
        | assign _ hassigns =>
          obtain ⟨target, rest, value, -, -, rfl⟩ := hassigns
          rfl

/-- A division of a variable by itself, which is zero, and two lines that do not fail. -/
theorem run_atomic_local_itself :
    (run 0 [⟨.word, "CUT".toList, ⟨0, 3⟩⟩, ⟨.word, ['x'], ⟨4, 5⟩⟩, ⟨.word, ['x'], ⟨6, 7⟩⟩]
        ((∅ : Context).insert ['x'] 0)).2 = (∅ : Context).insert ['x'] 0 ∧
      (run 0 [⟨.word, "cardio".toList, ⟨0, 6⟩⟩, ⟨.word, ['y'], ⟨7, 8⟩⟩]
        ((∅ : Context).insert ['x'] 0)).2[['x']]? = ((∅ : Context).insert ['x'] 0)[['x']]? ∧
      (run 0 [⟨.word, "flex".toList, ⟨0, 4⟩⟩, ⟨.word, ['x'], ⟨5, 6⟩⟩]
        ((∅ : Context).insert ['x'] 0)).2 = (∅ : Context).insert ['x'] 0 := by
  refine ⟨?_, ?_, ?_⟩
  · have hlate : LateFailure ((∅ : Context).insert ['x'] 0)
        [⟨.word, "CUT".toList, ⟨0, 3⟩⟩, ⟨.word, ['x'], ⟨4, 5⟩⟩, ⟨.word, ['x'], ⟨6, 7⟩⟩]
        (.divisionByZero ['x']) :=
      .divisor rfl (by decide) rfl rfl Std.ExtTreeMap.getElem?_insert_self (by decide +kernel)
    obtain ⟨-, herror⟩ : (∃ effect, lineEffect 0 ∅ _ = .ok effect) ∧ _ := lateFailure_iff.1 hlate
    exact (run_atomic_local 0 _ _).2.1 _ (run_fst_eq_error_iff.2 herror)
  · exact ((run_atomic_local 0 _ _).2.2 [] rfl).1 ['x'] (by decide)
  · exact (((run_atomic_local 0 _ _).2.2 _ rfl).2.1 .flex (by decide) (by decide)).1

end Exec
end GymLang
