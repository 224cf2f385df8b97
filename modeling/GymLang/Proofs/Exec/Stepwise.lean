import GymLang.Proofs.Exec.Failures

/-!
# Carrying out a line step by step

`Exec.run` decides what a line does before anything is done.  `Stepwise.perform` does not
wait: it takes one argument after the other, looks up variables when it needs their values,
and writes a variable as soon as its new value is known.  What it has written stays written
should the line fail afterwards.  No line does fail afterwards, and so both come to the same.

* `Reads`, `Does` — work that leaves the variables alone, and work that has the effect that
  was decided on.
* `Reads.bind`, `Reads.does` — such work, one part after the other.
* `command_does` — a command does what was decided on.
* `perform_eq_run` — **working step by step is deciding first.**
-/

namespace GymLang

/-- Work on the variables.  Where it fails, they are left as they are then. -/
abbrev Work := ExceptT ExecError (StateM Context)

/-! ## The commands -/

namespace Stepwise

open Exec (two one nameOf valueOf valueOf?)

/-- Gives a variable a value.  Nothing is printed. -/
def write (name : Text) (value : Float) : Work (List Text) := do
  modify (·.insert name value)
  return []

/-- The value of an argument, by the variables as they are now. -/
def value (w : Text) (arg : Token) : Work Float := do
  valueOf w (← get) arg

/-- The values of one or more arguments. -/
def values (w : Text) (args : List Token) : Work (List Float) :=
  if args.isEmpty then throw (.arity w ⟨.aggregate, 0⟩) else args.mapM (value w)

/-- Replaces a variable by a combination of its value with a second argument. -/
def update (w : Text) (op : Float → Float → Float) (args : List Token) :
    Work (List Text) := do
  let (target, amount) ← two w args
  let name ← nameOf w target
  let x ← value w amount
  write name (op ((← get).read name) x)

/-- Divides a variable, unless the divisor is one without a value. -/
def divide (w : Text) (args : List Token) : Work (List Text) := do
  let (target, divisor) ← two w args
  let name ← nameOf w target
  match ← valueOf? w (← get) divisor with
  | none => return []
  | some x =>
    if x == 0 then throw (.divisionByZero name)
    else write name ((← get).read name / x)

/-- Replaces a variable by what an operation on its value comes to, if that does not fail. -/
def transform (w : Text) (op : Text → Float → Except ExecError Float) (args : List Token) :
    Work (List Text) := do
  let name ← nameOf w (← one w .transform args)
  let x ← op name ((← get).read name)
  write name x

/-- The factorial of the value of a variable. -/
def factorial (name : Text) (x : Float) : Except ExecError Float :=
  let n := Number.units (Number.magnitude x)
  if x < 0 || !Number.isWhole x || Exec.maxFactorial < n then .error (.invalidFactorial name x)
  else .ok (Number.factorial n)

/-- Prints what all values come to. -/
def aggregate (w : Text) (total : List Float → Float) (args : List Token) :
    Work (List Text) := do
  return [Number.write (total (← values w args))]

/-- Prints a string as it is and anything else by its value. -/
def showOff (w : Text) (args : List Token) : Work (List Text) := do
  let arg ← one w .shown args
  match arg.kind with
  | .string => return [arg.text]
  | _ => return [Number.write (← value w arg)]

/-- Prints a string with enthusiasm. -/
def motivate (w : Text) (args : List Token) : Work (List Text) := do
  let arg ← one w .quoted args
  match arg.kind with
  | .string => return [arg.text ++ "!!! LET'S GO!".toList]
  | _ => throw (.expectedString w arg.display)

/-- Carries out a command. -/
def command (roll : Fin 100) (w : Text) (c : Command) (args : List Token) : Work (List Text) :=
  match c with
  | .rack | .bro => update w (fun _ x => x) args
  | .lift | .bulk => update w (· + ·) args
  | .drop | .shred => update w (· - ·) args
  | .gains => update w (· * ·) args
  | .cut => divide w args
  | .reps => aggregate w Exec.sum args
  | .sets => aggregate w Exec.product args
  | .pump => aggregate w Exec.largest args
  | .grind => aggregate w Exec.smallest args
  | .flex => showOff w args
  | .motivation => motivate w args
  | .yolo => transform w (fun _ _ => .ok (Exec.randomValue roll)) args
  | .swole => transform w (fun _ x => .ok (x * x)) args
  | .beast => transform w (fun _ x => .ok (x * x * x)) args
  | .savage => transform w factorial args
  | .legDay => transform w (fun _ _ => .ok 0) args
  | .cardio => transform w (fun _ x => .ok (x * 0.5)) args
  | .protein => transform w (fun _ x => .ok (x * 2)) args
  | .creatine => transform w (fun _ x => .ok (x * 3)) args
  | .steroids => transform w (fun _ x => .ok (x * 10)) args
  | .noExcuses => transform w (fun _ x => .ok x.abs) args
  | .hustle => transform w (fun _ x => .ok (Number.ceil x)) args
  | .grindMode => transform w (fun _ x => .ok (Number.floor x)) args

/-- Carries out a line. -/
def perform (roll : Fin 100) : List Token → Work (List Text)
  | [] => return []
  | head :: args =>
    match head.kind with
    | .word =>
      match Command.ofKeyword? (Text.upper head.text) with
      | some c => command roll (Text.upper head.text) c args
      | none => return []
    | _ => throw (.expectedCommand head.display)

/-! ## Work that follows a decision -/

/-- What has happened once a decision is carried out. -/
def settle (ctx : Context) : Except ExecError Effect → Except ExecError (List Text) × Context
  | .ok effect => (.ok effect.output, effect.apply ctx)
  | .error e => (.error e, ctx)

/-- Work that comes to `x` and leaves the variables alone. -/
def Reads {α : Type} (m : Work α) (ctx : Context) (x : Except ExecError α) : Prop :=
  m.run.run ctx = (x, ctx)

/-- Work that carries out the decision `d`. -/
def Does (m : Work (List Text)) (ctx : Context) (d : Except ExecError Effect) : Prop :=
  m.run.run ctx = settle ctx d

variable {α β : Type} {w : Text} {c : Command} {ctx : Context} {args : List Token}
  {roll : Fin 100}

section

variable {m : Work α} {x : Except ExecError α}

/-- Work goes on with the variables as they were, if all that was done is to read them. -/
theorem Reads.run_bind (hm : Reads m ctx x) (f : α → Work β) :
    (m >>= f).run.run ctx =
      match x with
      | .ok a => (f a).run.run ctx
      | .error e => (.error e, ctx) := by
  rw [ExceptT.run_bind, StateT.run_bind, hm]
  cases x <;> rfl

theorem reads_lift (x : Except ExecError α) : Reads (liftM x) ctx x := rfl

theorem Reads.bind {f : α → Work β} {g : α → Except ExecError β} (hm : Reads m ctx x)
    (hf : ∀ a, Reads (f a) ctx (g a)) : Reads (m >>= f) ctx (x >>= g) := by
  rw [Reads, hm.run_bind]
  cases x with
  | error e => rfl
  | ok a => exact hf a

theorem Reads.mapM {f : α → Work β} {g : α → Except ExecError β}
    (hf : ∀ a, Reads (f a) ctx (g a)) (l : List α) : Reads (l.mapM f) ctx (l.mapM g) := by
  induction l with
  | nil => rfl
  | cons a l ih =>
    rw [List.mapM_cons, List.mapM_cons]
    exact (hf a).bind fun _ => ih.bind fun _ => rfl

theorem Reads.does {f : α → Work (List Text)} {g : α → Except ExecError Effect}
    (hm : Reads m ctx x) (hf : ∀ a, Does (f a) ctx (g a)) : Does (m >>= f) ctx (x >>= g) := by
  rw [Does, hm.run_bind]
  cases x with
  | error e => rfl
  | ok a => exact hf a

end

/-- The variables can be looked up as long as nothing is written. -/
theorem does_get {f : Context → Work (List Text)} {d : Except ExecError Effect}
    (h : Does (f ctx) ctx d) : Does (get >>= f) ctx d := h

theorem does_write (name : Text) (x : Float) : Does (write name x) ctx (.ok (.assign name x)) :=
  rfl

/-! ## The commands decide first -/

theorem reads_value (w : Text) (arg : Token) : Reads (value w arg) ctx (valueOf w ctx arg) :=
  rfl

theorem reads_values (w : Text) (args : List Token) :
    Reads (values w args) ctx (Exec.valuesOf w ctx args) := by
  unfold values Exec.valuesOf
  split
  · rfl
  · exact .mapM (reads_value w) args

theorem update_does (op : Float → Float → Float) :
    Does (update w op args) ctx (Exec.update w op ctx args) :=
  (reads_lift _).does fun (_, amount) => (reads_lift _).does fun name =>
    (reads_value w amount).does fun _ => does_get (does_write name _)

theorem divide_does : Does (divide w args) ctx (Exec.divide w ctx args) := by
  refine (reads_lift _).does fun (_, divisor) => (reads_lift _).does fun name => ?_
  -- nothing has been written so far, so the divisor is that of the variables at the start
  refine does_get ((reads_lift _).does fun value => ?_)
  cases value with
  | none => rfl
  | some x =>
    by_cases hzero : (x == 0) = true
    · simp only [if_pos hzero]
      rfl
    · simp only [if_neg hzero]
      exact does_get (does_write name _)

theorem transform_does (op : Text → Float → Except ExecError Float) :
    Does (transform w op args) ctx (do
      let name ← nameOf w (← one w .transform args)
      return .assign name (← op name (ctx.read name))) :=
  (reads_lift _).does fun _ => (reads_lift _).does fun name =>
    does_get ((reads_lift _).does fun x => does_write name x)

theorem factorial_does :
    Does (transform w factorial args) ctx (Exec.takeFactorial w ctx args) := by
  refine (reads_lift _).does fun _ => (reads_lift _).does fun name => does_get ?_
  by_cases h : Exec.NoFactorial (ctx.read name)
  · simp only [factorial, if_pos (Exec.noFactorial_iff.1 h)]
    rfl
  · simp only [factorial, if_neg (mt Exec.noFactorial_iff.2 h)]
    rfl

theorem aggregate_does (total : List Float → Float) :
    Does (aggregate w total args) ctx (Exec.aggregate w total ctx args) :=
  (reads_values w args).does fun _ => rfl

theorem showOff_does : Does (showOff w args) ctx (Exec.showOff w ctx args) := by
  refine (reads_lift _).does fun arg => ?_
  cases arg.kind with
  | string => rfl
  | word | number => exact (reads_value w arg).does fun _ => rfl

theorem motivate_does : Does (motivate w args) ctx (Exec.motivate w args) := by
  refine (reads_lift _).does fun arg => ?_
  cases arg.kind with
  | string => rfl
  | word | number => rfl

/-- **A command does what was decided on.** -/
theorem command_does : Does (command roll w c args) ctx (Exec.effectOf roll ctx w c args) := by
  cases c with
  | rack | bro | lift | bulk | drop | shred | gains =>
    simp only [command, Exec.effectOf]
    exact update_does _
  | cut =>
    simp only [command, Exec.effectOf]
    exact divide_does
  | reps | sets | pump | grind =>
    simp only [command, Exec.effectOf]
    exact aggregate_does _
  | flex =>
    simp only [command, Exec.effectOf]
    exact showOff_does
  | motivation =>
    simp only [command, Exec.effectOf]
    exact motivate_does
  | savage =>
    simp only [command, Exec.effectOf]
    exact factorial_does
  | yolo | swole | beast | legDay | cardio | protein | creatine | steroids | noExcuses | hustle
  | grindMode =>
    simp only [command, Exec.effectOf]
    exact transform_does _

/-- **Working step by step is deciding first.** -/
theorem perform_eq_run (roll : Fin 100) (ts : List Token) (ctx : Context) :
    (perform roll ts).run.run ctx = Exec.run roll ts ctx := by
  have hdoes : Does (perform roll ts) ctx (Exec.lineEffect roll ctx ts) := by
    cases ts with
    | nil => rfl
    | cons head args =>
      cases hkind : head.kind with
      | word =>
        cases hcommand : Command.ofKeyword? (Text.upper head.text) with
        | none =>
          simp only [perform, Exec.lineEffect, hkind, hcommand]
          rfl
        | some c =>
          simp only [perform, Exec.lineEffect, hkind, hcommand]
          exact command_does
      | number | string =>
        simp only [perform, Exec.lineEffect, hkind]
        rfl
  rw [hdoes, Exec.run]
  cases Exec.lineEffect roll ctx ts <;> rfl

end Stepwise
end GymLang
