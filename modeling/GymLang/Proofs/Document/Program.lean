import GymLang.Proofs.Document.Rowwise
import GymLang.Proofs.Line.Faults

/-!
# Running a text as a program

A program is carried out line by line, each line with the variables that the lines before
it have left.  Problems are found without running it: each line is carried out on its own,
with no variable set.  That foretells a run but for late failures
(`failures_foretold`).

* `Line.carryOut`, `Program.steps` — a line and a program, carried out.
* `foretold_of_mem_steps` — in a program without problems only late failures happen.
* `failed_of_mem_problems` — a line with a problem of carrying it out fails in every run.
-/

namespace GymLang

/-- What becomes of a line that is carried out. -/
inductive Outcome
  /-- The line is not made of tokens. -/
  | broken (e : LexError)
  /-- The line fails. -/
  | failed (e : ExecError)
  /-- The line does what it says, and this is what it prints. -/
  | done (out : List Text)

/-- Carries out a line as it is written. -/
def Line.carryOut (roll : Fin 100) (line : Text) (ctx : Context) : Outcome × Context :=
  match Token.tokenize line with
  | .error e => (.broken e, ctx)
  | .ok tokens =>
    match Exec.run roll tokens ctx with
    | (.error e, after) => (.failed e, after)
    | (.ok out, after) => (.done out, after)

namespace Program

/-- A line of a program that has been carried out. -/
structure Step where
  line : Text
  /-- The variables before the line. -/
  before : Context
  outcome : Outcome

/-- The steps of a program, with a random value for each. -/
def steps (rolls : Nat → Fin 100) (ctx : Context) : List Text → List Step
  | [] => []
  | line :: rest =>
    ⟨line, ctx, (Line.carryOut (rolls 0) line ctx).1⟩ ::
      steps (fun n => rolls (n + 1)) (Line.carryOut (rolls 0) line ctx).2 rest

/-- A step that does not fail, or fails for the value of a variable. -/
def Step.Foretold (s : Step) : Prop :=
  (∃ out, s.outcome = .done out) ∨
    ∃ tokens e, Token.tokenize s.line = .ok tokens ∧ s.outcome = .failed e ∧
      Exec.LateFailure s.before tokens e

variable {t line : Text} {lines : List Text} {ctx : Context} {roll : Fin 100}
  {rolls : Nat → Fin 100} {tokens : List Token} {e : ExecError} {i : Nat} {p : Problem}

/-! ## One line -/

theorem carryOut_of_error (htokens : Token.tokenize line = .ok tokens)
    (h : Exec.lineEffect roll ctx tokens = .error e) :
    Line.carryOut roll line ctx = (.failed e, ctx) := by
  simp only [Line.carryOut, htokens, Exec.run, h]

theorem carryOut_of_ok {effect : Effect} (htokens : Token.tokenize line = .ok tokens)
    (h : Exec.lineEffect roll ctx tokens = .ok effect) :
    Line.carryOut roll line ctx = (.done effect.output, effect.apply ctx) := by
  simp only [Line.carryOut, htokens, Exec.run, h]

/-- A line without faults fails late or not at all. -/
theorem foretold_of_faults_eq_nil (h : (Line.analyze Engine.standard line).faults = [])
    (roll : Fin 100) (ctx : Context) :
    Step.Foretold ⟨line, ctx, (Line.carryOut roll line ctx).1⟩ := by
  obtain ⟨tokens, htokens, hempty⟩ := Line.exists_of_faults_eq_nil h
  cases heffect : Exec.lineEffect roll ctx tokens with
  | ok effect => exact .inl ⟨_, congrArg Prod.fst (carryOut_of_ok htokens heffect)⟩
  | error e =>
    have hlate : Exec.LateFailure ctx tokens e := Exec.lateFailure_iff.2 ⟨hempty, heffect⟩
    exact .inr ⟨tokens, e, htokens, congrArg Prod.fst (carryOut_of_error htokens heffect), hlate⟩

/-! ## All lines -/

/-- What holds of every line whatever the variables are holds of every step. -/
theorem forall_mem_steps {P : Step → Prop}
    (h : ∀ line ∈ lines, ∀ roll ctx, P ⟨line, ctx, (Line.carryOut roll line ctx).1⟩) :
    ∀ s ∈ steps rolls ctx lines, P s := by
  induction lines generalizing rolls ctx with
  | nil => exact nofun
  | cons line lines ih =>
    rw [List.forall_mem_cons] at h
    rw [steps, List.forall_mem_cons]
    exact ⟨h.1 (rolls 0) ctx, ih h.2⟩

/-- Every line has its step, with the variables that the lines before it leave. -/
theorem getElem?_steps (rolls : Nat → Fin 100) (ctx : Context) (hline : lines[i]? = some line) :
    ∃ before, (steps rolls ctx lines)[i]? =
      some ⟨line, before, (Line.carryOut (rolls i) line before).1⟩ := by
  induction lines generalizing rolls ctx i with
  | nil => exact nomatch hline
  | cons first lines ih =>
    cases i with
    | zero =>
      cases hline
      exact ⟨ctx, rfl⟩
    | succ i => exact ih (fun n => rolls (n + 1)) _ hline

/-- In a program without problems only late failures happen. -/
theorem foretold_of_mem_steps (h : Document.problems Engine.standard t = []) :
    ∀ s ∈ steps rolls ctx (Text.rows t), s.Foretold :=
  forall_mem_steps fun line hline =>
    foretold_of_faults_eq_nil (Document.problems_eq_nil_iff.1 h line hline)

/-- A line with a problem of carrying it out fails in every run, with that error. -/
theorem failed_of_mem_problems (h : p ∈ Document.problems Engine.standard t)
    (hkind : p.fault.kind = .execution) :
    ∃ e, p.fault.message = e.message ∧ ∀ rolls ctx, ∃ s,
      (steps rolls ctx (Text.rows t))[p.row]? = some s ∧
        (Text.rows t)[p.row]? = some s.line ∧ s.outcome = .failed e := by
  obtain ⟨line, hline, hfault⟩ := Document.mem_problems_iff.1 h
  obtain ⟨tokens, e, htokens, hempty, hmessage⟩ := Line.exists_of_mem_faults hfault hkind
  refine ⟨e, hmessage, fun rolls ctx => ?_⟩
  obtain ⟨before, hstep⟩ := getElem?_steps rolls ctx hline
  refine ⟨_, hstep, hline, ?_⟩
  exact congrArg Prod.fst (carryOut_of_error htokens (Exec.error_of_error_empty hempty))

/-- **What problems foretell.**  The error of a line that fails with no variable set is its
error with any variables, and the failures of all other lines are the late ones.  So a
program without problems runs without failures but for late ones, whatever the variables
are at its start, and where carrying out a line is a problem every run fails there, with
the error that the problem reports. -/
theorem failures_foretold :
    (∀ roll roll' tokens ctx e,
      ((Exec.run roll tokens ∅).1 = .error e → (Exec.run roll' tokens ctx).1 = .error e) ∧
      ((∃ out, (Exec.run roll tokens ∅).1 = .ok out) ∧ (Exec.run roll' tokens ctx).1 = .error e ↔
        Exec.LateFailure ctx tokens e)) ∧
    (∀ t, Document.problems Engine.standard t = [] →
      ∀ rolls ctx, ∀ s ∈ steps rolls ctx (Text.rows t), s.Foretold) ∧
    ∀ t, ∀ p ∈ Document.problems Engine.standard t, p.fault.kind = .execution →
      ∃ e, p.fault.message = e.message ∧ ∀ rolls ctx, ∃ s,
        (steps rolls ctx (Text.rows t))[p.row]? = some s ∧
          (Text.rows t)[p.row]? = some s.line ∧ s.outcome = .failed e := by
  refine ⟨fun roll roll' tokens ctx e => ⟨fun h => ?_, ?_⟩, fun t h rolls ctx => ?_,
    fun t p h hkind => failed_of_mem_problems h hkind⟩
  · rw [Exec.run_fst_eq_error_iff] at h ⊢
    exact Exec.error_of_error_empty h
  · have hok : (∃ out, (Exec.run roll tokens ∅).1 = .ok out) ↔
        ∃ effect, Exec.lineEffect roll ∅ tokens = .ok effect := by
      simp [Exec.run_fst_eq_ok_iff]
    rw [hok, Exec.run_fst_eq_error_iff, Exec.lateFailure_iff]
  · exact foretold_of_mem_steps h

/-- A division by a variable that is zero, a division without arguments, a program without
problems and one that divides by a number that is zero. -/
theorem failures_foretold_cut :
    Exec.LateFailure ((∅ : Context).insert ['y'] 0)
        [⟨.word, "CUT".toList, ⟨0, 3⟩⟩, ⟨.word, ['x'], ⟨4, 5⟩⟩, ⟨.word, ['y'], ⟨6, 7⟩⟩]
        (.divisionByZero ['x']) ∧
      (Exec.run 0 [⟨.word, "CUT".toList, ⟨0, 3⟩⟩] ((∅ : Context).insert ['y'] 0)).1 =
        .error (.arity "CUT".toList ⟨.update, 0⟩) ∧
      (∀ s ∈ steps (fun _ => 0) ((∅ : Context).insert ['y'] 0)
        (Text.rows "cut x y\n# late".toList), s.Foretold) ∧
      ∃ e : ExecError, "cannot CUT x by zero".toList = e.message ∧ ∃ s,
        (steps (fun _ => 0) ((∅ : Context).insert ['y'] 0)
          (Text.rows "cut x y\ncut x 0".toList))[1]? = some s ∧ s.outcome = .failed e := by
  refine ⟨(failures_foretold.1 0 0 _ _ _).2.1 ⟨⟨[], rfl⟩, rfl⟩,
    (failures_foretold.1 0 0 _ _ _).1 rfl,
    failures_foretold.2.1 _ (by decide +kernel) _ _, ?_⟩
  have hproblem : Problem.mk 1 ⟨.execution, ⟨0, 7⟩, "cannot CUT x by zero".toList⟩ ∈
      Document.problems Engine.standard "cut x y\ncut x 0".toList := by decide +kernel
  obtain ⟨e, hmessage, hrun⟩ := failures_foretold.2.2 _ _ hproblem rfl
  obtain ⟨s, hstep, -, hfailed⟩ := hrun (fun _ => 0) ((∅ : Context).insert ['y'] 0)
  exact ⟨e, hmessage, s, hstep, hfailed⟩

end Program
end GymLang
