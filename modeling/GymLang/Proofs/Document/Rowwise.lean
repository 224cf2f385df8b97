import GymLang.Document.Outline
import GymLang.Document.Problems

/-!
# Findings of a document, row by row

Problems and outline entries are gathered in the same way: one row after the other, each
finding with the number of the row it was made in.  `gather` is that way of gathering, and
what can be said of it can be said of both.

* `mem_problems_iff`, `mem_outline_iff` — what is found is what is found in some row.
* `problems_at`, `outline_at` — what is found in a row is what its line gives.
* `problems_elsewhere`, `outline_elsewhere` — another line makes no difference to the other
  rows.
* `pairwise_gather` — with at most one finding a row, the rows go up.
-/

namespace GymLang
namespace Document

section Gathering

variable {α : Type} {f : Nat → Text → List α} {key : α → Nat} {n i : Nat} {line : Text}
  {lines : List Text} {a : α}

/-- The findings in rows of which the first has number `row`. -/
def gather (f : Nat → Text → List α) (row : Nat) : List Text → List α
  | [] => []
  | line :: rest => f row line ++ gather f (row + 1) rest

theorem mem_gather_iff :
    a ∈ gather f n lines ↔ ∃ i line, lines[i]? = some line ∧ a ∈ f (n + i) line := by
  induction lines generalizing n with
  | nil => simp [gather]
  | cons first lines ih =>
    rw [gather, List.mem_append, ih]
    constructor
    · rintro (ha | ⟨i, line, hline, ha⟩)
      · exact ⟨0, first, rfl, ha⟩
      · refine ⟨i + 1, line, hline, ?_⟩
        rwa [Nat.add_comm i 1, ← Nat.add_assoc]
    · rintro ⟨i, line, hline, ha⟩
      cases i with
      | zero =>
        cases hline
        exact .inl ha
      | succ i =>
        refine .inr ⟨i, line, hline, ?_⟩
        rwa [Nat.add_comm i 1, ← Nat.add_assoc] at ha

/-- No finding is from a row before the first. -/
theorem le_key_of_mem_gather (hkey : ∀ row line, ∀ a ∈ f row line, key a = row)
    (h : a ∈ gather f n lines) : n ≤ key a := by
  obtain ⟨i, line, -, ha⟩ := mem_gather_iff.1 h
  rw [hkey _ _ _ ha]
  exact Nat.le_add_right n i

/-- The findings of a row are those of its line. -/
theorem filter_gather (hkey : ∀ row line, ∀ a ∈ f row line, key a = row)
    (hline : lines[i]? = some line) :
    (gather f n lines).filter (key · = n + i) = f (n + i) line := by
  induction lines generalizing n i with
  | nil => exact nomatch hline
  | cons first lines ih =>
    rw [gather, List.filter_append]
    cases i with
    | zero =>
      cases hline
      have hfirst : (f n line).filter (key · = n + 0) = f n line :=
        List.filter_eq_self.2 fun a ha => decide_eq_true (hkey n line a ha)
      have hrest : (gather f (n + 1) lines).filter (key · = n + 0) = [] :=
        List.filter_eq_nil_iff.2 fun a ha heq => by
          have hle := le_key_of_mem_gather hkey ha
          rw [of_decide_eq_true heq] at hle
          exact Nat.not_succ_le_self n hle
      rw [hfirst, hrest, List.append_nil, Nat.add_zero]
    | succ i =>
      have hfirst : (f n first).filter (key · = n + (i + 1)) = [] :=
        List.filter_eq_nil_iff.2 fun a ha heq => by
          rw [hkey n first a ha, decide_eq_true_eq] at heq
          omega
      rw [hfirst, List.nil_append, Nat.add_comm i 1, ← Nat.add_assoc]
      exact ih hline

/-- Another line changes what is found in its own row only. -/
theorem filter_gather_set (hkey : ∀ row line, ∀ a ∈ f row line, key a = row)
    (lines : List Text) (new : Text) :
    (gather f n (lines.set i new)).filter (key · ≠ n + i) =
      (gather f n lines).filter (key · ≠ n + i) := by
  have hrow (n : Nat) (line : Text) : (f n line).filter (key · ≠ n) = [] :=
    List.filter_eq_nil_iff.2 fun a ha => by simp [hkey n line a ha]
  induction lines generalizing n i with
  | nil => rfl
  | cons first lines ih =>
    cases i with
    | zero =>
      rw [List.set_cons_zero, gather, gather, List.filter_append, List.filter_append,
        Nat.add_zero, hrow, hrow]
    | succ i =>
      have hnext : n + (i + 1) = n + 1 + i := by omega
      rw [List.set_cons_succ, gather, gather, List.filter_append, List.filter_append, hnext, ih]

/-- **With at most one finding a row, the rows go up.** -/
theorem pairwise_gather (hkey : ∀ row line, ∀ a ∈ f row line, key a = row)
    (hone : ∀ row line, (f row line).length ≤ 1) :
    (gather f n lines).Pairwise (key · < key ·) := by
  induction lines generalizing n with
  | nil => exact .nil
  | cons first lines ih =>
    refine List.pairwise_append.2 ⟨?_, ih, fun a ha b hb => ?_⟩
    · match f n first, hone n first with
      | [], _ => exact .nil
      | [a], _ => exact List.pairwise_singleton _ a
    · rw [hkey n first a ha]
      exact le_key_of_mem_gather hkey hb

end Gathering

variable {engine : Engine} {t line : Text} {row : Nat} {p : Problem} {e : Entry}

/-! ## Problems -/

/-- The problems of a row. -/
def rowProblems (engine : Engine) (row : Nat) (line : Text) : List Problem :=
  (Line.analyze engine line).faults.map (Problem.mk row)

theorem problemsFrom_eq_gather (lines : List Text) :
    problemsFrom engine row lines = gather (rowProblems engine) row lines := by
  induction lines generalizing row with
  | nil => rfl
  | cons line lines ih => rw [problemsFrom, gather, ih, rowProblems]

theorem problems_eq_gather : problems engine t = gather (rowProblems engine) 0 (Text.rows t) :=
  problemsFrom_eq_gather _

theorem row_of_mem_rowProblems (engine : Engine) (row : Nat) (line : Text) :
    ∀ p ∈ rowProblems engine row line, p.row = row := by
  intro p hp
  obtain ⟨f, -, rfl⟩ := List.mem_map.1 hp
  rfl

/-- A problem is a fault of the line in its row. -/
theorem mem_problems_iff : p ∈ problems engine t ↔
    ∃ line, (Text.rows t)[p.row]? = some line ∧ p.fault ∈ (Line.analyze engine line).faults := by
  rw [problems_eq_gather, mem_gather_iff]
  constructor
  · rintro ⟨i, line, hline, hp⟩
    obtain ⟨f, hf, rfl⟩ := List.mem_map.1 hp
    refine ⟨line, ?_, hf⟩
    simpa only [Nat.zero_add] using hline
  · rintro ⟨line, hline, hfault⟩
    refine ⟨p.row, line, hline, ?_⟩
    rw [Nat.zero_add]
    exact List.mem_map.2 ⟨p.fault, hfault, rfl⟩

/-- A text has no problems if no line of it has a fault. -/
theorem problems_eq_nil_iff :
    problems engine t = [] ↔ ∀ line ∈ Text.rows t, (Line.analyze engine line).faults = [] := by
  constructor
  · intro h line hline
    obtain ⟨row, hrow⟩ := List.mem_iff_getElem?.1 hline
    refine List.eq_nil_iff_forall_not_mem.2 fun f hf => ?_
    have hp : Problem.mk row f ∈ problems engine t := mem_problems_iff.2 ⟨line, hrow, hf⟩
    rw [h] at hp
    exact List.not_mem_nil hp
  · intro h
    refine List.eq_nil_iff_forall_not_mem.2 fun p hp => ?_
    obtain ⟨line, hline, hfault⟩ := mem_problems_iff.1 hp
    rw [h line (List.mem_of_getElem? hline)] at hfault
    exact List.not_mem_nil hfault

/-- Another line changes the problems in its own row only. -/
theorem problems_elsewhere (engine : Engine) {u new : Text}
    (h : Text.rows u = (Text.rows t).set row new) :
    (problems engine u).filter (·.row ≠ row) = (problems engine t).filter (·.row ≠ row) := by
  have hset := filter_gather_set (n := 0) (i := row) (row_of_mem_rowProblems engine)
    (Text.rows t) new
  rwa [Nat.zero_add, ← h, ← problems_eq_gather, ← problems_eq_gather] at hset

/-- The problems in a row are the faults of its line. -/
theorem problems_at (engine : Engine) (hline : (Text.rows t)[row]? = some line) :
    (problems engine t).filter (·.row = row) = rowProblems engine row line := by
  have h := filter_gather (n := 0) (i := row) (row_of_mem_rowProblems engine) hline
  rwa [Nat.zero_add, ← problems_eq_gather] at h

/-! ## Outlines -/

/-- The outline entries of a row. -/
def rowEntries (engine : Engine) (row : Nat) (line : Text) : List Entry :=
  match Line.leading engine line with
  | .ok c => [⟨c, Range.ofRow row line⟩]
  | .error _ => []

theorem mem_rowEntries_iff : e ∈ rowEntries engine row line ↔
    Line.leading engine line = .ok e.command ∧ e.range = Range.ofRow row line := by
  unfold rowEntries
  cases Line.leading engine line with
  | error s => simp
  | ok c =>
    rw [List.mem_singleton, Except.ok.injEq]
    constructor
    · rintro rfl
      exact ⟨rfl, rfl⟩
    · rintro ⟨rfl, hrange⟩
      rw [← hrange]

theorem outlineFrom_eq_gather (lines : List Text) :
    outlineFrom engine row lines = gather (rowEntries engine) row lines := by
  induction lines generalizing row with
  | nil => rfl
  | cons line lines ih =>
    rw [outlineFrom, gather, rowEntries]
    cases Line.leading engine line with
    | error s => exact ih
    | ok c => exact congrArg (⟨c, Range.ofRow row line⟩ :: ·) ih

theorem outline_eq_gather : outline engine t = gather (rowEntries engine) 0 (Text.rows t) :=
  outlineFrom_eq_gather _

theorem row_of_mem_rowEntries (engine : Engine) (row : Nat) (line : Text) :
    ∀ e ∈ rowEntries engine row line, e.range.start.line = row := by
  intro e he
  rw [(mem_rowEntries_iff.1 he).2]
  rfl

/-- An outline entry is a row that starts with its command. -/
theorem mem_outline_iff : e ∈ outline engine t ↔
    ∃ row line, (Text.rows t)[row]? = some line ∧ Line.leading engine line = .ok e.command ∧
      e.range = Range.ofRow row line := by
  simp only [outline_eq_gather, mem_gather_iff, Nat.zero_add, mem_rowEntries_iff]

/-- The entries in a row are those of its line. -/
theorem outline_at (engine : Engine) (hline : (Text.rows t)[row]? = some line) :
    (outline engine t).filter (·.range.start.line = row) = rowEntries engine row line := by
  have h := filter_gather (n := 0) (i := row) (row_of_mem_rowEntries engine) hline
  rwa [Nat.zero_add, ← outline_eq_gather] at h

/-- Another line changes the entry in its own row only. -/
theorem outline_elsewhere (engine : Engine) {u new : Text}
    (h : Text.rows u = (Text.rows t).set row new) :
    (outline engine u).filter (·.range.start.line ≠ row) =
      (outline engine t).filter (·.range.start.line ≠ row) := by
  have hset := filter_gather_set (n := 0) (i := row) (row_of_mem_rowEntries engine)
    (Text.rows t) new
  rwa [Nat.zero_add, ← h, ← outline_eq_gather, ← outline_eq_gather] at hset

/-- **Outlines go down a text**, row by row. -/
theorem pairwise_outline :
    (outline engine t).Pairwise fun d e => d.range.start.line < e.range.start.line := by
  rw [outline_eq_gather]
  refine pairwise_gather (row_of_mem_rowEntries engine) fun row line => ?_
  unfold rowEntries
  cases Line.leading engine line with
  | error s => exact Nat.zero_le 1
  | ok c => exact Nat.le_refl 1

end Document
end GymLang
