import CarbonSurvey.Proofs.Evaluation.Pursuit

/-! # The stack as something that is handed on

A run knows the goals of the place where it stands. Here the goals are kept on one stack instead, which every
step is handed as the step before it left it: opening a goal puts it on top, and closing takes off whatever is
on top by then. Programs work on that stack as they like, look at it, and may go on after errors. They cannot
tell the difference (`Setting.threads_iff`).
-/

namespace CarbonSurvey

namespace Outcome

variable {α β γ : Type}

/-- An outcome and then a later one, which has the last word. -/
def before (outcome : Outcome α) (later : Outcome β) : Outcome β :=
  ⟨outcome.warnings ++ later.warnings, later.result⟩

/-- Goes on after an outcome, whether it is a value or an error. -/
def andThen (outcome : Outcome α) (next : Except Error α → Outcome β) : Outcome β :=
  outcome.before (next outcome.result)

theorem fail_andThen (error : Error) (next : Except Error α → Outcome β) :
    (fail error : Outcome α).andThen next = next (.error error) := rfl

@[simp]
theorem andThen_give (outcome : Outcome α) : outcome.andThen (fun result => ⟨[], result⟩) = outcome := by
  simp [andThen, before]

theorem bind_ok_andThen (outcome : Outcome α) (f : α → β) (g : Except Error β → Outcome γ) :
    (outcome.bind fun value => .ok (f value)).andThen g = outcome.andThen fun result => g (result.map f) := by
  obtain ⟨warnings, result⟩ := outcome
  cases result <;> simp [bind, ok, andThen, before, Except.map]

/-- To go on with values only is to give errors on. -/
theorem bind_andThen (outcome : Outcome α) (f : α → Outcome β) (g : Except Error β → Outcome γ) :
    (outcome.bind f).andThen g = outcome.andThen fun
      | .ok value => (f value).andThen g
      | .error error => g (.error error) := by
  obtain ⟨warnings, result⟩ := outcome
  cases result <;> simp [bind, andThen, before]

end Outcome

/-- Work on a stack, step by step. A program is shown what comes of each step, errors too, and decides how to
    go on. -/
inductive Program : Type → Type 1 where
  | give {α : Type} (result : Except Error α) : Program α
  /-- Looks at the stack. -/
  | look {α : Type} (next : Stack → Program α) : Program α
  | pursue {α : Type} (goal : Goal) (next : Except Error Float → Program α) : Program α
  /-- Works inside a goal. On a cycle there is `onCycle` instead. -/
  | within {α β : Type} (goal : Goal) (onCycle : β) (inside : Program β) (next : Except Error β → Program α) :
      Program α

namespace Plan

variable {α β : Type}

/-- Runs a plan as a part of a program. An error ends the plan at once. -/
def program (next : Except Error β → Program α) : Plan β → Program α
  | .done value => next (.ok value)
  | .ask goal rest => .pursue goal fun
      | .ok answer => (rest answer).program next
      | .error error => next (.error error)

end Plan

mutual

/-- What comes of a program, and the stack that it leaves. -/
inductive Setting.Threads (setting : Setting) :
    {α : Type} → Stack → Program α → Outcome α → Stack → Prop where
  | give {α : Type} {stack : Stack} {result : Except Error α} :
      Threads setting stack (.give result) ⟨[], result⟩ stack
  | look {α : Type} {stack after : Stack} {next : Stack → Program α} {outcome : Outcome α} :
      Threads setting stack (next stack) outcome after →
      Threads setting stack (.look next) outcome after
  | pursue {α : Type} {stack left after : Stack} {goal : Goal} {next : Except Error Float → Program α}
      {first : Outcome Float} {outcome : Outcome α} :
      Enters setting stack goal 0.0 ((setting.plan goal).program .give) first left →
      Threads setting left (next first.result) outcome after →
      Threads setting stack (.pursue goal next) (first.before outcome) after
  | within {α β : Type} {stack left after : Stack} {goal : Goal} {onCycle : β} {inside : Program β}
      {next : Except Error β → Program α} {first : Outcome β} {outcome : Outcome α} :
      Enters setting stack goal onCycle inside first left →
      Threads setting left (next first.result) outcome after →
      Threads setting stack (.within goal onCycle inside next) (first.before outcome) after

/-- What comes of opening a goal, working inside it and closing it again, and the stack that this leaves. -/
inductive Setting.Enters (setting : Setting) :
    {β : Type} → Stack → Goal → β → Program β → Outcome β → Stack → Prop where
  | cycle {β : Type} {stack : Stack} {goal : Goal} {onCycle : β} {inside : Program β} :
      goal ∈ stack →
      Enters setting stack goal onCycle inside (.warn ⟨goal.name, stack.cycle goal.name⟩ onCycle) stack
  | deep {β : Type} {stack : Stack} {goal : Goal} {onCycle : β} {inside : Program β} :
      goal ∉ stack → goal.isFormula ∧ setting.maxDepth ≤ stack.nesting →
      Enters setting stack goal onCycle inside
        (.fail (.tooDeep goal.name setting.maxDepth (stack.nesting + 1))) stack
  | opened {β : Type} {stack left : Stack} {goal : Goal} {onCycle : β} {inside : Program β} {outcome : Outcome β} :
      goal ∉ stack → ¬ (goal.isFormula ∧ setting.maxDepth ≤ stack.nesting) →
      Threads setting (goal :: stack) inside outcome left →
      Enters setting stack goal onCycle inside outcome (left.drop 1)

end

/-- What comes of programs that work on the same stack one after another, and the stack that they leave. -/
inductive Setting.ThreadsAll (setting : Setting) {α : Type} :
    Stack → List (Program α) → List (Outcome α) → Stack → Prop where
  | nil {stack : Stack} : ThreadsAll setting stack [] [] stack
  | cons {stack left after : Stack} {program : Program α} {programs : List (Program α)} {outcome : Outcome α}
      {outcomes : List (Outcome α)} :
      setting.Threads stack program outcome left → ThreadsAll setting left programs outcomes after →
      ThreadsAll setting stack (program :: programs) (outcome :: outcomes) after

namespace Setting

/-- What comes of opening a goal, given what the work inside it comes to. -/
def within {α : Type} (setting : Setting) (stack : Stack) (goal : Goal) (onCycle : α) (inside : Outcome α) :
    Outcome α :=
  if goal ∈ stack then
    .warn ⟨goal.name, stack.cycle goal.name⟩ onCycle
  else if goal.isFormula ∧ setting.maxDepth ≤ stack.nesting then
    .fail (.tooDeep goal.name setting.maxDepth (stack.nesting + 1))
  else
    inside

theorem pursue_eq_within (setting : Setting) (stack : Stack) (goal : Goal) :
    setting.pursue stack goal =
      setting.within stack goal 0.0 (setting.run (goal :: stack) (setting.plan goal)) :=
  pursue_eq setting stack goal

end Setting

/-- What comes of a program at a place where the goals of a stack are being pursued. -/
def Program.outcome {α : Type} (setting : Setting) (stack : Stack) : Program α → Outcome α
  | .give result => ⟨[], result⟩
  | .look next => (next stack).outcome setting stack
  | .pursue goal next => (setting.pursue stack goal).andThen fun result => (next result).outcome setting stack
  | .within goal onCycle inside next =>
      (setting.within stack goal onCycle (inside.outcome setting (goal :: stack))).andThen fun result =>
        (next result).outcome setting stack

/-- A plan that is a part of a program comes to what it comes to when it is run. -/
theorem Program.outcome_program {α β : Type} {setting : Setting} {stack : Stack} {plan : Plan β}
    {next : Except Error β → Program α} :
    (plan.program next).outcome setting stack =
      (setting.run stack plan).andThen fun result => (next result).outcome setting stack := by
  induction plan with
  | done value => rfl
  | ask goal rest ih =>
      simp only [Plan.program, outcome, Setting.run, Plan.run, Outcome.bind_andThen]
      congr 1
      funext result
      cases result with
      | ok answer => exact ih answer
      | error error => rfl

theorem Program.outcome_program_give {α : Type} {setting : Setting} {stack : Stack} {plan : Plan α} :
    (plan.program .give).outcome setting stack = setting.run stack plan := by
  rw [outcome_program]
  exact Outcome.andThen_give _

namespace Setting

variable {setting : Setting}

mutual

/-- A stack that is handed on from step to step comes back as it was, and the steps come to what they come to
    at that place. -/
theorem Threads.sound {α : Type} {stack after : Stack} {program : Program α} {outcome : Outcome α}
    (h : setting.Threads stack program outcome after) :
    outcome = program.outcome setting stack ∧ after = stack := by
  match h with
  | .give => exact ⟨rfl, rfl⟩
  | .look rest => exact rest.sound
  | .pursue first rest =>
      obtain ⟨hfirst, hleft⟩ := first.sound
      obtain ⟨hrest, hafter⟩ := rest.sound
      subst hleft hafter hrest
      rw [Program.outcome_program_give, ← pursue_eq_within] at hfirst
      exact ⟨by rw [hfirst]; rfl, rfl⟩
  | .within first rest =>
      obtain ⟨hfirst, hleft⟩ := first.sound
      obtain ⟨hrest, hafter⟩ := rest.sound
      subst hleft hafter hrest hfirst
      exact ⟨rfl, rfl⟩
termination_by structural h

theorem Enters.sound {α : Type} {stack after : Stack} {goal : Goal} {onCycle : α} {inside : Program α}
    {outcome : Outcome α} (h : setting.Enters stack goal onCycle inside outcome after) :
    outcome = setting.within stack goal onCycle (inside.outcome setting (goal :: stack)) ∧ after = stack := by
  match h with
  | .cycle hstack => exact ⟨by rw [within, if_pos hstack], rfl⟩
  | .deep hstack hdeep => exact ⟨by rw [within, if_neg hstack, if_pos hdeep], rfl⟩
  | .opened hstack hdeep work =>
      obtain ⟨hinside, hleft⟩ := work.sound
      subst hleft hinside
      exact ⟨by rw [within, if_neg hstack, if_neg hdeep], rfl⟩
termination_by structural h

end

variable {stack : Stack}

theorem enters_within {α : Type} {goal : Goal} {onCycle : α} {inside : Program α}
    (h : setting.Threads (goal :: stack) inside (inside.outcome setting (goal :: stack)) (goal :: stack)) :
    setting.Enters stack goal onCycle inside
      (setting.within stack goal onCycle (inside.outcome setting (goal :: stack))) stack := by
  by_cases hstack : goal ∈ stack
  · rw [within, if_pos hstack]
    exact .cycle hstack
  by_cases hdeep : goal.isFormula ∧ setting.maxDepth ≤ stack.nesting
  · rw [within, if_neg hstack, if_pos hdeep]
    exact .deep hstack hdeep
  · rw [within, if_neg hstack, if_neg hdeep]
    exact .opened hstack hdeep h

/-- A plan that is run on a stack finds it unchanged whenever it asks for something, if every goal that it asks
    for leaves it so. -/
theorem threads_plan {α : Type} {plan : Plan α}
    (h : ∀ asked, plan.MayAsk asked →
      setting.Enters stack asked 0.0 ((setting.plan asked).program .give) (setting.pursue stack asked) stack) :
    setting.Threads stack (plan.program .give) ((plan.program .give).outcome setting stack) stack := by
  induction plan with
  | done value => exact .give
  | ask goal rest ih =>
      rw [Plan.program, Program.outcome]
      refine .pursue (h goal (.inl rfl)) ?_
      cases (setting.pursue stack goal).result with
      | ok answer => exact ih answer fun asked hasked => h asked (.inr ⟨answer, trivial, hasked⟩)
      | error error => exact .give

theorem enters_pursue (stack : Stack) (goal : Goal) :
    setting.Enters stack goal 0.0 ((setting.plan goal).program .give) (setting.pursue stack goal) stack := by
  induction stack, goal using pursuit_induction setting with
  | cycle stack goal hstack =>
      rw [pursue_of_mem hstack]
      exact .cycle hstack
  | deep stack goal hstack hdeep =>
      rw [pursue_of_deep hstack hdeep]
      exact .deep hstack hdeep
  | opened stack goal hstack hdeep ih =>
      rw [pursue_eq_within, ← Program.outcome_program_give]
      exact enters_within (threads_plan ih)

theorem threads_outcome {α : Type} (program : Program α) :
    setting.Threads stack program (program.outcome setting stack) stack := by
  induction program generalizing stack with
  | give result => exact .give
  | look next ih => exact .look (ih stack)
  | pursue goal next ih => exact .pursue (enters_pursue stack goal) (ih _)
  | within goal onCycle inside next inside_ih ih => exact .within (enters_within inside_ih) (ih _)

/-- Handing on the stack and knowing the place are the same. -/
theorem threads_iff {α : Type} {program : Program α} {outcome : Outcome α} {after : Stack} :
    setting.Threads stack program outcome after ↔ outcome = program.outcome setting stack ∧ after = stack := by
  constructor
  · exact Threads.sound
  · rintro ⟨rfl, rfl⟩
    exact threads_outcome program

theorem threads_program_iff {α : Type} {plan : Plan α} {outcome : Outcome α} {after : Stack} :
    setting.Threads stack (plan.program .give) outcome after ↔
      outcome = setting.run stack plan ∧ after = stack := by
  rw [threads_iff, Program.outcome_program_give]

/-- Programs that work on the same stack do not get in each other's way. -/
theorem threadsAll_iff {α : Type} {programs : List (Program α)} {outcomes : List (Outcome α)} {after : Stack} :
    setting.ThreadsAll stack programs outcomes after ↔
      List.Forall₂ (fun program outcome => setting.Threads stack program outcome stack) programs outcomes ∧
        after = stack := by
  constructor
  · intro h
    induction h with
    | nil => exact ⟨.nil, rfl⟩
    | cons first rest ih =>
        obtain rfl := first.sound.2
        exact ⟨.cons first ih.1, ih.2⟩
  · rintro ⟨h, rfl⟩
    induction h with
    | nil => exact .nil
    | cons first rest ih => exact .cons first ih

end Setting

end CarbonSurvey
