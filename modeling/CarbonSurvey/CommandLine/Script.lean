/-! # Scripts

A script says step by step what a program does: it reads files, writes to its output and to its
complaints, and comes to a value or ends the program on the spot. What the files hold is left to
whoever runs it.
-/

namespace CarbonSurvey.CommandLine

/-- What is known of the files: their bytes, or why they cannot be read. -/
abbrev Files := String → Except String ByteArray

inductive Script (α : Type) where
  | done (value : α)
  /-- Ends the program with a code. -/
  | exit (code : Nat)
  | read (path : String) (next : Except String ByteArray → Script α)
  | print (text : String) (next : Script α)
  | complain (text : String) (next : Script α)

/-- What a run of a script did. -/
structure Transcript (α : Type) where
  /-- The paths of the files that were read, one after another. -/
  asked : List String
  output : String
  complaint : String
  /-- The value it came to, or the code with which it ended the program. -/
  ending : Except Nat α

/-- How a program ends. -/
structure Exit where
  code : Nat
  output : String
  complaint : String
  deriving Repr, DecidableEq

namespace Transcript

variable {α β : Type}

/-- Nothing but a value. -/
def ok (value : α) : Transcript α :=
  ⟨[], "", "", .ok value⟩

def bind (transcript : Transcript α) (next : α → Transcript β) : Transcript β :=
  match transcript.ending with
  | .ok value =>
    let later := next value
    ⟨transcript.asked ++ later.asked, transcript.output ++ later.output,
      transcript.complaint ++ later.complaint, later.ending⟩
  | .error code => ⟨transcript.asked, transcript.output, transcript.complaint, .error code⟩

/-- How the program has ended. One that comes to the end of its script is a success. -/
def exit (transcript : Transcript Unit) : Exit where
  code :=
    match transcript.ending with
    | .ok () => 0
    | .error code => code
  output := transcript.output
  complaint := transcript.complaint

@[simp]
theorem ok_bind (value : α) (next : α → Transcript β) : (ok value).bind next = next value := by
  simp [ok, bind]

/-- What comes after a file has been read. -/
theorem asked_bind (path : String) (value : α) (next : α → Transcript β) :
    bind ⟨[path], "", "", .ok value⟩ next =
      { next value with asked := path :: (next value).asked } := by
  simp [bind]

theorem bind_assoc {γ : Type} (transcript : Transcript α) (f : α → Transcript β)
    (g : β → Transcript γ) :
    (transcript.bind f).bind g = transcript.bind fun value => (f value).bind g := by
  obtain ⟨asked, output, complaint, ending⟩ := transcript
  cases ending with
  | error code => rfl
  | ok value =>
      simp only [bind]
      cases (f value).ending <;> simp only [List.append_assoc, String.append_assoc]

end Transcript

namespace Script

variable {α β : Type}

def bind : Script α → (α → Script β) → Script β
  | .done value, next => next value
  | .exit code, _ => .exit code
  | .read path inner, next => .read path fun content => (inner content).bind next
  | .print text inner, next => .print text (inner.bind next)
  | .complain text inner, next => .complain text (inner.bind next)

instance : Monad Script where
  pure := .done
  bind := bind

/-- Runs a script on some files. -/
def run (files : Files) : Script α → Transcript α
  | .done value => .ok value
  | .exit code => ⟨[], "", "", .error code⟩
  | .read path next =>
    let later := (next (files path)).run files
    { later with asked := path :: later.asked }
  | .print text next =>
    let later := next.run files
    { later with output := text ++ later.output }
  | .complain text next =>
    let later := next.run files
    { later with complaint := text ++ later.complaint }

theorem run_bind (files : Files) (script : Script α) (next : α → Script β) :
    (script >>= next).run files = (script.run files).bind fun value => (next value).run files := by
  change (script.bind next).run files = _
  induction script with
  | done value => simp only [bind, run, Transcript.ok_bind]
  | exit code => rfl
  | read path inner ih =>
      simp only [bind, run, ih, Transcript.bind]
      cases ((inner (files path)).run files).ending <;> rfl
  | print text inner ih | complain text inner ih =>
      simp only [bind, run, ih, Transcript.bind]
      cases (inner.run files).ending <;> simp only [String.append_assoc]

/-- A run depends on no file but those that it reads. -/
theorem run_congr {files others : Files} (script : Script α)
    (same : ∀ path ∈ (script.run files).asked, others path = files path) :
    script.run others = script.run files := by
  induction script with
  | done value => rfl
  | exit code => rfl
  | read path next ih =>
      obtain ⟨here, later⟩ := List.forall_mem_cons.1 same
      simp only [run, here, ih _ later]
  | print text next ih => simp only [run, ih same]
  | complain text next ih => simp only [run, ih same]

end Script

end CarbonSurvey.CommandLine
