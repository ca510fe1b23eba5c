import CarbonSurvey.CommandLine.Execution

/-! # The documents of a command

An attempt to load a document comes to what is in its file and does nothing else (`run_load`), so a command goes
on with that (`run_concluded_load_of_ok`) or has only its report to make (`run_concluded_load_of_error`). Commands
load their documents one after another and write nothing before they have all of them (`Command.course_attempt`).
From this alone they succeed without a complaint or fail without output (`Course.all_or_nothing`), and the first
document that fails says how they end (`Course.run_of_fails`).
-/

namespace CarbonSurvey.CommandLine

/-- A file, and what it is read as. -/
structure Source where
  role : Role
  path : String

namespace Source

/-- What is in the file of a source, or why nothing comes of it. -/
def content (files : Files) (source : Source) : Except Failure source.role.Content :=
  (document source.path (files source.path)).bind fun document =>
    (source.role.decode document).mapError .refused

/-- The content of a file that is a text. -/
theorem content_of_text {files : Files} {source : Source} {text : String}
    (h : files source.path = .ok text.toUTF8) :
    source.content files = (source.role.decode ⟨source.path, text⟩).mapError .refused := by
  have decoded : String.fromUTF8? text.toUTF8 = some text := dif_pos text.isValidUTF8
  rw [content, h, document, decoded]
  rfl

/-- The file of a source can be read and decoded. -/
def Sound (files : Files) (source : Source) : Prop :=
  ∃ content, source.content files = .ok content

end Source

/-! ## Steps of an attempt -/

theorem Failure.run_report (files : Files) (failure : Failure) :
    failure.report.run files = ⟨[], "", failure.message ++ "\n", .error 1⟩ := by
  simp [report, Script.run]

theorem Attempt.run_concluded_bind {α : Type} (files : Files) (attempt : Attempt α) (next : α → Attempt Unit) :
    (attempt >>= next).concluded.run files = (attempt.run.run files).bind fun
      | .ok value => (next value).concluded.run files
      | .error failure => failure.report.run files := by
  simp only [concluded, ExceptT.run_bind, Script.run_bind, Transcript.bind_assoc]
  congr 1
  funext result
  cases result with
  | ok value => rfl
  -- a failure passes over what comes next and is reported by whoever carries out the attempt
  | error failure => exact Transcript.ok_bind ..

theorem run_load (files : Files) (source : Source) :
    (load source.role source.path).run.run files = ⟨[source.path], "", "", .ok (source.content files)⟩ := by
  rw [load, ExceptT.run_bind, Script.run_bind]
  change Transcript.bind ⟨[source.path], "", "", .ok (document source.path (files source.path))⟩ _ = _
  rw [Transcript.asked_bind, Source.content]
  cases document source.path (files source.path) <;> rfl

variable {files : Files} {source : Source}

theorem run_concluded_load_of_ok {content : source.role.Content} (h : source.content files = .ok content)
    (next : source.role.Content → Attempt Unit) :
    let later := (next content).concluded.run files
    (load source.role source.path >>= next).concluded.run files =
      { later with asked := source.path :: later.asked } := by
  rw [Attempt.run_concluded_bind, run_load, Transcript.asked_bind, h]

theorem run_concluded_load_of_error {failure : Failure} (h : source.content files = .error failure)
    (next : source.role.Content → Attempt Unit) :
    (load source.role source.path >>= next).concluded.run files =
      ⟨[source.path], "", failure.message ++ "\n", .error 1⟩ := by
  rw [Attempt.run_concluded_bind, run_load, Transcript.asked_bind, h]
  simp only [Failure.run_report]

theorem run_concluded_print (files : Files) (text : String) :
    (Attempt.print text).concluded.run files = ⟨[], text, "", .ok ()⟩ := by
  change (Script.print text (.done ())).run files = _
  simp [Script.run, Transcript.ok]

theorem run_concluded_complain (files : Files) (text : String) :
    (do Attempt.complain text; Attempt.exit 1 : Attempt Unit).concluded.run files = ⟨[], "", text, .error 1⟩ := by
  change (Script.complain text (.exit 1)).run files = _
  simp [Script.run]

/-! ## Courses -/

/-- An attempt takes the course of its documents: it loads them one after another, and what it makes of them it
    only prints, or it complains and ends the program. -/
inductive Course : List Source → Attempt Unit → Prop where
  | prints (text : String) : Course [] (Attempt.print text)
  | complains {text : String} (h : text ≠ "") : Course [] (do Attempt.complain text; Attempt.exit 1)
  | loads (source : Source) {rest : List Source} {next : source.role.Content → Attempt Unit}
      (h : ∀ content, Course rest (next content)) :
      Course (source :: rest) (load source.role source.path >>= next)

namespace Course

variable {attempt : Attempt Unit} {sources : List Source}

/-- A course succeeds without a complaint, or it fails without output. -/
theorem all_or_nothing (course : Course sources attempt) (files : Files) :
    let ending := (attempt.concluded.run files).exit
    ending.code = 0 ∧ ending.complaint = "" ∨
      ending.code = 1 ∧ ending.output = "" ∧ ending.complaint ≠ "" := by
  induction course with
  | prints text =>
      rw [run_concluded_print]
      exact .inl ⟨rfl, rfl⟩
  | complains h =>
      rw [run_concluded_complain]
      exact .inr ⟨rfl, rfl, h⟩
  | loads source h ih =>
      cases found : source.content files with
      | ok content =>
          rw [run_concluded_load_of_ok found]
          exact ih content
      | error failure =>
          rw [run_concluded_load_of_error found]
          exact .inr ⟨rfl, rfl, by simp [Transcript.exit]⟩

/-- Only a course whose documents are all sound succeeds. -/
theorem sound_of_succeeds (course : Course sources attempt)
    (succeeds : (attempt.concluded.run files).exit.code = 0) : ∀ source ∈ sources, source.Sound files := by
  induction course with
  | prints | complains => exact List.forall_mem_nil _
  | loads source h ih =>
      cases found : source.content files with
      | ok content =>
          rw [run_concluded_load_of_ok found] at succeeds
          exact List.forall_mem_cons.2 ⟨⟨content, found⟩, ih content succeeds⟩
      | error failure =>
          rw [run_concluded_load_of_error found] at succeeds
          exact absurd succeeds Nat.one_ne_zero

/-- The first document that fails ends a course with its report. -/
theorem run_of_fails {before after : List Source} {failure : Failure}
    (course : Course (before ++ source :: after) attempt) (sound : ∀ earlier ∈ before, earlier.Sound files)
    (fails : source.content files = .error failure) :
    attempt.concluded.run files =
      ⟨(before ++ [source]).map Source.path, "", failure.message ++ "\n", .error 1⟩ := by
  induction before generalizing attempt with
  | nil =>
      cases course with
      | loads _ h => exact run_concluded_load_of_error fails _
  | cons earlier before ih =>
      obtain ⟨⟨content, found⟩, others⟩ := List.forall_mem_cons.1 sound
      cases course with
      | loads _ h =>
          rw [run_concluded_load_of_ok found, ih (h content) others]
          rfl

end Course

namespace Command

/-- The documents of a command, in the order in which they count. -/
def sources : Command → List Source
  | .run model _ situation _ => ⟨.model, model⟩ :: situation.toList.map (Source.mk .situation)
  | .inspect model _ => [⟨.model, model⟩]
  | .list model _ => [⟨.model, model⟩]
  | .stats model situations catalogue _ => [⟨.model, model⟩, ⟨.poll, situations⟩, ⟨.catalogue, catalogue⟩]

theorem course_attempt (command : Command) : Course command.sources command.attempt := by
  cases command with
  | run model names situation raw =>
      refine .loads ⟨.model, model⟩ fun model => ?_
      cases situation with
      | none => exact .prints _
      | some path => exact .loads ⟨.situation, path⟩ fun situation => .prints _
  | inspect model name =>
      refine .loads ⟨.model, model⟩ fun (model : Model) => ?_
      cases found : model[name]? with
      | some entry => exact .prints _
      | none => exact .complains (by simp)
  | list model start => exact .loads ⟨.model, model⟩ fun model => .prints _
  | stats model situations catalogue raw =>
      exact .loads ⟨.model, model⟩ fun model => .loads ⟨.poll, situations⟩ fun situations =>
        .loads ⟨.catalogue, catalogue⟩ fun catalogue => .prints _

end Command

end CarbonSurvey.CommandLine
