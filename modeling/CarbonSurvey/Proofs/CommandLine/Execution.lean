import CarbonSurvey.Proofs.CommandLine.Documents
import CarbonSurvey.Proofs.Document.Model
import CarbonSurvey.Proofs.Report.Values

/-! # How commands end

What a command prints once its documents are loaded is a matter of running it (`execute_run`,
`execute_inspect_of_some`), so it succeeds exactly if they are sound and the rule it is to show is there
(`succeeds_iff`). That it is all or nothing, and that its first failure decides, it has from its course
(`execute_all_or_nothing`).
-/

namespace CarbonSurvey.CommandLine

variable {files : Files}

namespace Command

/-- The situation that values are asked for, or why nothing comes of it. -/
def answers (files : Files) : Option String → Except Failure Situation
  | some path => Source.content files ⟨.situation, path⟩
  | none => .ok ∅

/-- A rule that is to be shown is in its model. -/
def Answerable (files : Files) : Command → Prop
  | .inspect path name => ∃ (model : Model) (entry : Entry),
      Source.content files ⟨.model, path⟩ = .ok model ∧ model[name]? = some entry
  | _ => True

variable {path name : String} {model : Model} {situation : Option String} {given : Situation}

theorem execute_run (known : Source.content files ⟨.model, path⟩ = .ok model)
    (answered : answers files situation = .ok given) (names : List String) (raw : Bool) :
    (Command.run path names situation raw).execute files =
      ⟨0, if raw then Report.rawValues ((values model given names).map Prod.snd)
        else Report.results (values model given names), ""⟩ := by
  rw [execute, script, attempt, @run_concluded_load_of_ok _ ⟨.model, path⟩ _ known]
  cases situation with
  | none =>
      cases answered
      exact congrArg Transcript.exit (run_concluded_print ..)
  | some path =>
      rw [loadSituation, @run_concluded_load_of_ok _ ⟨.situation, path⟩ _ answered, run_concluded_print]
      rfl

theorem execute_inspect_of_some {entry : Entry} (known : Source.content files ⟨.model, path⟩ = .ok model)
    (found : model[name]? = some entry) :
    (Command.inspect path name).execute files = ⟨0, Report.entry name entry, ""⟩ := by
  rw [execute, script, attempt, @run_concluded_load_of_ok _ ⟨.model, path⟩ _ known]
  simp only [found, run_concluded_print]
  rfl

theorem execute_inspect_of_none (known : Source.content files ⟨.model, path⟩ = .ok model)
    (missing : model[name]? = none) :
    (Command.inspect path name).execute files = ⟨1, "", "Error: Rule '" ++ name ++ "' not found\n"⟩ := by
  rw [execute, script, attempt, @run_concluded_load_of_ok _ ⟨.model, path⟩ _ known]
  simp only [missing, run_concluded_complain]
  rfl

theorem exists_answers {names : List String} {raw : Bool}
    (sound : ∀ source ∈ (Command.run path names situation raw).sources, source.Sound files) :
    ∃ (model : Model) (given : Situation), Source.content files ⟨.model, path⟩ = .ok model ∧
      answers files situation = .ok given := by
  obtain ⟨⟨model, known⟩, others⟩ := List.forall_mem_cons.1 sound
  cases situation with
  | none => exact ⟨model, ∅, known, rfl⟩
  | some path =>
      obtain ⟨given, answered⟩ := others ⟨.situation, path⟩ (.head _)
      exact ⟨model, given, known, answered⟩

/-- A command succeeds exactly if each of its documents is sound and it shows no rule that is missing. -/
theorem succeeds_iff (files : Files) (command : Command) :
    (command.execute files).code = 0 ↔
      (∀ source ∈ command.sources, source.Sound files) ∧ command.Answerable files := by
  constructor
  · intro succeeds
    have sound := command.course_attempt.sound_of_succeeds succeeds
    refine ⟨sound, ?_⟩
    cases command with
    | inspect path name =>
        obtain ⟨model, known⟩ := sound _ (.head _)
        cases found : (model : Model)[name]? with
        | some entry => exact ⟨model, entry, known, found⟩
        | none =>
            rw [execute_inspect_of_none known found] at succeeds
            exact absurd succeeds Nat.one_ne_zero
    | run | list | stats => trivial
  · rintro ⟨sound, answerable⟩
    cases command with
    | run path names situation raw =>
        obtain ⟨model, given, known, answered⟩ := exists_answers sound
        rw [execute_run known answered]
    | inspect path name =>
        obtain ⟨model, entry, known, found⟩ := answerable
        rw [execute_inspect_of_some known found]
    | list path start =>
        obtain ⟨model, known⟩ := sound _ (.head _)
        rw [execute, script, attempt, run_concluded_load_of_ok known, run_concluded_print]
        rfl
    | stats path situations catalogue raw =>
        obtain ⟨model, known⟩ := sound _ (.head _)
        obtain ⟨poll, polled⟩ := sound _ (.tail _ (.head _))
        obtain ⟨facts, listed⟩ := sound _ (.tail _ (.tail _ (.head _)))
        rw [execute, script, attempt, run_concluded_load_of_ok known, run_concluded_load_of_ok polled,
          run_concluded_load_of_ok listed, run_concluded_print]
        rfl

/-- Raw values are printed one a line, in the order of their names. -/
theorem lines_execute_run (known : Source.content files ⟨.model, path⟩ = .ok model)
    (answered : answers files situation = .ok given) (names : List String) :
    Text.lines ((Command.run path names situation true).execute files).output.toList =
      names.map fun name =>
        (Decimal.plain (Setting.evaluate ⟨model, given, limits.maxResolutionDepth⟩ name)).toList ++ ['\n'] := by
  rw [execute_run known answered, if_pos rfl, Report.lines_rawValues]
  simp only [values, List.map_map, Function.comp_def]

theorem execute_run_singleton (known : Source.content files ⟨.model, path⟩ = .ok model)
    (answered : answers files situation = .ok given) (name : String) :
    (Command.run path [name] situation true).execute files =
      ⟨0, Decimal.plain (Setting.evaluate ⟨model, given, limits.maxResolutionDepth⟩ name) ++ "\n", ""⟩ := by
  rw [execute_run known answered, if_pos rfl]
  simp [values, Report.rawValues, String.join_cons]

variable {command : Command} {before after : List Source} {source : Source} {failure : Failure}

theorem run_of_fails (split : command.sources = before ++ source :: after)
    (sound : ∀ earlier ∈ before, earlier.Sound files) (fails : source.content files = .error failure) :
    command.script.run files =
      ⟨(before ++ [source]).map Source.path, "", failure.message ++ "\n", .error 1⟩ := by
  have course := command.course_attempt
  rw [split] at course
  exact course.run_of_fails sound fails

/-- What is known of files that are not read is of no account. -/
theorem run_of_agree {others : Files} (split : command.sources = before ++ source :: after)
    (sound : ∀ earlier ∈ before, earlier.Sound files) (fails : source.content files = .error failure)
    (agree : ∀ known ∈ before ++ [source], others known.path = files known.path) :
    command.script.run others = command.script.run files := by
  apply Script.run_congr
  rw [run_of_fails split sound fails]
  exact List.forall_mem_map.2 agree

end Command

theorem script_of_accepted {arguments : List String} {command : Command}
    (accepted : Request.parse? arguments = some (.command command)) : script arguments = command.script := by
  rw [script, accepted]

/-- A command line that asks for a command succeeds and complains of nothing, or it ends with one, prints
    nothing and complains. It succeeds if each of its documents can be read and decoded, unless it is to show a
    rule that the model does not have, of which it complains. The first document that fails is reported and no
    file is read after it, so the end is the same whatever is known of other files. Raw values are one a line
    in the order in which their names are given, and each is the one that its name has alone. -/
theorem execute_all_or_nothing {arguments : List String} {command : Command}
    (accepted : Request.parse? arguments = some (.command command)) (files : Files) :
    let ending := execute files arguments
    (ending.code = 0 ∧ ending.complaint = "" ∨
      ending.code = 1 ∧ ending.output = "" ∧ ending.complaint ≠ "") ∧
    (ending.code = 0 ↔ (∀ source ∈ command.sources, source.Sound files) ∧ command.Answerable files) ∧
    (∀ path name (model : Model), command = .inspect path name →
      Source.content files ⟨.model, path⟩ = .ok model → model[name]? = none →
        ending = ⟨1, "", "Error: Rule '" ++ name ++ "' not found\n"⟩) ∧
    (∀ before source after failure, command.sources = before ++ source :: after →
      (∀ earlier ∈ before, earlier.Sound files) → source.content files = .error failure →
        ending = ⟨1, "", failure.message ++ "\n"⟩ ∧
        ((script arguments).run files).asked = (before ++ [source]).map Source.path ∧
        ∀ others : Files, (∀ known ∈ before ++ [source], others known.path = files known.path) →
          execute others arguments = ending) ∧
    ∀ path names situation, command = .run path names situation true → ending.code = 0 →
      ∃ (model : Model) (given : Situation), Source.content files ⟨.model, path⟩ = .ok model ∧
        Command.answers files situation = .ok given ∧
        let value name := Setting.evaluate ⟨model, given, limits.maxResolutionDepth⟩ name
        Text.lines ending.output.toList =
          names.map (fun name => (Decimal.plain (value name)).toList ++ ['\n']) ∧
        ∀ name, (Command.run path [name] situation true).execute files =
          ⟨0, Decimal.plain (value name) ++ "\n", ""⟩ := by
  intro ending
  have asks := script_of_accepted accepted
  have same : ending = command.execute files := congrArg (fun script => (script.run files).exit) asks
  refine ⟨?_, ?_, ?_, ?_, ?_⟩
  · rw [same]
    exact command.course_attempt.all_or_nothing files
  · rw [same]
    exact command.succeeds_iff files
  · intro path name model isInspect known missing
    subst isInspect
    rw [same]
    exact Command.execute_inspect_of_none known missing
  · intro before source after failure split sound fails
    -- the files of the documents up to the first that fails are all that is read
    have run := Command.run_of_fails split sound fails
    refine ⟨?_, ?_, ?_⟩
    · rw [same, Command.execute, run]
      rfl
    · rw [asks, run]
    · intro others agree
      have unread := Command.run_of_agree split sound fails agree
      rw [same, execute, asks, unread, Command.execute]
  · intro path names situation isRun succeeds
    subst isRun
    rw [same, Command.succeeds_iff] at succeeds
    obtain ⟨model, given, known, answered⟩ := Command.exists_answers succeeds.1
    refine ⟨model, given, known, answered, ?_, ?_⟩
    · rw [same]
      exact Command.lines_execute_run known answered names
    · exact Command.execute_run_singleton known answered

/-- A pot of tea is what its cup is. -/
def teas : String := "\x7b\"pot\":\x7b\"formule\":\x7b\"somme\":[\"cup\"]\x7d\x7d,\"cup\":5\x7d"

def teaModel : Model :=
  .ofRows [("pot", .rule ⟨none, none, some (.expression (.sum ["cup"]))⟩), ("cup", .bare (some (.ofInt 5)))]

theorem read_teas : Model.read limits ⟨"teas.json", teas⟩ = .ok teaModel := by
  have parsed : (Json.Reader.value Json.Reader.maxNesting).readWhole teas.toList = .ok (.object
      [("pot", .object [("formule", .object [("somme", .list [.text "cup"])])]), ("cup", .number (.whole 5))]) := by
    simp only [teas, String.reduceToList]
    rfl
  have pot : Entry.ofJson (.object [("formule", .object [("somme", .list [.text "cup"])])]) =
      .ok (.rule ⟨none, none, some (.expression (.sum ["cup"]))⟩) := by cbv
  have cup : Entry.ofJson (.number (.whole 5)) = .ok (.bare (some (.ofInt 5))) := rfl
  refine (@Model.read_object_iff limits ⟨"teas.json", teas⟩ _ _ parsed (by decide +kernel)).2 ⟨_, ?_, rfl⟩
  simp only [List.mapM_cons, Json.Reader.readRow, Entry.ofJson?, pot, cup]
  rfl

/-- There are teas, and a poll that is no text. -/
def cupboard : Files
  | "teas.json" => .ok teas.toUTF8
  | "poll.json" => .ok ⟨#[0xff]⟩
  | _ => .error noSuchFile

/-- There are facts besides. -/
def fullCupboard : Files
  | "facts.json" => .ok "[]".toUTF8
  | path => cupboard path

def polling : List String :=
  ["stats", "teas.json", "-rc", "facts.json", "--situations=poll.json"]

def tasting : List String :=
  ["run", "--raw", "teas.json", "pot", "milk", "pot"]

theorem content_teas : Source.content cupboard ⟨.model, "teas.json"⟩ = .ok teaModel := by
  have stored : cupboard "teas.json" = .ok teas.toUTF8 := rfl
  rw [@Source.content_of_text _ ⟨.model, "teas.json"⟩ _ stored]
  exact congrArg (Except.mapError Failure.refused) read_teas

/-- The poll comes before the facts, so it does not matter whether there is a file of them. A pot that is asked
    for twice is printed twice. -/
theorem cupboard_explored :
    Request.parse? polling = some (.command (.stats "teas.json" "poll.json" "facts.json" true)) ∧
    execute cupboard polling =
      ⟨1, "", "Error: Failed to read poll.json: stream did not contain valid UTF-8\n"⟩ ∧
    execute fullCupboard polling = execute cupboard polling ∧
    Request.parse? tasting = some (.command (.run "teas.json" ["pot", "milk", "pot"] none true)) ∧
    (execute cupboard tasting).code = 0 ∧
    Text.lines (execute cupboard tasting).output.toList = [['5', '\n'], ['0', '\n'], ['5', '\n']] := by
  have polls : Request.parse? polling = some (.command (.stats "teas.json" "poll.json" "facts.json" true)) := by
    decide +kernel
  have tastes : Request.parse? tasting = some (.command (.run "teas.json" ["pot", "milk", "pot"] none true)) := by
    decide +kernel
  have sound : Source.Sound cupboard ⟨.model, "teas.json"⟩ := ⟨teaModel, content_teas⟩
  obtain ⟨-, -, -, fails, -⟩ := execute_all_or_nothing polls cupboard
  obtain ⟨reported, -, unread⟩ := fails [⟨.model, "teas.json"⟩] ⟨.poll, "poll.json"⟩ [⟨.catalogue, "facts.json"⟩]
    (.unreadable "poll.json" notText) rfl (List.forall_mem_singleton.2 sound) rfl
  obtain ⟨-, succeeds, -, -, raw⟩ := execute_all_or_nothing tastes cupboard
  have succeeded := succeeds.2 ⟨List.forall_mem_singleton.2 sound, trivial⟩
  obtain ⟨model, given, decoded, answered, lines, -⟩ := raw _ _ _ rfl succeeded
  refine ⟨polls, reported, unread fullCupboard ?_, tastes, succeeded, ?_⟩
  · exact List.forall_mem_cons.2 ⟨rfl, List.forall_mem_singleton.2 rfl⟩
  · cases content_teas.symm.trans decoded
    cases answered
    rw [lines]
    decide +kernel

end CarbonSurvey.CommandLine
