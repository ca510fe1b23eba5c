import CarbonSurvey.CommandLine.Arguments
import CarbonSurvey.CommandLine.Script
import CarbonSurvey.Document.Catalogue
import CarbonSurvey.Document.Model
import CarbonSurvey.Report.Excerpt
import CarbonSurvey.Report.Summary

/-! # Execution

A command reads its documents one after another and decodes each before it goes on to the next. Once
it has all of them it prints what it makes of them. What goes wrong on the way is reported at the
end, but for a rule that is not there, of which the command itself complains.
-/

namespace CarbonSurvey.CommandLine

/-- Why a file that is not there cannot be read. -/
def noSuchFile : String := "No such file or directory (os error 2)"

/-- Why a file that is no text cannot be read. -/
def notText : String := "stream did not contain valid UTF-8"

inductive Failure where
  | unreadable (path reason : String)
  | refused (error : Error)

def Failure.message : Failure → String
  | .unreadable path reason => "Error: Failed to read " ++ path ++ ": " ++ reason
  | .refused error => Report.error error

/-- Complains of a failure and ends the program. -/
def Failure.report (failure : Failure) : Script Unit :=
  .complain (failure.message ++ "\n") (.exit 1)

/-- A script that may fail before it comes to its value. -/
abbrev Attempt := ExceptT Failure Script

namespace Attempt

def print (text : String) : Attempt Unit :=
  ExceptT.lift (.print text (.done ()))

def complain (text : String) : Attempt Unit :=
  ExceptT.lift (.complain text (.done ()))

def exit (code : Nat) : Attempt Unit :=
  ExceptT.lift (.exit code)

/-- Carries out an attempt to its end, where a failure is reported. -/
def concluded (attempt : Attempt Unit) : Script Unit := do
  match ← attempt.run with
  | .ok () => return
  | .error failure => failure.report

end Attempt

/-- The document that a file holds, if it can be read and is a text. -/
def document (path : String) : Except String ByteArray → Except Failure Document
  | .error reason => .error (.unreadable path reason)
  | .ok bytes =>
    match String.fromUTF8? bytes with
    | some text => .ok ⟨path, text⟩
    | none => .error (.unreadable path notText)

def readFile (path : String) : Attempt Document :=
  ExceptT.mk (.read path fun content => .done (document path content))

/-- What a file is read as. -/
inductive Role where
  | model
  | situation
  | poll
  | catalogue
  deriving Repr, DecidableEq

def limits : Limits := {}

namespace Role

abbrev Content : Role → Type
  | .model => Model
  | .situation => Situation
  | .poll => List Situation
  | .catalogue => Catalogue

def decode : (role : Role) → Document → Except Error role.Content
  | .model => Model.read limits
  | .situation => Situation.read limits
  | .poll => Situation.readMany limits
  | .catalogue => Catalogue.read

end Role

/-- Reads a file and decodes it. -/
def load (role : Role) (path : String) : Attempt role.Content := do
  let document ← readFile path
  ExceptT.mk (.done ((role.decode document).mapError .refused))

namespace Command

/-- The situation of a file, or one without answers. -/
def loadSituation : Option String → Attempt Situation
  | some path => load .situation path
  | none => return ∅

def values (model : Model) (situation : Situation) (names : List String) : List (String × Float) :=
  names.map fun name => (name, Setting.evaluate ⟨model, situation, limits.maxResolutionDepth⟩ name)

def startsWith (start : Option String) (name : String) : Bool :=
  match start with
  | some start => start.toList.isPrefixOf name.toList
  | none => true

/-- What a command does, up to the report of a failure. -/
def attempt : Command → Attempt Unit
  | .run model names situation raw => do
    let model ← load .model model
    let situation ← loadSituation situation
    let rows := values model situation names
    Attempt.print (if raw then Report.rawValues (rows.map Prod.snd) else Report.results rows)
  | .inspect model name => do
    let model ← load .model model
    match model[name]? with
    | some entry => Attempt.print (Report.entry name entry)
    | none =>
      Attempt.complain ("Error: Rule '" ++ name ++ "' not found\n")
      Attempt.exit 1
  | .list model start => do
    let model ← load .model model
    Attempt.print (Report.listing model (model.names.filter (startsWith start)))
  | .stats model situations catalogue raw => do
    let model ← load .model model
    let situations ← load .poll situations
    let catalogue ← load .catalogue catalogue
    let statistics := Statistics.compute model limits.maxResolutionDepth catalogue situations
    Attempt.print (if raw then statistics.toJson.spread ++ "\n" else Report.statistics statistics)

def script (command : Command) : Script Unit :=
  command.attempt.concluded

def execute (files : Files) (command : Command) : Exit :=
  (command.script.run files).exit

end Command

def versionLine : String := "footprint 0.3.1\n"

def usage : String := "Usage: footprint <run|show|list|stats> <MODEL> [NAMES]... [OPTIONS]\n"

/-- What the program does with a command line, other than to help with it: requests for help are left out and
    end like any command line that cannot be used. -/
def script (arguments : List String) : Script Unit :=
  match Request.parse? arguments with
  | some .version => .print versionLine (.done ())
  | some (.command command) => command.script
  | none => .complain usage (.exit 2)

/-- Carries out a command line. -/
def execute (files : Files) (arguments : List String) : Exit :=
  ((script arguments).run files).exit

end CarbonSurvey.CommandLine
