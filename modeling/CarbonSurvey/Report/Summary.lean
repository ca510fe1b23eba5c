import CarbonSurvey.Report.Table
import CarbonSurvey.Model
import CarbonSurvey.Statistics

/-! # Summaries

What is printed about values, rules, models and statistics.
-/

namespace CarbonSurvey.Report

def nameColumn : Column := ⟨.left, "Dotted-name"⟩
def formulaColumn : Column := ⟨.left, "Formula"⟩
def factColumn : Column := ⟨.left, "Fact"⟩
def valueColumn : Column := ⟨.right, "Value"⟩

/-- Values one a line. -/
def rawValues (values : List Float) : String :=
  String.join (values.map fun value => Decimal.plain value ++ "\n")

/-- Names with their values. -/
def results (rows : List (String × Float)) : String :=
  titled [nameColumn, valueColumn] (rows.map fun (name, value) => [name, Decimal.plain value])

/-- The lines of the cases of a formula. The last one is the end of the branch. -/
def caseLines : Cases → List String
  | .done => []
  | .otherwise branch => ["└─ otherwise " ++ branch.shown]
  | .clause premise branch rest =>
    let mark := if rest matches .done then "└─" else "├─"
    (mark ++ " if " ++ premise.shown ++ " then " ++ branch.shown) :: caseLines rest

def formulaLines : Formula → List String
  | .expression (.variations cases) => "formula: variations" :: caseLines cases
  | formula => ["formula: " ++ formula.shown]

def ruleLines (rule : Rule) : List String :=
  (rule.applicableIf.map fun premise => "applicable if: " ++ premise.shown).toList ++
    (rule.default.map fun default => "default: " ++ default.shown).toList ++
      (rule.formula.map formulaLines).getD []

def entryContent : Entry → String
  | .rule rule => String.join ((ruleLines rule).map (· ++ "\n"))
  | .bare (some value) => Decimal.plain value
  | .bare none => "no value"

/-- An entry under its name. A rule that says nothing leaves only the name. -/
def entry (name : String) (entry : Entry) : String :=
  let content := Text.trimEnd (entryContent entry).toList
  untitled (name :: if content = [] then [] else [.ofList content])

/-- One word for what an entry is. -/
def entryKind : Entry → String
  | .rule rule =>
    match rule.formula with
    | some (.constant _) => "constant"
    | some (.expression body) => body.kind
    | none => "question"
  | .bare _ => "constant"

/-- Some names of a model with what they are. -/
def listing (model : Model) (names : List String) : String :=
  "Model contains " ++ toString model.size ++ " rules\n\n" ++
    titled [nameColumn, formulaColumn]
      (names.map fun name => [name, (model[name]?.map entryKind).getD ""])

def statistics (statistics : Statistics) : String :=
  "Computed over " ++ toString statistics.participants ++ " participants\n\n" ++
    titled [factColumn, valueColumn]
      (statistics.values.toList.map fun (key, value) => [key, Decimal.plain value])

end CarbonSurvey.Report
