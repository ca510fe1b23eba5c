import CarbonSurvey.Text.Position

/-! # Errors

What can go wrong: a document that cannot be decoded, a reference that depends on itself, and a
limit that is exceeded.
-/

namespace CarbonSurvey

/-- A text with the name of the place it came from. -/
structure Document where
  source : String
  text : String
  deriving Repr, DecidableEq

/-- What a document is meant to hold. -/
inductive DocumentKind where
  | registry
  | situation
  | catalogue
  deriving Repr, DecidableEq

def DocumentKind.name : DocumentKind → String
  | .registry => "Registry"
  | .situation => "Situation"
  | .catalogue => "Catalogue"

/-- What is wrong in a document, and where. -/
structure Details where
  message : String
  position : Text.Position
  document : Document
  deriving Repr, DecidableEq

/-- The byte that a position means. Columns are counted from one here, so the byte just before the
    column is the one that is marked. -/
def Details.offset (details : Details) : Nat :=
  Text.indexIn (Text.lines details.document.text.toList) details.position.line
    details.position.column

inductive Error where
  | document (kind : DocumentKind) (details : Details)
  | circularReference (path : String)
  | limitExceeded (limit allowed actual suggestion : String)
  deriving Repr, DecidableEq

namespace Error

def details? : Error → Option Details
  | .document _ details => some details
  | _ => none

/-- `source:line:column`. -/
def place (details : Details) : String :=
  details.document.source ++ ":" ++ toString details.position.line ++ ":" ++
    toString details.position.column

/-- The error in one line. -/
def message : Error → String
  | .document kind details => kind.name ++ " error: " ++ details.message ++ " at " ++ place details
  | .circularReference path => "Circular reference: " ++ path
  | .limitExceeded limit allowed actual suggestion =>
    "Resource limit exceeded: " ++ limit ++ " (limit: " ++ allowed ++ ", actual: " ++ actual ++
      "). " ++ suggestion

/-- A document has more bytes than allowed. -/
def tooLarge (limit : String) (allowed actual : Nat) : Error :=
  .limitExceeded limit (toString allowed ++ " bytes") (toString actual ++ " bytes")
    ("Reduce the input to " ++ toString allowed ++ " bytes or less")

/-- Formulas nest deeper than allowed when a name is resolved. -/
def tooDeep (name : String) (allowed actual : Nat) : Error :=
  .limitExceeded "max_resolution_depth" (toString allowed) (toString actual)
    ("Resolving '" ++ name ++ "' nests too deeply; flatten the model or raise the limit")

end Error

end CarbonSurvey
