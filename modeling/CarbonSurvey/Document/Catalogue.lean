import CarbonSurvey.Document.Decode
import CarbonSurvey.Json.Decoder
import CarbonSurvey.Json.Skip
import CarbonSurvey.Statistics

/-! # Catalogues as documents

A catalogue is a list of facts. A fact is an object with named fields, in which unknown fields are
skipped, or a list of its fields in their order. Means are taken where no aggregation is given.
-/

namespace CarbonSurvey

open Json

namespace Aggregation

def reader : Reader Aggregation := do
  let named (name : String) : Reader Aggregation :=
    match ofName? name with
    | some aggregation => return aggregation
    | none => Reader.failHere (.unknownVariant name (all.map Aggregation.name))
  match ← Reader.upcoming with
  | none => Reader.failNext .endInValue
  | some '"' =>
    Reader.advance
    named (← Reader.quoted)
  | some '\x7b' =>
    Reader.advance
    unless ← Reader.nextKey true do Reader.failNext .expectedValue
    let aggregation ← named (← Reader.quoted)
    Reader.colon
    Reader.unit
    match ← Reader.upcoming with
    | some '\x7d' =>
      Reader.advance
      return aggregation
    | some _ => Reader.failHere .expectedValue
    | none => Reader.failHere .endInObject
  | some _ => Reader.failNext .expectedValue

end Aggregation

namespace Fact

def kind : String := "struct FunFactDefinition"

/-- The fields of a fact that have been read. -/
structure Fields where
  key : Option String
  dottedName : Option String
  aggregation : Option Aggregation
  deriving Repr, DecidableEq

/-- A field after its name. A field that is already there is refused before its value is read. -/
def field (name : String) (fields : Fields) : Reader Fields := do
  if name = "key" then
    if fields.key.isSome then Reader.refuse (.duplicateField name)
    Reader.colon
    let key ← Reader.text
    return { fields with key := some key }
  else if name = "dottedName" then
    if fields.dottedName.isSome then Reader.refuse (.duplicateField name)
    Reader.colon
    let dottedName ← Reader.text
    return { fields with dottedName := some dottedName }
  else if name = "aggregation" then
    if fields.aggregation.isSome then Reader.refuse (.duplicateField name)
    Reader.colon
    let aggregation ← Aggregation.reader
    return { fields with aggregation := some aggregation }
  else
    Reader.colon
    Reader.skipValue
    return fields

/-- The fields up to the brace. Each takes a character at least, so the text itself bounds how many
    there are. -/
def fields : List Char → Bool → Fields → Reader Fields
  | [], _, _ => Reader.failNext .endInObject
  | _ :: bound, first, found => do
    if ← Reader.nextKey first then
      let name ← Reader.quoted
      let found ← field name found
      fields bound false found
    else
      return found

def ofFields (found : Fields) : Reader Fact :=
  match found.key, found.dottedName with
  | none, _ => Reader.refuse (.missingField "key")
  | some _, none => Reader.refuse (.missingField "dottedName")
  | some key, some dottedName => return ⟨key, dottedName, found.aggregation.getD .mean⟩

/-- A fact after its opening brace. -/
def ofObject : Reader Fact :=
  Reader.enclosed Reader.objectEnd fun rest =>
    (do let found ← fields rest true ⟨none, none, none⟩; ofFields found : Reader Fact) rest

/-- A text that a list of fields cannot do without. -/
def place (first : Bool) (before : Nat) : Reader String := do
  if ← Reader.nextItem first then
    Reader.text
  else
    Reader.refuse (.wrongLength before (kind ++ " with 3 elements"))

/-- A fact after its opening bracket. -/
def ofList : Reader Fact :=
  Reader.enclosed Reader.listEnd do
    let key ← place true 0
    let dottedName ← place false 1
    if ← Reader.nextItem false then
      let aggregation ← Aggregation.reader
      return ⟨key, dottedName, aggregation⟩
    else
      return ⟨key, dottedName, .mean⟩

def reader : Reader Fact := do
  match ← Reader.upcoming with
  | some '\x7b' =>
    Reader.advance
    ofObject
  | some '[' =>
    Reader.advance
    ofList
  | _ => Reader.wrongKind kind

def toJson (fact : Fact) : Json :=
  .object
    [("key", .text fact.key), ("dottedName", .text fact.dottedName),
     ("aggregation", .text fact.aggregation.name)]

end Fact

namespace Catalogue

def toJson (catalogue : Catalogue) : Json :=
  .list (catalogue.map Fact.toJson)

/-- The catalogue as a document. -/
def write (catalogue : Catalogue) : String :=
  catalogue.toJson.compact

def reader : Reader Catalogue :=
  Reader.listOf Fact.reader

/-- Decodes a catalogue. -/
def read (document : Document) : Except Error Catalogue :=
  document.decode .catalogue reader

end Catalogue

end CarbonSurvey
