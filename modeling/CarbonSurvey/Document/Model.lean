import CarbonSurvey.Document.Decode
import CarbonSurvey.Evaluation.Event
import CarbonSurvey.Json.Decoder
import CarbonSurvey.Limits
import CarbonSurvey.Model

/-! # Models as documents

A model is an object from names to entries. Keys have a French and an English spelling. A shape that
is not understood never makes a model unreadable; only a rule that has both spellings of one of its
fields is refused.
-/

namespace CarbonSurvey

open Json

/-- A key with its two spellings. -/
structure Key where
  french : String
  english : String
  deriving Repr, DecidableEq

namespace Key

def applicableIf : Key := ⟨"applicable si", "applicableIf"⟩
def default : Key := ⟨"par défaut", "defaultValue"⟩
def formula : Key := ⟨"formule", "formula"⟩
def variations : Key := ⟨"variations", "variations"⟩
def average : Key := ⟨"moyenne", "average"⟩
def sum : Key := ⟨"somme", "sum"⟩
def anyOf : Key := ⟨"une de ces conditions", "anyOf"⟩
def allOf : Key := ⟨"toutes ces conditions", "allOf"⟩
def premise : Key := ⟨"si", "if"⟩
def branch : Key := ⟨"alors", "then"⟩
def otherwise : Key := ⟨"sinon", "otherwise"⟩

/-- The member under either spelling, the French one first. -/
def find? (key : Key) (members : List (String × Json)) : Option Json :=
  match lookup? key.french members with
  | some found => some found
  | none => lookup? key.english members

end Key

/-- What a missing or empty branch gives. -/
def Branch.nothing : Branch :=
  .number (0.0 / 0.0)

def Proviso.ofJson : Json → Proviso
  | .text source => .text source
  | _ => .malformed

/-- Where a list is wanted, a single value is a list of one. -/
def itemsOf : Json → List Json
  | .list items => items
  | value => [value]

/-- A reference that is no text refers to nothing. -/
def referenceOf : Json → String
  | .text name => name
  | _ => ""

theorem sizeOf_of_lookup? {name : String} {members : List (String × Json)} {value : Json}
    (h : lookup? name members = some value) : sizeOf value + 3 ≤ sizeOf members := by
  induction members with
  | nil => cases h
  | cons member rest ih =>
    obtain ⟨key, found⟩ := member
    simp only [lookup?] at h
    simp only [List.cons.sizeOf_spec, Prod.mk.sizeOf_spec]
    split at h
    · next hrest =>
      cases h
      have := ih hrest
      omega
    · split at h
      · cases h
        have : 0 < sizeOf rest := by cases rest <;> simp +arith
        omega
      · cases h

theorem Key.sizeOf_of_find? {key : Key} {members : List (String × Json)} {value : Json}
    (h : key.find? members = some value) : sizeOf value + 3 ≤ sizeOf members := by
  unfold Key.find? at h
  split at h
  · next hfrench =>
    cases h
    exact sizeOf_of_lookup? hfrench
  · exact sizeOf_of_lookup? h

theorem sizeOf_itemsOf (value : Json) : sizeOf (itemsOf value) ≤ sizeOf value + 2 := by
  unfold itemsOf
  split <;> simp +arith

theorem sizeOf_tail_lt (item : Json) (rest : List Json) : 2 * sizeOf rest < 2 * sizeOf (item :: rest) := by
  rw [List.cons.sizeOf_spec]
  omega

theorem sizeOf_items_lt {members : List (String × Json)} {found : Json}
    (h : sizeOf found + 3 ≤ sizeOf members) :
    2 * sizeOf (itemsOf found) < 2 * sizeOf (Json.object members) := by
  have := sizeOf_itemsOf found
  rw [Json.object.sizeOf_spec]
  omega

theorem sizeOf_branch_lt {members : List (String × Json)} {branch : Json}
    (h : sizeOf branch + 3 ≤ sizeOf members) (rest : List Json) :
    2 * sizeOf branch + 1 < 2 * sizeOf (Json.object members :: rest) := by
  rw [List.cons.sizeOf_spec, Json.object.sizeOf_spec]
  omega

/-- The shapes other than variations, tried in this order. -/
def Expression.ofMembers (members : List (String × Json)) : Expression :=
  match Key.average.find? members, Key.sum.find? members, Key.anyOf.find? members,
    Key.allOf.find? members with
  | some references, _, _, _ => .average ((itemsOf references).map referenceOf)
  | none, some references, _, _ => .sum ((itemsOf references).map referenceOf)
  | none, none, some provisos, _ => .anyOf ((itemsOf provisos).map Proviso.ofJson)
  | none, none, none, some provisos => .allOf ((itemsOf provisos).map Proviso.ofJson)
  | none, none, none, none => .unsupported

mutual

def Expression.ofJson : Json → Expression
  | .object members =>
    match _h : Key.variations.find? members with
    | some found =>
      .variations (Cases.ofItems none (itemsOf found))
    | none => .ofMembers members
  | _ => .unsupported
termination_by value => 2 * sizeOf value
decreasing_by exact sizeOf_items_lt (Key.sizeOf_of_find? _h)

/-- The clauses among some items, and the first fallback among them. -/
def Cases.ofItems (fallback : Option Branch) : List Json → Cases
  | [] =>
    match fallback with
    | some branch => .otherwise branch
    | none => .done
  | .object members :: rest =>
    match Key.premise.find? members with
    | some premise =>
      match _h : Key.branch.find? members with
      | some branch =>
        .clause (.ofJson premise) (Branch.ofJson branch) (Cases.ofItems fallback rest)
      | none => .clause (.ofJson premise) .nothing (Cases.ofItems fallback rest)
    | none =>
      match _h : Key.otherwise.find? members with
      | some branch =>
        Cases.ofItems (fallback.or (some (Branch.ofJson branch))) rest
      | none => Cases.ofItems fallback rest
  | _ :: rest => Cases.ofItems fallback rest
termination_by items => 2 * sizeOf items
decreasing_by
  · exact sizeOf_branch_lt (Key.sizeOf_of_find? _h) rest
  · exact sizeOf_tail_lt _ rest
  · exact sizeOf_tail_lt _ rest
  · exact sizeOf_branch_lt (Key.sizeOf_of_find? _h) rest
  · exact sizeOf_tail_lt _ rest
  · exact sizeOf_tail_lt _ rest
  · exact sizeOf_tail_lt _ rest

def Branch.ofJson : Json → Branch
  | .number value => .number value.toFloat
  | .text value => .text value
  | .null => .nothing
  | value => .formula (Expression.ofJson value)
termination_by value => 2 * sizeOf value + 1
decreasing_by exact Nat.lt_succ_self _

end

def Formula.ofJson : Json → Formula
  | .number value => .constant value.toFloat
  | value => .expression (.ofJson value)

def Default.ofJson? : Json → Option Default
  | .number value => some (.number value.toFloat)
  | .text name => some (.reference name)
  | _ => none

namespace Rule

/-- The first field that has both spellings. -/
def clash? (members : List (String × Json)) : Option Key :=
  [Key.applicableIf, Key.formula, Key.default].find? fun key =>
    (lookup? key.french members).isSome && (lookup? key.english members).isSome

/-- A field of a rule. One that is null is not there. -/
def field? (key : Key) (members : List (String × Json)) : Option Json :=
  match key.find? members with
  | some .null => none
  | found => found

def ofMembers (members : List (String × Json)) : Rule where
  applicableIf := (field? .applicableIf members).map .ofJson
  default := (field? .default members).bind Default.ofJson?
  formula := (field? .formula members).map .ofJson

end Rule

def Entry.ofJson : Json → Except Cause Entry
  | .object members =>
    match Rule.clash? members with
    | some key => .error (.duplicateField key.french)
    | none => .ok (.rule (.ofMembers members))
  | .number value => .ok (.bare (some value.toFloat))
  | _ => .ok (.bare none)

namespace Model

/-- One entry, which must not have a field twice. -/
def entryReader (room : Nat) : Reader Entry := do
  match Entry.ofJson (← Reader.value room) with
  | .ok entry => return entry
  | .error cause => Reader.refuse cause

def reader : Reader Model := do
  let rows ← Reader.objectOf (entryReader (Reader.maxNesting - 1))
  return NameTable.ofRows rows

/-- Decodes a model. -/
def read (limits : Limits) (document : Document) : Except Error Model := do
  document.checkSize "max_model_bytes" limits.maxModelBytes
  document.decode .registry reader

/-- Decodes a model and puts its source and its number of entries on record. What is refused leaves no record. -/
def load (limits : Limits) (document : Document) : Except Error (Model × List Event) := do
  let model ← read limits document
  return (model, [.loaded document.source model.size])

end Model

end CarbonSurvey
