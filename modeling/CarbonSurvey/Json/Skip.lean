import CarbonSurvey.Json.Collection

/-! # Skipping values

A value that nobody wants is skipped without being understood: numbers may have any size, brackets
may nest to any depth, and surrogates need no partner. The spelling still has to be right.
-/

namespace CarbonSurvey.Json.Reader

/-- An escape after its backslash. -/
def skipEscape : Reader Unit :=
  fun rest =>
    match rest with
    | [] => failNext .endInText []
    | c :: after =>
      if c = 'u' then
        (do let _ ← hexUnit; return ()) after
      else if (escapeLetter? c).isSome then
        .ok ((), after)
      else
        failNext .invalidEscape rest

/-- The rest of a text and its closing quote. -/
def skipQuoted : List Char → Reader Unit
  | [] => failNext .endInText
  | _ :: bound => fun rest =>
    match rest with
    | [] => failNext .endInText []
    | c :: after =>
      if c = '"' then .ok ((), after)
      else if c = '\\' then (do skipEscape; skipQuoted bound) after
      else if c.toNat < 0x20 then failHere .controlCharacter rest
      else skipQuoted bound after

def skipText : Reader Unit :=
  fun rest => skipQuoted rest rest

def skipDigits : Reader Unit :=
  fun rest => .ok ((), rest.dropWhile Char.isDigit)

/-- One digit at least, and all that follow it. -/
def skipSomeDigits : Reader Unit :=
  fun rest =>
    if rest.head?.any Char.isDigit then skipDigits rest else failNext .invalidNumber rest

def skipWholeDigits : Reader Unit :=
  fun rest =>
    match rest with
    | '0' :: after =>
      if after.head?.any Char.isDigit then failNext .invalidNumber after else .ok ((), after)
    | _ => skipSomeDigits rest

def skipFraction : Reader Unit :=
  fun rest =>
    match rest with
    | '.' :: after => skipSomeDigits after
    | _ => .ok ((), rest)

def skipExponent : Reader Unit :=
  fun rest =>
    match rest with
    | c :: after =>
      if c = 'e' ∨ c = 'E' then
        match after with
        | '+' :: digits => skipSomeDigits digits
        | '-' :: digits => skipSomeDigits digits
        | digits => skipSomeDigits digits
      else
        .ok ((), rest)
    | [] => .ok ((), [])

/-- A number after its minus sign, if it has one. -/
def skipNumber : Reader Unit := do
  skipWholeDigits
  skipFraction
  skipExponent

inductive Bracket where
  | list
  | object
  deriving Repr, DecidableEq

namespace Bracket

def closing : Bracket → Char
  | .list => ']'
  | .object => '\x7d'

def endOfText : Bracket → Cause
  | .list => .endInList
  | .object => .endInObject

def commaOrEnd : Bracket → Cause
  | .list => .expectedListCommaOrEnd
  | .object => .expectedObjectCommaOrEnd

end Bracket

/-- A value without parts, or the bracket that opens one with parts. -/
def skipToken : Reader (Option Bracket) := do
  match ← upcoming with
  | none => failNext .endInValue
  | some c =>
    if c = '[' then
      advance
      return some .list
    else if c = '\x7b' then
      advance
      return some .object
    else if c = 'n' then
      advance
      word ['u', 'l', 'l']
      return none
    else if c = 't' then
      advance
      word ['r', 'u', 'e']
      return none
    else if c = 'f' then
      advance
      word ['a', 'l', 's', 'e']
      return none
    else if c = '-' then
      advance
      skipNumber
      return none
    else if c.isDigit then
      skipNumber
      return none
    else if c = '"' then
      advance
      skipText
      return none
    else
      failNext .expectedValue

/-- What comes before a value: in an object its key, in a list nothing. -/
def skipKey : Bracket → Reader Unit
  | .list => return ()
  | .object => do
    match ← upcoming with
    | some '"' =>
      advance
      skipText
      colon
    | some _ => failNext .keyMustBeText
    | none => failNext .endInObject

/-- After a value: closes brackets until a comma asks for another value. The brackets still open
    come back, innermost first; if there are none, all has been skipped. -/
def skipClosings : List Bracket → Reader (List Bracket)
  | [] => return []
  | bracket :: outer => do
    match ← upcoming with
    | none => failNext bracket.endOfText
    | some c =>
      if c = ',' then
        advance
        skipKey bracket
        return bracket :: outer
      else if c = bracket.closing then
        advance
        skipClosings outer
      else
        failNext bracket.commaOrEnd

/-- After an opening bracket: its first value is asked for, unless it closes at once. -/
def skipOpening (bracket : Bracket) (outer : List Bracket) : Reader (List Bracket) := do
  match ← upcoming with
  | none => failNext bracket.endOfText
  | some c =>
    if c = bracket.closing then
      advance
      skipClosings outer
    else
      skipKey bracket
      return bracket :: outer

/-- Skips values until no bracket is open. Each takes a character at least, so the text itself bounds
    how many there are. -/
def skipValues : List Char → List Bracket → Reader Unit
  | [], _ => failNext .endInValue
  | _ :: bound, outer => do
    match ← skipToken with
    | some bracket =>
      let remaining ← skipOpening bracket outer
      if remaining = [] then return () else skipValues bound remaining
    | none =>
      let remaining ← skipClosings outer
      if remaining = [] then return () else skipValues bound remaining

def skipValue : Reader Unit :=
  fun rest => skipValues rest [] rest

end CarbonSurvey.Json.Reader
