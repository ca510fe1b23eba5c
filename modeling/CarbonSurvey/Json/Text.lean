import CarbonSurvey.Json.Reader

/-! # Reading quoted texts

Characters stand for themselves, and escapes for one character each. Two escapes of surrogates make
one character together; a surrogate alone is refused.
-/

namespace CarbonSurvey.Json.Reader

def hexValue? (c : Char) : Option Nat :=
  if '0' ≤ c ∧ c ≤ '9' then some (c.toNat - '0'.toNat)
  else if 'a' ≤ c ∧ c ≤ 'f' then some (c.toNat - 'a'.toNat + 10)
  else if 'A' ≤ c ∧ c ≤ 'F' then some (c.toNat - 'A'.toNat + 10)
  else none

def hexUnit? (a b c d : Char) : Option Nat := do
  let a ← hexValue? a
  let b ← hexValue? b
  let c ← hexValue? c
  let d ← hexValue? d
  return 4096 * a + 256 * b + 16 * c + d

/-- The four digits of an escape. They are taken as four bytes before they are looked at. -/
def hexUnit : Reader Nat :=
  fun rest =>
    let fault : Except Fault (Nat × List Char) :=
      if Text.byteLength rest < 4 then failNext .endInText []
      else .error ⟨.invalidEscape, rest, 4, false⟩
    match rest with
    | a :: b :: c :: d :: after =>
      match hexUnit? a b c d with
      | some unit => .ok (unit, after)
      | none => fault
    | _ => fault

def isLowSurrogate (unit : Nat) : Bool :=
  0xDC00 ≤ unit && unit ≤ 0xDFFF

def isHighSurrogate (unit : Nat) : Bool :=
  0xD800 ≤ unit && unit ≤ 0xDBFF

/-- One character that has to come next. -/
def escapeMark (mark : Char) : Reader Unit :=
  fun rest =>
    match rest with
    | [] => failNext .endInText []
    | c :: rest => if c = mark then .ok ((), rest) else failNext .hexEscapeCut (c :: rest)

/-- The character of an escape by code, after its `u`. -/
def unicodeEscape : Reader Char := do
  let unit ← hexUnit
  if isLowSurrogate unit then
    failHere .loneSurrogate
  else if isHighSurrogate unit then
    escapeMark '\\'
    escapeMark 'u'
    let low ← hexUnit
    if isLowSurrogate low then
      return .ofNat (0x10000 + (unit - 0xD800) * 0x400 + (low - 0xDC00))
    else
      failHere .loneSurrogate
  else
    return .ofNat unit

/-- What an escape by letter stands for. -/
def escapeLetter? : Char → Option Char
  | '"' => some '"'
  | '\\' => some '\\'
  | '/' => some '/'
  | 'b' => some '\x08'
  | 'f' => some '\x0C'
  | 'n' => some '\n'
  | 'r' => some '\r'
  | 't' => some '\t'
  | _ => none

/-- The character of an escape, after its backslash. -/
def escape : Reader Char :=
  fun rest =>
    match rest with
    | [] => failNext .endInText []
    | c :: after =>
      if c = 'u' then
        unicodeEscape after
      else
        match escapeLetter? c with
        | some letter => .ok (letter, after)
        | none => failNext .invalidEscape rest

/-- The characters up to the closing quote. Each takes a character of the text at least, so the text
    itself bounds how many there are. -/
def quotedChars : List Char → Reader (List Char)
  | [] => failNext .endInText
  | _ :: bound => fun rest =>
    match rest with
    | [] => failNext .endInText []
    | c :: after =>
      if c = '"' then
        .ok ([], after)
      else if c = '\\' then
        (do let letter ← escape; let letters ← quotedChars bound; return letter :: letters) after
      else if c.toNat < 0x20 then
        failNext .controlCharacter rest
      else
        (do let letters ← quotedChars bound; return c :: letters) after

/-- A text after its opening quote. -/
def quoted : Reader String :=
  fun rest => (String.ofList <$> quotedChars rest) rest

end CarbonSurvey.Json.Reader
