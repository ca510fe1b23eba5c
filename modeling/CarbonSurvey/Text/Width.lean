import CarbonSurvey.Text.Cells
import CarbonSurvey.Text.Emoji

/-! # Width of a text

How many cells a text takes on a terminal. That is the sum over its characters, but for those that
are drawn as one: emoji with their selectors, skin tones, joiners and tags, and the ligatures of
some scripts. A text is measured from its end, because a character is drawn by what follows it.
-/

namespace CarbonSurvey.Text

/-- A selector chooses a form of the character before it. -/
inductive Selector where
  | text
  | emoji
  | fullwidth
  deriving Repr, DecidableEq

def Selector.ofChar? (c : Char) : Option Selector :=
  if c = '\uFE0E' then some .text
  else if c = '\uFE0F' then some .emoji
  else if c = '\uFE01' then some .fullwidth
  else none

/-- What follows a character, as far as it can be drawn together with it. The letters are told apart
by the ligature they are the end of; `joined` says that a joiner comes before the letter. -/
inductive Tail where
  | other
  | emoji
  | tone
  | flagLetter
  | flagLetters
  /-- A joiner before an emoji. -/
  | joiner
  /-- A keycap before a joiner and an emoji. -/
  | keycapJoiner
  /-- One flag letter before a joiner and an emoji, then pairs of them, then a pair too few. -/
  | joinedLetter
  | joinedPairs
  | joinedOdd
  /-- The end of a flag's tags before a joiner and an emoji, with the letters or the digits met so
      far. -/
  | joinedTags (letters digits : Nat)
  | alef
  | lamed (joined : Bool)
  | buginese (joined : Bool)
  | bugineseVowel
  | tifinagh (joined : Bool)
  | tifinaghJoiner
  | lisuTone
  | turkic (joined : Bool)
  | khmer
  | kiratE
  | kiratAi
  deriving Repr, DecidableEq

namespace Tail

/-- Whether marks may stand between a letter and the one before it in a ligature. -/
def seesThroughMarks : Tail → Bool
  | .lamed _ | .buginese _ | .bugineseVowel | .tifinagh _ | .tifinaghJoiner | .lisuTone | .turkic _
  | .khmer => true
  | _ => false

/-- Whether the tail is the end of a ligature, which a selector leaves as it is. -/
def isLigature (tail : Tail) : Bool :=
  tail.seesThroughMarks || tail = .alef

/-- Whether the tail joins an emoji before it to the one after. -/
def joinsEmoji : Tail → Bool
  | .joiner | .keycapJoiner => true
  | _ => false

/-- The tail with a joiner before it. -/
def withJoiner : Tail → Tail
  | .lamed _ => .lamed true
  | .buginese _ => .buginese true
  | .tifinagh _ => .tifinagh true
  | .turkic _ => .turkic true
  | tail => tail

end Tail

/-- The marks that ligatures other than the Arabic ones do not mind. -/
def ligatureMarks : Ranges :=
  [(0x34F, 0x34F), (0x17B4, 0x17B5), (0x180B, 0x180D), (0x180F, 0x180F), (0xFE00, 0xFE0F),
   (0xE0100, 0xE01EF)]

/-- The code points without a cell that Arabic letters do not join across. -/
def joiningBarriers : Ranges :=
  [(0x605, 0x605), (0x890, 0x891), (0x8E2, 0x8E2), (0x9BE, 0x9BE), (0x9D7, 0x9D7), (0xB3E, 0xB3E),
   (0xB57, 0xB57), (0xBBE, 0xBBE), (0xBD7, 0xBD7), (0xCC0, 0xCC0), (0xCC2, 0xCC2), (0xCC7, 0xCC8),
   (0xCCA, 0xCCB), (0xCD5, 0xCD6), (0xD3E, 0xD3E), (0xD4E, 0xD4E), (0xD57, 0xD57), (0xDCF, 0xDCF),
   (0xDDF, 0xDDF), (0x1160, 0x11FF), (0x1715, 0x1715), (0x1734, 0x1734), (0x180E, 0x180E),
   (0x1B35, 0x1B35), (0x1B3B, 0x1B3B), (0x1B3D, 0x1B3D), (0x1B43, 0x1B44), (0x1BAA, 0x1BAA),
   (0x1BF2, 0x1BF3), (0x200C, 0x200D), (0x2065, 0x2069), (0x302E, 0x302F), (0x3164, 0x3164),
   (0xA8FA, 0xA8FA), (0xA953, 0xA953), (0xA9C0, 0xA9C0), (0xD7B0, 0xD7C6), (0xD7CB, 0xD7FB),
   (0xFFA0, 0xFFA0), (0xFFF0, 0xFFF8), (0x111C0, 0x111C0), (0x111C2, 0x111C3), (0x11235, 0x11235),
   (0x1133E, 0x1133E), (0x1134D, 0x1134D), (0x11357, 0x11357), (0x113B8, 0x113B8),
   (0x113C2, 0x113C2), (0x113C5, 0x113C5), (0x113C7, 0x113C9), (0x113CF, 0x113CF),
   (0x113D1, 0x113D1), (0x114B0, 0x114B0), (0x114BD, 0x114BD), (0x115AF, 0x115AF),
   (0x116B6, 0x116B6), (0x11930, 0x11930), (0x1193D, 0x1193D), (0x1193F, 0x1193F),
   (0x11941, 0x11941), (0x11A84, 0x11A89), (0x11D46, 0x11D46), (0x11F02, 0x11F02),
   (0x11F41, 0x11F41), (0x16FF0, 0x16FF1), (0x1D165, 0x1D166), (0x1D16D, 0x1D172),
   (0x1D250, 0x1D252), (0xE0000, 0xE0000), (0xE0002, 0xE001F), (0xE0080, 0xE00FF),
   (0xE01F0, 0xE0FFF)]

/-- Whether Arabic letters join across a character. -/
def isJoiningTransparent (c : Char) : Bool :=
  cells .eighteenth c = 0 && !joiningBarriers.contains c

/-- The forms of the letter alef. -/
def alefRanges : Ranges :=
  [(0x622, 0x623), (0x625, 0x625), (0x627, 0x627), (0x671, 0x673), (0x675, 0x675), (0x773, 0x774),
   (0x870, 0x882)]

/-- The forms of the letter lam. -/
def lamRanges : Ranges :=
  [(0x644, 0x644), (0x6B5, 0x6B8), (0x76A, 0x76A), (0x8A6, 0x8A6), (0x8C7, 0x8C7)]

/-- The Khmer letters that are written below the letter before them after the sign at `U+17D2`. -/
def khmerRanges : Ranges :=
  [(0x1780, 0x1782), (0x1784, 0x1787), (0x1789, 0x178C), (0x178E, 0x1793), (0x1795, 0x1798),
   (0x179B, 0x179D), (0x17A0, 0x17A0), (0x17A2, 0x17A2), (0x17A7, 0x17A7), (0x17AB, 0x17AC),
   (0x17AF, 0x17AF)]

def tifinaghRanges : Ranges :=
  [(0x2D31, 0x2D65), (0x2D6F, 0x2D6F)]

/-- What a character is to the one before it, when it stands by itself. -/
def Tail.ofChar (c : Char) : Tail :=
  if Emoji.isEmoji c then .emoji
  else if Emoji.isTone c then .tone
  else if Emoji.isFlagLetter c then .flagLetter
  else if alefRanges.contains c then .alef
  else if c = '\u05DC' then .lamed false
  else if c = '\u1A10' then .buginese false
  else if tifinaghRanges.contains c then .tifinagh false
  else if c = '\uA4FC' ∨ c = '\uA4FD' then .lisuTone
  else if c.toNat = 0x10C03 then .turkic false
  else if khmerRanges.contains c then .khmer
  else if c.toNat = 0x16D67 then .kiratE
  else if c.toNat = 0x16D68 then .kiratAi
  else .other

namespace Tail

/-- A tag of a flag that is joined to an emoji. -/
def joinTag? (letters digits : Nat) (c : Char) : Option Tail :=
  if Emoji.isTagLetter c ∧ digits = 0 ∧ letters < 6 then some (.joinedTags (letters + 1) 0)
  else if Emoji.isTagDigit c ∧ digits = 0 ∧ letters < 5 then some (.joinedTags letters 1)
  else if Emoji.isTagDigit c ∧ 0 < digits ∧ digits < 3 then some (.joinedTags letters (digits + 1))
  else if c = Emoji.blackFlag ∧ (digits = 3 ∨ digits = 0 ∧ 3 ≤ letters) then some .emoji
  else none

/-- An emoji before a joiner and an emoji, or the end of a longer one. It takes no cells of its
own, apart from flag letters. -/
def joinEmoji? (c : Char) : Option (Int × Tail) :=
  if c = Emoji.keycap then some (0, .keycapJoiner)
  else if Emoji.isFlagLetter c then some (1, .joinedLetter)
  else if Emoji.isTone c then some (0, .tone)
  else if c = Emoji.tagEnd then some (0, .joinedTags 0 0)
  else if Emoji.isEmoji c then some (0, .emoji)
  else none

/-- The cells that a character adds to a tail it is drawn together with, and the tail that it makes.
A character that is no more than drawn over what is counted already takes cells back. -/
def join? (c : Char) : Tail → Option (Int × Tail)
  | .emoji => if c = Emoji.joiner then some (0, .joiner) else none
  | .tone =>
    if Emoji.takesTone c then some (0, .emoji)
    else if c = Emoji.joiner then some (0, .joiner)
    else none
  | .flagLetter => if Emoji.isFlagLetter c then some (1, .flagLetters) else none
  | .flagLetters =>
    if Emoji.isFlagLetter c then some (1, .flagLetters)
    else if c = Emoji.joiner then some (0, .joiner)
    else none
  | .joiner => joinEmoji? c
  | .joinedLetter => if Emoji.isFlagLetter c then some (-1, .joinedPairs) else none
  | .joinedPairs =>
    if Emoji.isFlagLetter c then some (3, .joinedOdd)
    else if c = Emoji.joiner then some (0, .joiner)
    else none
  | .joinedOdd =>
    if Emoji.isFlagLetter c then some (-1, .joinedPairs)
    else if c = Emoji.joiner then some (0, .joiner)
    else none
  | .joinedTags letters digits => (joinTag? letters digits c).map (0, ·)
  | .alef =>
    if lamRanges.contains c then some (0, .other)
    else if isJoiningTransparent c then some (0, .alef)
    else none
  | .lamed true => if c = 'א' then some (0, .other) else none
  | .buginese true => if c = 'ᨗ' then some (0, .bugineseVowel) else none
  | .bugineseVowel => if c = 'ᨕ' then some (0, .other) else none
  | .tifinagh joined =>
    if c = '⵿' then some (1, .tifinaghJoiner)
    else if joined ∧ tifinaghRanges.contains c then some (0, .other)
    else none
  | .tifinaghJoiner => if tifinaghRanges.contains c then some (-1, .other) else none
  | .lisuTone => if 'ꓸ' ≤ c ∧ c ≤ 'ꓻ' then some (0, .other) else none
  | .turkic true => if c.toNat = 0x10C32 then some (0, .other) else none
  | .khmer => if c = '្' then some (-1, .other) else none
  | .kiratE =>
    if c.toNat = 0x16D63 ∨ c.toNat = 0x16D69 then some (0, .other)
    else if c.toNat = 0x16D67 then some (0, .kiratAi)
    else if c.toNat = 0x16D68 then some (1, .kiratE)
    else none
  | .kiratAi => if c.toNat = 0x16D63 then some (0, .other) else none
  | _ => none

/-- The cells of a character before a tail, and the tail that it makes. -/
def precede (c : Char) (tail : Tail) : Int × Tail :=
  if tail.seesThroughMarks ∧ c = Emoji.joiner then (0, tail.withJoiner)
  else if tail.seesThroughMarks ∧ ligatureMarks.contains c then (0, tail)
  else (join? c tail).getD (cells .eighteenth c, ofChar c)

end Tail

/-- What follows a character: the selectors that come next, and what comes then. -/
structure Following where
  /-- A selector for text among them. -/
  text : Bool
  /-- The selector for emoji first of them. -/
  emoji : Bool
  /-- A selector for full width among them. -/
  fullwidth : Bool
  tail : Tail
  deriving Repr, DecidableEq

namespace Following

/-- A tail with no selector before it. -/
def ofTail (tail : Tail) : Following :=
  ⟨false, false, false, tail⟩

def nothing : Following :=
  ofTail .other

/-- A selector before a tail. It cuts off all tails but ligatures, where the selectors for text and
for full width last through others. The one for emoji may come before a joiner as well. -/
def select (selector : Selector) (following : Following) : Following :=
  let kept := if following.tail.isLigature then following else nothing
  match selector with
  | .text => { kept with text := true }
  | .fullwidth => { kept with fullwidth := true }
  | .emoji =>
    if following.tail.joinsEmoji then { ofTail following.tail with emoji := true }
    else { kept with emoji := true }

/-- The cells of a character that has the form a selector asks for, and the tail that it makes. -/
def selected? (c : Char) (following : Following) : Option (Int × Tail) :=
  if following.emoji ∧ Emoji.hasTwoForms c then
    some (if following.tail.joinsEmoji then 0 else 2, .emoji)
  else if following.text ∧ Emoji.hasNarrowForm c then some (1, .other)
  else if following.fullwidth ∧ (c = '‘' ∨ c = '’' ∨ c = '“' ∨ c = '”') then some (2, .other)
  else none

/-- What is left when the selector for emoji does not apply to the character before it. -/
def withoutEmoji (following : Following) : Following :=
  if following.emoji ∧ !following.tail.isLigature then nothing
  else { following with emoji := false }

/-- The cells of a character, given what follows it, and what follows the character before it.
Controls and the characters up to the no-break space take one cell each. -/
def precede (c : Char) (following : Following) : Int × Following :=
  match following.selected? c with
  | some (width, tail) => (width, ofTail tail)
  | none =>
    if c ≤ '\u00A0' then (1, nothing)
    else
      match Selector.ofChar? c with
      | some selector => (0, following.withoutEmoji.select selector)
      | none =>
        let (width, tail) := following.withoutEmoji.tail.precede c
        (width, ofTail tail)

end Following

/-- The cells of a text, and what the text is to a character before it. -/
def measure (text : List Char) : Int × Following :=
  text.foldr (fun c (total, following) =>
    let (width, following) := following.precede c
    (total + width, following)) (0, .nothing)

/-- The cells of a text. -/
def width (text : List Char) : Nat :=
  (measure text).1.toNat

end CarbonSurvey.Text
