import PipeAssist.Text.Basic
import PipeAssist.Text.EmojiTable
import PipeAssist.Text.LigatureTable

/-!
# Characters that are drawn together

A character can take another number of columns beside others than on its own: emoji are joined and
coloured, variation selectors choose the emoji or the text form of a character, regional indicators
make flags, and letters form ligatures. A text is measured from its end, so that each character is
seen before what follows it. `Onset` says what the following characters begin with, as far as it
matters to the character before them, and `Following.precede` gives the columns that one more
character in front adds.
-/

set_option autoImplicit false

namespace PipeAssist.Text

/-- What a text begins with. -/
inductive Onset where
  /-- Nothing that another character could combine with. -/
  | plain
  | lineFeed
  /-- An Arabic alef, which takes no room behind a lam. -/
  | alef
  /-- A Hebrew lamed, which takes no room behind an alef and a joiner. -/
  | lamed
  /-- A Khmer letter, which takes no room behind a coeng sign. -/
  | coengLetter
  /-- A Buginese ya. -/
  | ya
  /-- A Buginese vowel sign i, joined to a ya. -/
  | vowelYa
  /-- A Tifinagh consonant. -/
  | consonant
  /-- The Tifinagh consonant joiner with a consonant behind it. -/
  | joinedConsonant
  /-- One of the last two tone letters of Lisu. -/
  | toneLetter
  /-- The Old Turkic letter Orkhon i. -/
  | orkhonI
  /-- A Kirat Rai vowel sign e. -/
  | vowelE
  /-- A Kirat Rai vowel sign ai. -/
  | vowelAi
  /-- An emoji. -/
  | emoji
  /-- A skin tone. -/
  | skinTone
  /-- One regional indicator. -/
  | regional
  /-- Several regional indicators. -/
  | regionals
  /-- A joiner with an emoji behind it. -/
  | joiner
  /-- A keycap with a joiner and an emoji behind it. -/
  | keycap
  /-- One regional indicator with a joiner and an emoji behind it. -/
  | regionalJoined
  /-- An even number of regional indicators with a joiner and an emoji behind them. -/
  | evenJoined
  /-- An odd number, from three on, of regional indicators with a joiner and an emoji behind them. -/
  | oddJoined
  /-- So many tag letters with the end of the tags, a joiner and an emoji behind them. -/
  | tagLetters (count : Nat)
  /-- So many tag digits in front of such letters. -/
  | tagDigits (count : Nat)
deriving DecidableEq, Repr

/-- Whether an onset belongs to a ligature, in which invisible marks may stand anywhere. -/
def Onset.isLigature : Onset → Bool
  | .lamed => true
  | .coengLetter => true
  | .ya => true
  | .vowelYa => true
  | .consonant => true
  | .joinedConsonant => true
  | .toneLetter => true
  | .orkhonI => true
  | _ => false

/-- Whether an onset is kept when a variation selector comes before it. -/
def Onset.isKept (onset : Onset) : Bool := onset = .alef || onset.isLigature

/-- Whether an onset waits for an emoji in front of a joiner. -/
def Onset.isJoiner (onset : Onset) : Bool := onset = .joiner || onset = .keycap

/-- What a text begins with, whether a joiner stands before it, and the variation selectors before
it. -/
structure Following where
  onset : Onset
  joined : Bool
  emojiSelector : Bool
  textSelector : Bool
  wideSelector : Bool
deriving DecidableEq, Repr

namespace Following

/-- An onset with nothing before it. -/
def of (onset : Onset) : Following := ⟨onset, false, false, false, false⟩

/-- The same, unless the onset is one that a variation selector ends. -/
def keep (next : Following) : Following := if next.onset.isKept then next else of .plain

/-- With the selector of the emoji form in front. -/
def selectEmoji (next : Following) : Following :=
  { (if next.onset.isJoiner then next else next.keep) with emojiSelector := true }

/-- With the selector of the text form in front. -/
def selectText (next : Following) : Following := { next.keep with textSelector := true }

/-- With the selector of the wide form in front. -/
def selectWide (next : Following) : Following := { next.keep with wideSelector := true }

/-- The columns of a character beside nothing that it combines with. -/
def alone (code : Nat) : Int × Following :=
  let width := Int.ofNat (WidthTable.codeWidth code)
  if code = 0xFE0F then (width, (of .plain).selectEmoji)
  else if code = 0xFE0E then (width, (of .plain).selectText)
  else if code = 0xFE01 then (width, (of .plain).selectWide)
  else if EmojiTable.isRegional code then (width, of .regional)
  else if EmojiTable.isSkinTone code then (width, of .skinTone)
  else if EmojiTable.isPicture code then (width, of .emoji)
  else if LigatureTable.isAlef code then (width, of .alef)
  else if code = 0x5DC then (width, of .lamed)
  else if LigatureTable.isCoengLetter code then (width, of .coengLetter)
  else if code = 0x1A10 then (width, of .ya)
  else if LigatureTable.isTifinagh code then (width, of .consonant)
  else if code = 0xA4FC || code = 0xA4FD then (width, of .toneLetter)
  else if code = 0x10C03 then (width, of .orkhonI)
  else if code = 0x16D67 then (width, of .vowelE)
  else if code = 0x16D68 then (width, of .vowelAi)
  else (width, of .plain)

/-- The columns that a character adds in front of the rest of a ligature, if it belongs to it. -/
def ligate? (code : Nat) (onset : Onset) (joined : Bool) : Option (Int × Following) :=
  match onset with
  | .alef =>
    if LigatureTable.isLam code then some (0, of .plain)
    else if LigatureTable.isJoinTransparent code then some (0, of .alef)
    else none
  | .lamed => if joined && code = 0x5D0 then some (0, of .plain) else none
  | .coengLetter => if code = 0x17D2 then some (-1, of .plain) else none
  | .ya => if joined && code = 0x1A17 then some (0, of .vowelYa) else none
  | .vowelYa => if code = 0x1A15 then some (0, of .plain) else none
  | .consonant =>
    if code = 0x2D7F then some (1, of .joinedConsonant)
    else if joined && LigatureTable.isTifinagh code then some (0, of .plain)
    else none
  | .joinedConsonant => if LigatureTable.isTifinagh code then some (-1, of .plain) else none
  | .toneLetter => if 0xA4F8 ≤ code && code ≤ 0xA4FB then some (0, of .plain) else none
  | .orkhonI => if joined && code = 0x10C32 then some (0, of .plain) else none
  | .vowelE =>
    if code = 0x16D63 || code = 0x16D69 then some (0, of .plain)
    else if code = 0x16D67 then some (0, of .vowelAi)
    else if code = 0x16D68 then some (1, of .vowelE)
    else none
  | .vowelAi => if code = 0x16D63 then some (0, of .plain) else none
  | _ => none

/-- The columns that a character adds in front of the rest of an emoji, if it belongs to it. -/
def depict? (code : Nat) (onset : Onset) : Option (Int × Following) :=
  let regional := EmojiTable.isRegional code
  let joiner := code = 0x200D
  match onset with
  | .emoji => if joiner then some (0, of .joiner) else none
  | .skinTone =>
    if EmojiTable.isSkinBase code then some (0, of .emoji)
    else if joiner then some (0, of .joiner)
    else none
  | .regional => if regional then some (1, of .regionals) else none
  | .regionals =>
    if regional then some (1, of .regionals) else if joiner then some (0, of .joiner) else none
  | .joiner =>
    if code = 0x20E3 then some (0, of .keycap)
    else if regional then some (1, of .regionalJoined)
    else if EmojiTable.isSkinTone code then some (0, of .skinTone)
    else if code = 0xE007F then some (0, of (.tagLetters 0))
    else if EmojiTable.isPicture code then some (0, of .emoji)
    else none
  | .regionalJoined => if regional then some (-1, of .evenJoined) else none
  | .oddJoined =>
    if regional then some (-1, of .evenJoined) else if joiner then some (0, of .joiner) else none
  | .evenJoined =>
    if regional then some (3, of .oddJoined) else if joiner then some (0, of .joiner) else none
  | .tagLetters count =>
    if EmojiTable.isTagLetter code && count < 6 then some (0, of (.tagLetters (count + 1)))
    else if EmojiTable.isTagDigit code && count ≤ 4 then some (0, of (.tagDigits 1))
    else if code = 0x1F3F4 && 3 ≤ count then some (0, of .emoji)
    else none
  | .tagDigits count =>
    if EmojiTable.isTagDigit code && count < 3 then some (0, of (.tagDigits (count + 1)))
    else if code = 0x1F3F4 && count = 3 then some (0, of .emoji)
    else none
  | _ => none

/-- The columns that a character beyond the basic Latin block adds when no selector in front of the
following ones concerns it. -/
def combine (code : Nat) (next : Following) : Int × Following :=
  if next.onset.isLigature && code = 0x200D then (0, { next with joined := true })
  else if next.onset.isLigature && LigatureTable.isHiddenMark code then (0, next)
  else
    match ligate? code next.onset next.joined with
    | some combined => combined
    | none => (depict? code next.onset).getD (alone code)

/-- The columns that a character beyond the basic Latin block adds when the selector of the emoji
form does not concern it. -/
def select (code : Nat) (next : Following) : Int × Following :=
  if code = 0xFE0F then (0, next.selectEmoji)
  else if code = 0xFE01 then (0, next.selectWide)
  else if code = 0xFE0E then (0, next.selectText)
  else if next.textSelector && EmojiTable.isNarrowable code then (1, of .plain)
  else
    let next := if next.textSelector then { next.keep with textSelector := false } else next
    if next.wideSelector &&
        (code = 0x2018 || code = 0x2019 || code = 0x201C || code = 0x201D) then (2, of .plain)
    else
      combine code (if next.wideSelector then { next.keep with wideSelector := false } else next)

/-- The columns that a character adds in front of others, and what the text begins with then. -/
def precede (c : Char) (next : Following) : Int × Following :=
  let code := c.toNat
  if next.emojiSelector && EmojiTable.isSelectable code then
    (if next.onset.isJoiner then 0 else 2, of .emoji)
  else
    let next := if next.emojiSelector then { next.keep with emojiSelector := false } else next
    if c = '\n' then (1, of .lineFeed)
    else if c = '\r' && next.onset = .lineFeed then (0, of .plain)
    else if code ≤ 0xA0 then (1, of .plain)
    else select code next

end Following

/-- The columns of a text, and what it begins with. -/
def survey (text : Text) : Int × Following :=
  text.foldr (fun c rest =>
    let (columns, front) := Following.precede c rest.2
    (columns + rest.1, front)) (0, Following.of .plain)

end PipeAssist.Text
