import Blueprint.Text.EmojiTable
import Blueprint.Text.Ligature

/-!
# Emoji sequences

An emoji may be written with several characters: a skin tone behind a person, two letters for a
flag, a black flag with a region in tags, or emoji that a joiner holds together. The emoji that
is written takes two columns. A sequence is followed from its end.
-/
namespace Blueprint.Text

def isSkinTone (c : Char) : Bool := decide (0x1F3FB ≤ c.toNat) && decide (c.toNat ≤ 0x1F3FF)

/-- A letter of which two make a flag. -/
def isIndicator (c : Char) : Bool := decide (0x1F1E6 ≤ c.toNat) && decide (c.toNat ≤ 0x1F1FF)

def isTagLetter (c : Char) : Bool := decide (0xE0061 ≤ c.toNat) && decide (c.toNat ≤ 0xE007A)

def isTagDigit (c : Char) : Bool := decide (0xE0030 ≤ c.toNat) && decide (c.toNat ≤ 0xE0039)

def keycap : Char := '\u20E3'

/-- The tag that ends a region. -/
def tagEnd : Char := Char.ofNat 0xE007F

/-- The flag in front of a region. -/
def blackFlag : Char := Char.ofNat 0x1F3F4

/-- What stands behind a character when it may be part of an emoji. -/
inductive EmojiTail where
  | emoji
  | skinTone
  | indicator
  /-- Two indicators or more. -/
  | indicators
  /-- A joiner and an emoji. -/
  | joined
  /-- A keycap in front of a joiner. -/
  | joinedKeycap
  /-- One indicator in front of a joiner. -/
  | joinedIndicator
  /-- Whole flags in front of a joiner. -/
  | joinedFlags
  /-- Whole flags in front of a joiner, and one indicator in front of these. -/
  | indicatorAndFlags
  /-- The end of a region in front of a joiner, with so many letters. -/
  | joinedLetters (count : Nat)
  /-- The end of a region in front of a joiner, beginning with so many digits. -/
  | joinedDigits (count : Nat)
  deriving DecidableEq

namespace EmojiTail

/-- The whole region of a flag: three letters or more, or three digits. -/
def isRegion : EmojiTail → Bool
  | joinedLetters count => decide (3 ≤ count)
  | joinedDigits count => decide (count = 3)
  | _ => false

/-- A joiner in front can tie another emoji to this one. -/
def takesJoiner : EmojiTail → Bool
  | emoji | skinTone | indicators | joinedFlags | indicatorAndFlags => true
  | _ => false

/-- What a character adds in front of an emoji, and what stands there then. -/
def extend (tail : EmojiTail) (c : Char) : Option (Int × EmojiTail) :=
  if c = joiner then if tail.takesJoiner then some (0, joined) else none
  else if c = blackFlag ∧ tail.isRegion then some (0, emoji)
  else
    match tail with
    | skinTone => if modifiableRanges.contains c.toNat then some (0, emoji) else none
    | indicator | indicators => if isIndicator c then some (1, indicators) else none
    | joined =>
      if c = keycap then some (0, joinedKeycap)
      else if isIndicator c then some (1, joinedIndicator)
      else if isSkinTone c then some (0, skinTone)
      else if c = tagEnd then some (0, joinedLetters 0)
      else if emojiRanges.contains c.toNat then some (0, emoji)
      else none
    | joinedIndicator | indicatorAndFlags => if isIndicator c then some (-1, joinedFlags) else none
    | joinedFlags => if isIndicator c then some (3, indicatorAndFlags) else none
    | joinedLetters count =>
      if isTagLetter c ∧ count < 6 then some (0, joinedLetters (count + 1))
      else if isTagDigit c ∧ count < 5 then some (0, joinedDigits 1)
      else none
    | joinedDigits count =>
      if isTagDigit c ∧ count < 3 then some (0, joinedDigits (count + 1)) else none
    | emoji | joinedKeycap => none

end EmojiTail

end Blueprint.Text
