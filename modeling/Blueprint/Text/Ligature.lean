import Blueprint.Text.WidthTable

/-!
# Ligatures

In some scripts a character shares a glyph with what stands behind it, so that the two together
take fewer columns than apart. A text is measured from its end, and a ligature therefore starts
with the character that closes it.
-/
namespace Blueprint.Text

/-- What stands behind a character when a ligature may come of it. -/
inductive Ligature where
  /-- An Arabic alef: a lam in front of it joins it. -/
  | alef
  /-- A Hebrew lamed: an alef in front of it joins it by a joiner. -/
  | lamed
  /-- A Buginese ya: a letter with the vowel i joins it by a joiner. -/
  | ya
  /-- The Buginese vowel, joined to a ya. -/
  | vowelAndYa
  /-- A Tifinagh consonant: another consonant joins it by either kind of joiner. -/
  | consonant
  /-- The joiner of Tifinagh and a consonant. -/
  | joinerAndConsonant
  /-- One of the Lisu tones that come second. -/
  | secondTone
  /-- The Old Turkic i of Orkhon: a consonant joins it by a joiner. -/
  | orkhonI
  /-- A Khmer letter with a form to be written below another letter. -/
  | subjoinable
  /-- The Kirat Rai vowel sign e, the second half of other vowel signs. -/
  | signE
  /-- The Kirat Rai vowel sign ai. -/
  | signAi
  deriving DecidableEq

/-- The joiner that makes one glyph of two characters. -/
def joiner : Char := '\u200D'

def alefRanges : CodeRanges :=
  [(0x622, 0x623), (0x625, 0x625), (0x627, 0x627), (0x671, 0x673), (0x675, 0x675),
   (0x773, 0x774), (0x870, 0x882)]

def lamRanges : CodeRanges :=
  [(0x644, 0x644), (0x6B5, 0x6B8), (0x76A, 0x76A), (0x8A6, 0x8A6), (0x8C7, 0x8C7)]

def tifinaghConsonantRanges : CodeRanges := [(0x2D31, 0x2D65), (0x2D6F, 0x2D6F)]

def subjoinableRanges : CodeRanges :=
  [(0x1780, 0x1782), (0x1784, 0x1787), (0x1789, 0x178C), (0x178E, 0x1793), (0x1795, 0x1798),
   (0x179B, 0x179D), (0x17A0, 0x17A0), (0x17A2, 0x17A2), (0x17A7, 0x17A7), (0x17AB, 0x17AC),
   (0x17AF, 0x17AF)]

def isTifinaghConsonant (c : Char) : Bool := tifinaghConsonantRanges.contains c.toNat

/-- Code points without a column that stand inside a ligature and leave it whole. -/
def transparentRanges : CodeRanges :=
  [(0x34F, 0x34F), (0x17B4, 0x17B5), (0x180B, 0x180D), (0x180F, 0x180F), (0x200D, 0x200D),
   (0xFE00, 0xFE0F), (0xE0100, 0xE01EF)]

namespace Ligature

/-- The ligature that a character may be the end of. -/
def ofChar? (c : Char) : Option Ligature :=
  let n := c.toNat
  if n = 0x5DC then some lamed
  else if alefRanges.contains n then some alef
  else if subjoinableRanges.contains n then some subjoinable
  else if n = 0x1A10 then some ya
  else if isTifinaghConsonant c then some consonant
  else if n = 0xA4FC ∨ n = 0xA4FD then some secondTone
  else if n = 0x10C03 then some orkhonI
  else if n = 0x16D67 then some signE
  else if n = 0x16D68 then some signAi
  else none

/-- Selectors in front of a ligature leave it possible, except in Kirat Rai. -/
def staysSelected : Ligature → Bool
  | signE | signAi => false
  | _ => true

/-- The ligature stays possible when the character stands in front of it. -/
def staysBehind (l : Ligature) (c : Char) : Bool :=
  match l with
  | alef => zeroColumnRanges.contains c.toNat && !separatingRanges.contains c.toNat
  | signE | signAi => false
  | _ => transparentRanges.contains c.toNat

/-- What a character adds in front of a ligature that it is part of, and the ligature that may
come of both. `joined` tells that there is a joiner between them. -/
def extend (l : Ligature) (joined : Bool) (c : Char) : Option (Int × Option Ligature) :=
  let n := c.toNat
  match l with
  | alef => if lamRanges.contains n then some (0, none) else none
  | lamed => if joined && n == 0x5D0 then some (0, none) else none
  | ya => if joined && n == 0x1A17 then some (0, some vowelAndYa) else none
  | vowelAndYa => if n = 0x1A15 then some (0, none) else none
  | consonant =>
    if n = 0x2D7F then some (1, some joinerAndConsonant)
    else if joined && isTifinaghConsonant c then some (0, none)
    else none
  | joinerAndConsonant => if isTifinaghConsonant c then some (-1, none) else none
  | secondTone => if 0xA4F8 ≤ n ∧ n ≤ 0xA4FB then some (0, none) else none
  | orkhonI => if joined && n == 0x10C32 then some (0, none) else none
  | subjoinable => if n = 0x17D2 then some (-1, none) else none
  | signE =>
    if n = 0x16D63 ∨ n = 0x16D69 then some (0, none)
    else if n = 0x16D67 then some (0, some signAi)
    else if n = 0x16D68 then some (1, some signE)
    else none
  | signAi => if n = 0x16D63 then some (0, none) else none

end Ligature

end Blueprint.Text
