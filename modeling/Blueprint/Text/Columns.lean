import Blueprint.Text.EmojiSequence
import Blueprint.Text.Ligature
import Blueprint.Text.WidthTable

/-!
# Terminal columns

The width of a text is the number of terminal columns that it takes. What a character adds depends
on the characters behind it, so a text is measured from its end. Characters add up, except where
several of them share a glyph.
-/
namespace Blueprint.Text

/-- A selector asks for one form of the character in front of it. -/
inductive Selector where
  | text
  | emoji
  /-- The wide form of a quotation mark. -/
  | wide
  deriving DecidableEq

def Selector.ofChar? (c : Char) : Option Selector :=
  if c = '\uFE0E' then some text
  else if c = '\uFE0F' then some emoji
  else if c = '\uFE01' then some wide
  else none

/-- The characters behind a place in a text, as far as they matter for the character in front. -/
inductive Tail where
  | plain
  | ligature (l : Ligature) (joined : Bool)
  | emoji (t : EmojiTail)
  deriving DecidableEq

/-- The columns of a single character. The filler of an initial jamo stands for a whole syllable,
and two Khmer signs are as wide as the letters that they abbreviate. -/
def charColumns (c : Char) : Nat :=
  if c = '\u17D8' then 3
  else if c = '\u17A4' then 2
  else if zeroColumnRanges.contains c.toNat then 0
  else if twoColumnRanges.contains c.toNat then 2
  else 1

/-- A character by itself: its columns, and what it is to the character in front of it. -/
def alone (c : Char) : Int × Tail :=
  if isIndicator c then (1, .emoji .indicator)
  else if isSkinTone c then (2, .emoji .skinTone)
  else if emojiRanges.contains c.toNat then (2, .emoji .emoji)
  else
    match Ligature.ofChar? c with
    | some l => (1, .ligature l false)
    | none => (charColumns c, .plain)

namespace Tail

/-- A joined emoji, which gives its columns to the emoji behind the joiner. -/
def isJoinedEmoji : Tail → Bool
  | emoji .joined | emoji .joinedKeycap => true
  | _ => false

/-- What is left when a selector stands in front. -/
def behindSelector (tail : Tail) (s : Selector) : Tail :=
  match tail with
  | ligature l joined => if l.staysSelected then ligature l joined else plain
  | emoji _ => if s = .emoji ∧ tail.isJoinedEmoji then tail else plain
  | plain => plain

/-- What is left when the selector in front of it was of no use. -/
def withoutSelector : Tail → Tail
  | emoji _ => plain
  | tail => tail

/-- What a character adds in front of characters that it belongs to, and what stands there then. -/
def extend (tail : Tail) (c : Char) : Option (Int × Tail) :=
  match tail with
  | plain => none
  | ligature l joined =>
    if l.staysBehind c then some (0, ligature l (joined || c == joiner))
    else (l.extend joined c).map fun (columns, rest) =>
      (columns, rest.elim plain fun l => ligature l false)
  | emoji t => (t.extend c).map fun (columns, t) => (columns, emoji t)

end Tail

def isQuotationMark (c : Char) : Bool :=
  c == '\u2018' || c == '\u2019' || c == '\u201C' || c == '\u201D'

/-- The plain form of an emoji is narrow, except for the squared ideographs. -/
def isNarrowAsText (c : Char) : Bool :=
  emojiRanges.contains c.toNat && selectableRanges.contains c.toNat &&
    !(decide (0x1F200 ≤ c.toNat) && decide (c.toNat ≤ 0x1F2FF))

/-- A character that has the form for which the selector behind it asks. -/
def selected? (c : Char) (s : Selector) (tail : Tail) : Option (Int × Tail) :=
  match s with
  | .emoji =>
    if selectableRanges.contains c.toNat then
      some (if tail.isJoinedEmoji then 0 else 2, .emoji .emoji)
    else none
  | .text => if isNarrowAsText c then some (1, .plain) else none
  | .wide => if isQuotationMark c then some (2, .plain) else none

/-- The end of a text, as measured. -/
structure Measured where
  columns : Int
  /-- The selector that it begins with. -/
  selector : Option Selector
  /-- What stands there, behind the selector if there is one. -/
  tail : Tail

/-- Latin letters and controls: each takes a column, whatever stands behind. -/
def isPlain (c : Char) : Bool := decide (c.toNat ≤ 0xA0)

/-- A character and the end of the text behind it. -/
def Measured.cons (c : Char) (m : Measured) : Measured :=
  match m.selector.bind fun s => selected? c s m.tail with
  | some (n, tail) => ⟨m.columns + n, none, tail⟩
  | none =>
    let tail := if m.selector.isSome then m.tail.withoutSelector else m.tail
    match Selector.ofChar? c with
    | some s => ⟨m.columns, some s, tail.behindSelector s⟩
    | none =>
      if isPlain c then ⟨m.columns + 1, none, .plain⟩
      else
        let (n, tail) := (tail.extend c).getD (alone c)
        ⟨m.columns + n, none, tail⟩

/-- The columns that a line takes. -/
def columns (line : String) : Nat :=
  (line.toList.foldr Measured.cons ⟨0, none, .plain⟩).columns.toNat

@[simp] theorem columns_empty : columns "" = 0 := rfl

end Blueprint.Text
