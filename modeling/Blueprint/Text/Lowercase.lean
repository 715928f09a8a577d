import Blueprint.Text.CaseTable

/-!
# Lowercase text

Full lowercase conversion. Two letters need more than a table: the dotted capital I becomes two
code points, and the capital sigma becomes its final form at the end of a word.
-/
namespace Blueprint.Text

/-- The lowercase form of one character, whatever stands around it. -/
def lowercaseChar (c : Char) : List Char :=
  if c = 'İ' then ['i', '\u0307']
  else
    match lowercaseRuns.find? (·.covers c.toNat) with
    | some run => [Char.ofNat (c.toNat + run.shift).toNat]
    | none => [c]

/-- Whether the first character that is not case-ignorable is a cased one. -/
def startsCased (text : List Char) : Bool :=
  match text.dropWhile fun c => caseIgnorableRanges.contains c.toNat with
  | [] => false
  | c :: _ => casedRanges.contains c.toNat

/-- A sigma ends a word when a cased letter stands before it and none after it. -/
def lowercaseSigma (before after : List Char) : Char :=
  if startsCased before && !startsCased after then 'ς' else 'σ'

/-- `before` holds the characters already passed, the nearest first. -/
def lowercaseFrom (before : List Char) : List Char → List Char
  | [] => []
  | c :: after =>
    (if c = 'Σ' then [lowercaseSigma before after] else lowercaseChar c) ++
      lowercaseFrom (c :: before) after

/-- The text in lowercase. -/
def lowercase (text : String) : String := String.ofList (lowercaseFrom [] text.toList)

@[simp] theorem lowercase_empty : lowercase "" = "" := rfl

end Blueprint.Text
