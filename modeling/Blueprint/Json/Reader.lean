import Blueprint.Json.Fault

/-!
# Reading JSON text

A reader takes a value off the front of the text or names the first fault that it meets, so that
nothing behind a fault is ever looked at. It is told the length of the whole text, which bounds
every repetition.
-/
namespace Blueprint.Json

def Reader (α : Type) : Type := Nat → List Char → Except Fault (α × List Char)

namespace Reader

instance : Monad Reader where
  pure a := fun _ s => .ok (a, s)
  bind r f := fun size s =>
    match r size s with
    | .ok (a, rest) => f a size rest
    | .error fault => .error fault

@[simp] theorem pure_apply {α : Type} (a : α) (size : Nat) (s : List Char) :
    (pure a : Reader α) size s = .ok (a, s) := rfl

theorem bind_apply {α β : Type} (r : Reader α) (f : α → Reader β) (size : Nat) (s : List Char) :
    (r >>= f) size s =
      match r size s with
      | .ok (a, rest) => f a size rest
      | .error fault => .error fault := rfl

variable {α : Type}

def fail (fault : Fault) : Reader α := fun _ _ => .error fault

/-- Lets a decision that needs no text fail the reader. -/
def ofExcept : Except Fault α → Reader α
  | .ok a => pure a
  | .error fault => fail fault

end Reader

def isBlank (c : Char) : Bool := c == ' ' || c == '\n' || c == '\t' || c == '\r'

/-- The text from its first character that is not blank. -/
def skipBlanks (s : List Char) : List Char := s.dropWhile isBlank

open Reader

/-- Moves over blanks and shows the next character. -/
def look : Reader (Option Char) := fun _ s =>
  let rest := skipBlanks s
  .ok (rest.head?, rest)

/-- Takes one character. -/
def advance : Reader Unit := fun _ s => .ok ((), s.drop 1)

/-- Takes the rest of a word whose first letter has been seen. -/
def word : List Char → Reader Unit
  | [], _, s => .ok ((), s)
  | _ :: _, _, [] => .error .endInValue
  | c :: cs, size, d :: s => if c = d then word cs size s else .error .expectedIdent

/-! ## Strings -/

def hexValue (c : Char) : Option Nat :=
  if '0' ≤ c ∧ c ≤ '9' then some (c.toNat - 48)
  else if 'a' ≤ c ∧ c ≤ 'f' then some (c.toNat - 87)
  else if 'A' ≤ c ∧ c ≤ 'F' then some (c.toNat - 55)
  else none

/-- Four hexadecimal digits. The end of the text is reported only when fewer than four bytes are
left, whatever they are. -/
def hexQuad (s : List Char) : Except Fault (Nat × List Char) :=
  match s with
  | a :: b :: c :: d :: rest =>
    match hexValue a, hexValue b, hexValue c, hexValue d with
    | some a, some b, some c, some d => .ok (((a * 16 + b) * 16 + c) * 16 + d, rest)
    | _, _, _, _ => .error .invalidEscape
  | _ => .error (if (String.ofList s).utf8ByteSize < 4 then .endInString else .invalidEscape)

/-- What follows `\u`: one code point, or a pair of surrogates that make up one. -/
def unicodeEscape (s : List Char) : Except Fault (Char × List Char) :=
  match hexQuad s with
  | .error fault => .error fault
  | .ok (high, rest) =>
    if 0xDC00 ≤ high ∧ high ≤ 0xDFFF then .error .loneSurrogate
    else if high < 0xD800 ∨ 0xDBFF < high then .ok (Char.ofNat high, rest)
    else
      match rest with
      | [] => .error .endInString
      | '\\' :: [] => .error .endInString
      | '\\' :: 'u' :: rest =>
        match hexQuad rest with
        | .error fault => .error fault
        | .ok (low, rest) =>
          if low < 0xDC00 ∨ 0xDFFF < low then .error .loneSurrogate
          else .ok (Char.ofNat ((high - 0xD800) * 0x400 + (low - 0xDC00) + 0x10000), rest)
      | _ => .error .unpairedSurrogate

/-- The character that a letter stands for behind a backslash. -/
def shortEscape : Char → Option Char
  | '"' => some '"'
  | '\\' => some '\\'
  | '/' => some '/'
  | 'b' => some '\x08'
  | 'f' => some '\x0c'
  | 'n' => some '\n'
  | 'r' => some '\r'
  | 't' => some '\t'
  | _ => none

/-- What follows a backslash. -/
def escape : List Char → Except Fault (Char × List Char)
  | [] => .error .endInString
  | c :: rest =>
    if c = 'u' then unicodeEscape rest
    else
      match shortEscape c with
      | some d => .ok (d, rest)
      | none => .error .invalidEscape

/-- The rest of a string, behind its opening quote, as characters. Each turn takes at least one
character, so the length of the text is enough turns. -/
def stringTail : Nat → List Char → Except Fault (List Char × List Char)
  | 0, _ => .error .endInString
  | _ + 1, [] => .error .endInString
  | turns + 1, c :: rest =>
    if c = '"' then .ok ([], rest)
    else if c = '\\' then
      match escape rest with
      | .error fault => .error fault
      | .ok (d, rest) =>
        match stringTail turns rest with
        | .error fault => .error fault
        | .ok (ds, rest) => .ok (d :: ds, rest)
    else if c.toNat < 32 then .error .controlCharacter
    else
      match stringTail turns rest with
      | .error fault => .error fault
      | .ok (ds, rest) => .ok (c :: ds, rest)

/-- A string whose opening quote comes next. -/
def quotedString : Reader String := fun size s =>
  match stringTail (size + 1) (s.drop 1) with
  | .ok (cs, rest) => .ok (String.ofList cs, rest)
  | .error fault => .error fault

/-! ## Numbers -/

inductive Number where
  | natural (n : Nat)
  /-- The integer `-n`, with `n` above zero. -/
  | negative (n : Nat)
  | float (x : Float)

def Number.found : Number → Found
  | natural n => .integer n
  | negative n => .integer (-(n : Int))
  | float x => .float x

def isDigit (c : Char) : Bool := decide ('0' ≤ c) && decide (c ≤ '9')

def digitValue (c : Char) : Nat := c.toNat - 48

/-- The largest significand that is kept; digits that would pass it only count as places. -/
def maxSignificand : Nat := 0xFFFFFFFFFFFFFFFF

/-- Ten to a natural power, rounded. -/
def powerOfTen (n : Nat) : Float := Float.ofScientific 1 false n

/-- Divides by ten to the power `n`, in steps that stay within the range of powers. -/
def scaleDown (x : Float) (n : Nat) : Float :=
  if n ≤ 308 then x / powerOfTen n
  else if x == 0.0 then x
  else scaleDown (x / powerOfTen 308) (n - 308)
termination_by n

/-- The floating-point number `significand * 10 ^ exponent`, computed with one rounding for the
significand and one for each scaling. -/
def floatOf (positive : Bool) (significand : Nat) (exponent : Int) : Except Fault Float :=
  let x := Float.ofNat significand
  let signed (x : Float) : Float := if positive then x else -x
  if exponent < 0 then .ok (signed (scaleDown x exponent.natAbs))
  else if exponent ≤ 308 then
    let y := x * powerOfTen exponent.natAbs
    if y.isInf then .error .numberOutOfRange else .ok (signed y)
  else if significand = 0 then .ok (signed x)
  else .error .numberOutOfRange

/-- The largest exponent that is read as a number. -/
def maxExponent : Nat := 0x7FFFFFFF

/-- The exponent part, from its letter on. -/
def exponentPart (positive : Bool) (significand : Nat) (places : Int) (s : List Char) :
    Except Fault (Number × List Char) :=
  let s := s.drop 1
  let (up, s) := match s with
    | '+' :: rest => (true, rest)
    | '-' :: rest => (false, rest)
    | _ => (true, s)
  match s with
  | [] => .error .endInValue
  | c :: _ =>
    if !isDigit c then .error .invalidNumber
    else
      let exponent := (s.takeWhile isDigit).foldl (fun n d => n * 10 + digitValue d) 0
      let rest := s.dropWhile isDigit
      let number : Except Fault Float :=
        if maxExponent < exponent then
          if significand ≠ 0 ∧ up then .error .numberOutOfRange
          else .ok (if positive then 0.0 else -0.0)
        else floatOf positive significand (if up then places + exponent else places - exponent)
      match number with
      | .ok x => .ok (.float x, rest)
      | .error fault => .error fault

/-- Digits behind the point are taken into the significand while it can hold them. -/
def takeFraction : List Char → Nat → Int → Nat × Int
  | [], significand, places => (significand, places)
  | d :: ds, significand, places =>
    let next := significand * 10 + digitValue d
    if maxSignificand < next then (significand, places) else takeFraction ds next (places - 1)

/-- What may follow the integer part: a fraction, an exponent, both or neither. -/
def fractionPart (positive : Bool) (significand : Nat) (places : Int) (s : List Char) :
    Except Fault (Number × List Char) :=
  match s.drop 1 with
  | [] => .error .endInValue
  | c :: rest =>
    if !isDigit c then .error .invalidNumber
    else
      let (significand, places) :=
        takeFraction ((c :: rest).takeWhile isDigit) significand places
      match (c :: rest).dropWhile isDigit with
      | 'e' :: more => exponentPart positive significand places ('e' :: more)
      | 'E' :: more => exponentPart positive significand places ('E' :: more)
      | more =>
        match floatOf positive significand places with
        | .ok x => .ok (.float x, more)
        | .error fault => .error fault

/-- The integer part holds as many digits as the significand can; the others are places. -/
def takeInteger : List Char → Nat → Nat × Nat
  | [], significand => (significand, 0)
  | d :: ds, significand =>
    let next := significand * 10 + digitValue d
    if maxSignificand < next then (significand, ds.length + 1) else takeInteger ds next

/-- A whole number without fraction and exponent. Minus zero, and numbers below `-2 ^ 63`, are
floating-point numbers. -/
def wholeNumber (positive : Bool) (significand : Nat) : Number :=
  if positive then .natural significand
  else if 0 < significand ∧ significand ≤ 0x8000000000000000 then .negative significand
  else .float (-(Float.ofNat significand))

/-- A number behind its sign. -/
def number (positive : Bool) : Reader Number := fun _ s =>
  match s with
  | [] => .error .endInValue
  | c :: rest =>
    if !isDigit c then .error .invalidNumber
    else if c = '0' ∧ (rest.head?.any isDigit) then .error .invalidNumber
    else
      let (significand, places) := takeInteger ((c :: rest).takeWhile isDigit) 0
      match (c :: rest).dropWhile isDigit with
      | '.' :: more => fractionPart positive significand places ('.' :: more)
      | 'e' :: more => exponentPart positive significand places ('e' :: more)
      | 'E' :: more => exponentPart positive significand places ('E' :: more)
      | more =>
        if places = 0 then .ok (wholeNumber positive significand, more)
        else
          match floatOf positive significand places with
          | .ok x => .ok (.float x, more)
          | .error fault => .error fault

/-! ## Lists and objects -/

/-- Containers may be nested this deep where their content is read. -/
def maxLevels : Nat := 127

/-- Enters a container, if one more level may be opened. -/
def descend {α : Type} (inner : Nat → Reader α) : Nat → Reader α
  | 0 => fail .tooDeep
  | levels + 1 => inner levels

/-- Whether another item of a list follows; behind the first item a comma leads to it. -/
def anotherItem (first : Bool) : Reader Bool := do
  match ← look with
  | none => fail .endInList
  | some ']' => pure false
  | some c =>
    if first then pure true
    else if c = ',' then
      advance
      match ← look with
      | none => fail .endInValue
      | some ']' => fail .trailingComma
      | some _ => pure true
    else fail .expectedCommaOrBracket

/-- The name of the next member of an object, if another one follows. -/
def anotherName (first : Bool) : Reader (Option String) := do
  match ← look with
  | none => fail .endInObject
  | some '}' => pure none
  | some c =>
    if first then
      if c = '"' then some <$> quotedString else fail .keyNotString
    else if c = ',' then
      advance
      match ← look with
      | none => fail .endInValue
      | some '"' => some <$> quotedString
      | some '}' => fail .trailingComma
      | some _ => fail .keyNotString
    else fail .expectedCommaOrBrace

/-- The colon between a name and its value. -/
def colon : Reader Unit := do
  match ← look with
  | none => fail .endInObject
  | some ':' => advance
  | some _ => fail .expectedColon

/-- The end of a list of which no further item is wanted. -/
def closeList : Reader Unit := do
  match ← look with
  | none => fail .endInList
  | some ']' => advance
  | some ',' =>
    advance
    match ← look with
    | some ']' => fail .trailingComma
    | _ => fail .trailingCharacters
  | some _ => fail .trailingCharacters

/-- The end of an object of which no further member is wanted. -/
def closeObject : Reader Unit := do
  match ← look with
  | none => fail .endInObject
  | some '}' => advance
  | some ',' => fail .trailingComma
  | some _ => fail .trailingCharacters

/-- The items of a list, behind its bracket. -/
def items {α : Type} (item : Reader α) : Nat → Bool → Reader (List α)
  | 0, _ => fail .endInList
  | turns + 1, first => do
    if ← anotherItem first then
      let x ← item
      let xs ← items item turns false
      pure (x :: xs)
    else pure []

/-- The length of the whole text, and one turn for the end of a container. -/
def turns : Reader Nat := fun size s => .ok (size + 1, s)

/-! ## Single values -/

/-- Names what stands at the front, for which there was another expectation. A fault in its own
text comes first. -/
def wrongType {α : Type} (expected : String) : Reader α := do
  let found ← show Reader Found from do
    match ← look with
    | some 'n' => word ['n', 'u', 'l', 'l']; pure .null
    | some 't' => word ['t', 'r', 'u', 'e']; pure (.bool true)
    | some 'f' => word ['f', 'a', 'l', 's', 'e']; pure (.bool false)
    | some '-' => advance; return (← number false).found
    | some '"' => return .string (← quotedString)
    | some '[' => pure .sequence
    | some '{' => pure .map
    | some c => if isDigit c then return (← number true).found else fail .expectedValue
    | none => fail .expectedValue
  fail (.wrongType found expected)

/-- A string. -/
def string : Reader String := do
  match ← look with
  | none => fail .endInValue
  | some '"' => quotedString
  | some _ => wrongType "a string"

/-- True or false. -/
def boolean : Reader Bool := do
  match ← look with
  | none => fail .endInValue
  | some 't' => word ['t', 'r', 'u', 'e']; pure true
  | some 'f' => word ['f', 'a', 'l', 's', 'e']; pure false
  | some _ => wrongType "a boolean"

/-- Null and nothing else. -/
def unit : Reader Unit := do
  match ← look with
  | none => fail .endInValue
  | some 'n' => word ['n', 'u', 'l', 'l']
  | some _ => wrongType "unit"

/-- Null for nothing, anything else for a value. -/
def optional {α : Type} (r : Reader α) : Reader (Option α) := do
  match ← look with
  | some 'n' => word ['n', 'u', 'l', 'l']; pure none
  | _ => some <$> r

/-- A natural number of thirty-two bits, from any number. -/
def Number.toWord : Number → Except Fault UInt32
  | .natural n =>
    if n < UInt32.size then .ok (UInt32.ofNat n) else .error (.wrongValue (.integer n) "u32")
  | .negative n => .error (.wrongValue (.integer (-(n : Int))) "u32")
  | .float x => .error (.wrongType (.float x) "u32")

/-- A natural number of thirty-two bits. -/
def word32 : Reader UInt32 := do
  match ← look with
  | none => fail .endInValue
  | some '-' =>
    advance
    ofExcept (← number false).toWord
  | some c => if isDigit c then ofExcept (← number true).toWord else wrongType "u32"

/-- A list of values. -/
def listOf {α : Type} (item : Nat → Reader α) (levels : Nat) : Reader (List α) := do
  match ← look with
  | none => fail .endInValue
  | some '[' =>
    descend (fun inner => do
      advance
      let xs ← items (item inner) (← turns) true
      closeList
      pure xs) levels
  | some _ => wrongType "a sequence"

/-- Reads a whole text: behind the value only blanks may follow. -/
def parse {α : Type} (r : Reader α) (text : String) : Except Fault α :=
  let s := text.toList
  match r s.length s with
  | .error fault => .error fault
  | .ok (a, rest) => if (skipBlanks rest).isEmpty then .ok a else .error .trailingCharacters

end Blueprint.Json
