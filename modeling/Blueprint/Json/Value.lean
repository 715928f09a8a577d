/-!
# JSON values and their text

A value keeps the members of an object in the order in which they are written. The same printer
writes both forms, on one line and indented by two spaces a level; they differ in their `Spacing`.
-/
namespace Blueprint.Json

/-- The values that are written: all numbers are naturals. -/
inductive Value where
  | null
  | bool (b : Bool)
  | number (n : Nat)
  | string (s : String)
  | array (items : List Value)
  | object (members : List (String × Value))
  deriving Inhabited

/-- Where lines break, and what stands between a name and its value. -/
structure Spacing where
  lineBreak : Nat → List Char
  colon : List Char

/-- Everything on one line, without blanks. -/
def Spacing.compact : Spacing := ⟨fun _ => [], [':']⟩

/-- One item a line, two spaces a level. -/
def Spacing.indented : Spacing := ⟨fun level => '\n' :: List.replicate (2 * level) ' ', [':', ' ']⟩

def hexDigit (n : Nat) : Char := if n < 10 then Char.ofNat (48 + n) else Char.ofNat (87 + n)

/-- Only the quote, the backslash and the control characters below the blank are escaped. -/
def escapeChar (c : Char) : List Char :=
  if c = '"' then ['\\', '"']
  else if c = '\\' then ['\\', '\\']
  else if c = '\x08' then ['\\', 'b']
  else if c = '\x0c' then ['\\', 'f']
  else if c = '\n' then ['\\', 'n']
  else if c = '\r' then ['\\', 'r']
  else if c = '\t' then ['\\', 't']
  else if c.toNat < 32 then ['\\', 'u', '0', '0', hexDigit (c.toNat / 16), hexDigit (c.toNat % 16)]
  else [c]

/-- A string in quotes. -/
def stringChars (s : String) : List Char := '"' :: (s.toList.flatMap escapeChar ++ ['"'])

mutual

/-- The text of a value that stands `level` levels deep. -/
def Value.chars (l : Spacing) (level : Nat) : Value → List Char
  | .null => ['n', 'u', 'l', 'l']
  | .bool true => ['t', 'r', 'u', 'e']
  | .bool false => ['f', 'a', 'l', 's', 'e']
  | .number n => Nat.toDigits 10 n
  | .string s => stringChars s
  | .array [] => ['[', ']']
  | .array (v :: vs) =>
    '[' :: (l.lineBreak (level + 1) ++ v.chars l (level + 1) ++ moreItems l (level + 1) vs ++
      l.lineBreak level ++ [']'])
  | .object [] => ['{', '}']
  | .object ((name, v) :: ms) =>
    '{' :: (l.lineBreak (level + 1) ++ stringChars name ++ l.colon ++ v.chars l (level + 1) ++
      moreMembers l (level + 1) ms ++ l.lineBreak level ++ ['}'])

/-- The items after the first of an array. -/
def Value.moreItems (l : Spacing) (level : Nat) : List Value → List Char
  | [] => []
  | v :: vs => ',' :: (l.lineBreak level ++ v.chars l level ++ moreItems l level vs)

/-- The members after the first of an object. -/
def Value.moreMembers (l : Spacing) (level : Nat) : List (String × Value) → List Char
  | [] => []
  | (name, v) :: ms =>
    ',' :: (l.lineBreak level ++ stringChars name ++ l.colon ++ v.chars l level ++
      moreMembers l level ms)

end

/-- The value on one line. -/
def Value.compact (v : Value) : String := String.ofList (v.chars .compact 0)

/-- The value indented. -/
def Value.pretty (v : Value) : String := String.ofList (v.chars .indented 0)

/-- A value that may be missing is written as null. -/
def Value.ofOption {α : Type} (f : α → Value) : Option α → Value
  | none => .null
  | some a => f a

def Value.ofList {α : Type} (f : α → Value) (items : List α) : Value := .array (items.map f)

end Blueprint.Json
