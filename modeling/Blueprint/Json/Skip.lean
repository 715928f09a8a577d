import Blueprint.Json.Reader

/-!
# Passing over values

A value that nobody asked for is checked for its syntax and dropped. Containers may be nested
without limit here, numbers may have any size and surrogates need no partner.
-/
namespace Blueprint.Json

open Reader

inductive Frame where
  | list
  | object
  deriving DecidableEq

def Frame.closing : Frame → Char
  | list => ']'
  | object => '}'

/-- The text ends inside the container. -/
def Frame.cutOff : Frame → Fault
  | list => .endInList
  | object => .endInObject

def Frame.unfinished : Frame → Fault
  | list => .expectedCommaOrBracket
  | object => .expectedCommaOrBrace

/-- The rest of a string, behind its opening quote. -/
def skipString : Nat → List Char → Except Fault (List Char)
  | 0, _ => .error .endInString
  | _ + 1, [] => .error .endInString
  | turns + 1, c :: rest =>
    if c = '"' then .ok rest
    else if c = '\\' then
      match rest with
      | [] => .error .endInString
      | d :: rest =>
        if d = 'u' then
          match hexQuad rest with
          | .error fault => .error fault
          | .ok (_, rest) => skipString turns rest
        else if (shortEscape d).isSome then skipString turns rest
        else .error .invalidEscape
    else if c.toNat < 32 then .error .controlCharacter
    else skipString turns rest

/-- A string whose opening quote comes next. -/
def skippedString : Reader Unit := fun size s =>
  match skipString (size + 1) (s.drop 1) with
  | .ok rest => .ok ((), rest)
  | .error fault => .error fault

/-- The exponent part, from its letter on. -/
def skipExponent (s : List Char) : Except Fault (Unit × List Char) :=
  let s := match s.drop 1 with
    | '+' :: rest => rest
    | '-' :: rest => rest
    | rest => rest
  if s.head?.any isDigit then .ok ((), s.dropWhile isDigit) else .error .invalidNumber

/-- A number behind its sign. -/
def skippedNumber : Reader Unit := fun _ s =>
  match s with
  | [] => .error .invalidNumber
  | c :: rest =>
    if !isDigit c then .error .invalidNumber
    else if c = '0' ∧ rest.head?.any isDigit then .error .invalidNumber
    else
      match rest.dropWhile isDigit with
      | '.' :: more =>
        if more.head?.any isDigit then
          match more.dropWhile isDigit with
          | 'e' :: more => skipExponent ('e' :: more)
          | 'E' :: more => skipExponent ('E' :: more)
          | more => .ok ((), more)
        else .error .invalidNumber
      | 'e' :: more => skipExponent ('e' :: more)
      | 'E' :: more => skipExponent ('E' :: more)
      | more => .ok ((), more)

/-- What a value starts with: a whole value, or a container that is still open. -/
def skipHead : Reader (Option Frame) := do
  match ← look with
  | none => fail .endInValue
  | some 'n' => word ['n', 'u', 'l', 'l']; pure none
  | some 't' => word ['t', 'r', 'u', 'e']; pure none
  | some 'f' => word ['f', 'a', 'l', 's', 'e']; pure none
  | some '-' => advance; skippedNumber; pure none
  | some '"' => skippedString; pure none
  | some '[' => advance; pure (some .list)
  | some '{' => advance; pure (some .object)
  | some c => if isDigit c then skippedNumber; pure none else fail .expectedValue

/-- Behind a value: the containers that end here are closed, up to a comma or the outermost end.
The answer is the containers that are still open. -/
def closeFrames : List Frame → Nat → List Char → Except Fault (List Frame × List Char)
  | [], _, s => .ok ([], s)
  | frame :: _, _, [] => .error frame.cutOff
  | frame :: frames, size, c :: rest =>
    if isBlank c then closeFrames (frame :: frames) size rest
    else if c = ',' then .ok (frame :: frames, rest)
    else if c = frame.closing then closeFrames frames size rest
    else .error frame.unfinished

/-- Behind the bracket that opens a container: either its first item comes, or it is empty and
ends at once, as may those around it. -/
def openFrame (frame : Frame) (frames : List Frame) : Reader (List Frame) := do
  match ← look with
  | none => fail frame.cutOff
  | some c =>
    if c = frame.closing then
      advance
      fun size s => closeFrames frames size s
    else pure (frame :: frames)

/-- What stands before the value of an item: in an object its name and a colon. -/
def skipName : Frame → Reader Unit
  | .list => pure ()
  | .object => do
    match ← look with
    | none => fail .endInObject
    | some '"' => skippedString
    | some _ => fail .keyNotString
    match ← look with
    | none => fail .endInObject
    | some ':' => advance
    | some _ => fail .expectedColon

/-- Values inside the open containers, until all are closed. -/
def skipValues : Nat → List Frame → Reader Unit
  | 0, _ => fail .endInValue
  | turns + 1, frames => do
    let opened ← skipHead
    let frames ← match opened with
      | none => show Reader (List Frame) from fun size s => closeFrames frames size s
      | some frame => openFrame frame frames
    match frames with
    | [] => pure ()
    | frame :: frames =>
      skipName frame
      skipValues turns (frame :: frames)

/-- One value. -/
def skipped : Reader Unit := do skipValues (← turns) []

end Blueprint.Json
