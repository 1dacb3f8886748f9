import TelemetryLog.Toml.Document

/-!
# What is wrong with a text that is no document

Reading a document only tells whether it is one.  For a text that is none, the functions here go
through its lines again and look for the first place where it goes wrong.  Nothing but the wording
of a message depends on what they find.

## What is here

* `Mistake` — a place and what is wrong there.
* `Mistake.ofToken`, `Mistake.ofQuoted`, `Mistake.ofValue` — what is wrong with a value.
* `Mistake.ofPair`, `Mistake.ofHeader` — what is wrong with a line.
* `Mistake.inText` — what is wrong with a text.

## How a mistake is found

The readers answer with nothing when something is wrong, and do not say where.  So each function
here follows a reader that has failed, asks it about shorter and shorter parts, and goes on behind
the part that can still be read.  Keeping this apart has a price, since the grammar is there twice,
but the readers stay free of messages, and everything that is proved about documents is proved about
the readers alone.

The wording tells the kind of thing that was being read and, where only a few characters could have
followed, which ones.  A key that is given twice is no mistake of any single line.  It is looked for
by adding the sections one at a time, only among those above the first line that cannot be read, and
if there is one there it comes first.
-/

set_option autoImplicit false

namespace TelemetryLog
namespace Toml

/-- A place where a text stops being a document. -/
structure Mistake where
  /-- How many characters of the document are left there. -/
  left : Nat
  /-- What is wrong. -/
  reason : String
deriving DecidableEq, Repr

namespace Mistake

/-- A place with what is left there, and what is wrong. -/
def here (left : List Char) (reason : String) : Mistake := ⟨left.length, reason⟩

/-! ## Numbers -/

/-- The text after digits with single underscores between them. -/
def afterDigits (ok : Char → Bool) : List Char → List Char
  | '_' :: c :: cs => if ok c then afterDigits ok cs else '_' :: c :: cs
  | c :: cs => if ok c then afterDigits ok cs else c :: cs
  | [] => []

/-- The text after the whole number in front, which is a single digit or has no zero in front. -/
def afterWhole? (cs : List Char) : Option (List Char) :=
  match (signed cs).2 with
  | '0' :: rest => some rest
  | c :: rest => if isDigit c then some (afterDigits isDigit rest) else none
  | [] => none

/-- Does a token go on here? -/
def goesOn (cs : List Char) : Bool := (cs.head?.map isTokenChar).getD false

/-- What is wrong with a number of some kind, given what is left after as many of its digits as can
be read.  If nothing is wrong there, the number is `outOfRange`. -/
def ofDigitsEnd (cs : List Char) (kind ending outOfRange : String) (rest : List Char) : Mistake :=
  match rest with
  | '_' :: more => here more ("invalid " ++ kind ++ "\nexpected digit")
  | _ => if goesOn rest then here rest ending else here cs outOfRange

/-- What is wrong with an integer that is too far from zero. -/
def outOfRange (negative : Bool) : String :=
  "number too " ++ (if negative then "small" else "large") ++ " to fit in target type"

/-- The kind of a number with a point or an exponent. -/
def floatKind : String := "floating-point number"

/-- What is wrong with a float, given what is left where its exponent would start. -/
def ofExponent (cs : List Char) (ending : String) (rest : List Char) : Mistake :=
  let finish := ofDigitsEnd cs floatKind ending ("invalid " ++ floatKind)
  match rest with
  | c :: more =>
    if isExponentLetter c then
      let digits := (signed more).2
      if (digits.head?.map isDigit).getD false then finish (afterDigits isDigit digits)
      else here digits ("invalid " ++ floatKind)
    else finish rest
  | [] => finish rest

/-- What is wrong with a float, given what is left behind its point. -/
def ofPlaces (cs : List Char) (ending : String) (rest : List Char) : Mistake :=
  if (rest.head?.map isDigit).getD false then
    match afterDigits isDigit rest with
    | '_' :: more => here more ("invalid " ++ floatKind ++ "\nexpected digit")
    | more => ofExponent cs ending more
  else here rest ("invalid " ++ floatKind ++ "\nexpected digit")

/-- The kind of an integer that is written in a base other than ten. -/
def basedKind (base : Nat) : String :=
  (if base = 16 then "hexadecimal" else if base = 8 then "octal" else "binary") ++ " integer"

/-- What is wrong with an integer in a base other than ten, given its digits. -/
def ofBased (cs : List Char) (ending : String) (base : Nat) (digits : List Char) : Mistake :=
  if (digits.head?.map (isDigitIn base)).getD false then
    ofDigitsEnd cs (basedKind base) ending (outOfRange false) (afterDigits (isDigitIn base) digits)
  else here digits ("invalid " ++ basedKind base)

/-- What is wrong with a number, given what is left after its whole part. -/
def ofNumber (cs : List Char) (ending : String) (rest : List Char) : Mistake :=
  match based? cs, rest with
  | some (base, digits), _ => ofBased cs ending base digits
  | none, '.' :: places => ofPlaces cs ending places
  | none, rest =>
    if (rest.head?.map isExponentLetter).getD false then ofExponent cs ending rest
    else ofDigitsEnd cs "integer" ending (outOfRange (signed cs).1) rest

/-! ## Dates and times -/

/-- Two digits that spell a number in a range, and what follows them, or what is wrong. -/
def takePair (kind : String) (low high : Nat) (cs : List Char) :
    Except Mistake (Nat × List Char) :=
  match cs with
  | a :: b :: rest =>
    match pair? a b with
    | some n =>
      if low ≤ n && n ≤ high then .ok (n, rest)
      else .error (here cs ("invalid " ++ kind ++ "\nvalue is out of range"))
    | none => .error (here cs ("invalid " ++ kind))
  | _ => .error (here cs ("invalid " ++ kind))

/-- What follows a mark, or what is wrong if it is missing. -/
def takeMark (kind : String) (mark : Char) (cs : List Char) : Except Mistake (List Char) :=
  match cs with
  | c :: rest => if c = mark then .ok rest else .error (here cs ("invalid " ++ kind))
  | [] => .error (here cs ("invalid " ++ kind))

/-- What follows the minutes and seconds of a time, or what is wrong with them. -/
def takeClock (kind : String) (cs : List Char) : Except Mistake (List Char) := do
  let (_, cs) ← takePair kind 0 59 cs
  let cs ← takeMark kind ':' cs
  let (_, cs) ← takePair kind 0 60 cs
  return afterFraction cs

/-- What follows the distance from universal time, if there is one, or what is wrong with it. -/
def takeOffset (cs : List Char) : Except Mistake (List Char) :=
  match cs with
  | c :: rest =>
    if c = 'Z' || c = 'z' then .ok rest
    else if c = '+' || c = '-' then do
      let kind := "time offset"
      let (_, rest) ← takePair kind 0 23 rest
      let rest ← takeMark kind ':' rest
      let (_, rest) ← takePair kind 0 59 rest
      return rest
    else .ok cs
  | [] => .ok []

/-- What follows the time behind a date, if there is one, or what is wrong with it. -/
def takeTimeOfDay (kind : String) (cs : List Char) : Except Mistake (List Char) :=
  match cs with
  | c :: h₁ :: h₂ :: ':' :: rest =>
    if (c = 'T' || c = 't' || c = ' ') && pairWithin h₁ h₂ 0 23 then
      (takeClock kind rest).bind takeOffset
    else .ok cs
  | _ => .ok cs

/-- What follows a date behind its year, and the time behind it, or what is wrong with them. -/
def takeDate (year : Nat) (cs : List Char) : Except Mistake (List Char) := do
  let kind := "date-time"
  let (month, cs) ← takePair kind 1 12 cs
  let cs ← takeMark kind '-' cs
  let (day, rest) ← takePair kind 1 31 cs
  if day ≤ daysIn year month then takeTimeOfDay kind rest
  else .error (here cs ("invalid " ++ kind ++ "\nvalue is out of range"))

/-- What follows the date or time in front, or what is wrong with it; a date starts with four digits
and a dash, a time with its hour and a colon. -/
def takeMoment? (cs : List Char) : Option (Except Mistake (List Char)) :=
  match cs with
  | h₁ :: h₂ :: ':' :: rest =>
    if pairWithin h₁ h₂ 0 23 then some (takeClock "time" rest) else none
  | y₁ :: y₂ :: y₃ :: y₄ :: '-' :: rest =>
    match pair? y₁ y₂, pair? y₃ y₄ with
    | some c, some y => some (takeDate (c * 100 + y) rest)
    | _, _ => none
  | _ => none

/-! ## Words and texts -/

/-- What follows the word in front, if it is one that is a value. -/
def afterWord? (cs : List Char) : Option (List Char) :=
  if cs.take 4 = ['t', 'r', 'u', 'e'] then some (cs.drop 4)
  else if cs.take 5 = ['f', 'a', 'l', 's', 'e'] then some (cs.drop 5)
  else
    let word := (signed cs).2
    if word.take 3 = ['i', 'n', 'f'] || word.take 3 = ['n', 'a', 'n'] then some (word.drop 3)
    else none

/-- What is wrong with a token that does not start like a number. -/
def ofWord (cs : List Char) (ending : String) : Mistake :=
  match afterWord? cs, cs with
  | some rest, _ => here rest ending
  | none, '_' :: _ => here cs "invalid integer\nexpected leading digit"
  | none, '.' :: _ => here cs ("invalid " ++ floatKind ++ "\nexpected leading digit")
  | none, '+' :: rest | none, '-' :: rest => here rest "invalid integer"
  | none, _ => here cs "invalid string\nexpected `\"`, `'`"

/-- What is wrong with a token. -/
def ofToken (cs : List Char) (ending : String) : Mistake :=
  match takeMoment? cs with
  | some (.error m) => m
  | some (.ok rest) => here (skipBlank rest) ending
  | none =>
    match afterWhole? cs with
    | some rest => ofNumber cs ending rest
    | none => ofWord cs ending

/-- Where the reading of a quoted text gets stuck: what is left there, and the state it is in. -/
def stuckAt (d : Delimiter) (q : Quoted) : List Char → List Char × Mode
  | [] => ([], q.mode)
  | c :: cs =>
    match q.step d c with
    | .more q => stuckAt d q cs
    | _ => (c :: cs, q.mode)

/-- What is wrong with a quoted text of some kind, given what follows its opening marks. -/
def ofQuoted (d : Delimiter) (kind : String) (cs : List Char) : Mistake :=
  match stuckAt d {} cs with
  | (c :: rest, .escape) =>
    here (c :: rest)
      ("invalid escape sequence\n" ++ "expected `b`, `f`, `n`, `r`, `t`, `u`, `U`, `\\`, `\"`")
  | (rest, _) => here rest ("invalid " ++ kind ++ " string")

/-! ## Keys -/

/-- The text after the dotted key in front, which has at most so many parts. -/
def afterKeys? : Nat → List Char → Option (List Char)
  | 0, _ => none
  | parts + 1, cs =>
    match readKey? (skipBlank cs) with
    | none => none
    | some (_, rest) =>
      match skipBlank rest with
      | '.' :: more => some ((afterKeys? parts more).getD ('.' :: more))
      | rest => some rest

/-- A key is missing or cannot be read. -/
def ofKey (cs : List Char) : Mistake := here (skipBlank cs) "invalid key"

/-- What is expected behind a key. -/
def keyEnding : String := "expected `.`, `=`"

/-- The first pair that a table refuses. -/
def refusedPair? : List (KeyPath × Entry) → List Member → Option KeyPath
  | [], _ => none
  | (path, e) :: rest, ms =>
    match assign path e ms with
    | none => some path
    | some ms => refusedPair? rest ms

/-! ## Arrays and inline tables -/

/-- What is expected behind the elements of an array. -/
def arrayEnding : String := "invalid array\nexpected `]`"

/-- What is expected behind the pairs of an inline table. -/
def inlineEnding : String := "invalid inline table\nexpected `\x7d`"

/-- Does a value that starts here show its own mistakes, instead of counting as no value? -/
def commits (cs : List Char) : Bool :=
  match cs with
  | '"' :: _ | '\x27' :: _ | '[' :: _ | '\x7b' :: _ | 't' :: _ | 'f' :: _ => true
  | _ => (afterWhole? cs).isSome

/-- What is wrong with an array, given what follows its bracket or one of its commas. -/
def ofElements (read : ValueReader) (ofElement : List Char → Mistake) : Nat → List Char → Mistake
  | 0, cs => here cs arrayEnding
  | fuel + 1, cs =>
    match skipFiller false cs with
    | none => here (skipComment (skipBlank cs)) arrayEnding
    | some cs =>
      match read cs with
      | none => if commits cs then ofElement cs else here cs arrayEnding
      | some (_, rest) =>
        match skipFiller false rest with
        | some (',' :: more) => ofElements read ofElement fuel more
        | some more => here more arrayEnding
        | none => here (skipComment (skipBlank rest)) arrayEnding

/-- What is wrong with an inline table, given what follows its brace or one of its commas, and that
brace or comma with what follows it. -/
def ofPairs (read : ValueReader) (ofMember : List Char → Mistake) :
    Nat → List Char → List Char → Mistake
  | 0, cs, _ => here cs inlineEnding
  | fuel + 1, cs, start =>
    match afterKeys? maxDepth cs with
    | none => here start inlineEnding
    | some ('=' :: rest) =>
      match read (skipBlank rest) with
      | none => ofMember (skipBlank rest)
      | some (_, rest) =>
        match skipBlank rest with
        | ',' :: more => ofPairs read ofMember fuel more (',' :: more)
        | more => here more inlineEnding
    | some rest => here rest keyEnding

/-- What is wrong with an inline table whose brace has been opened. -/
def ofInline (read : ValueReader) (ofMember : List Char → Mistake) (cs : List Char) : Mistake :=
  match readPairs? read (cs.length + 1) [] cs with
  | some (ps, _) =>
    match refusedPair? ps [] with
    | some path => here cs ("duplicate key `" ++ path.last.name ++ "`")
    | none => here cs inlineEnding
  | none => ofPairs read ofMember (cs.length + 1) cs (skipBlank cs)

/-- What is wrong with a value that cannot be read, at so many levels of arrays and inline tables.
If it can be read in part, what should follow it is `ending`. -/
def ofValue (levels : Nat) (ending : String) (cs : List Char) : Mistake :=
  match cs, levels with
  | '"' :: '"' :: '"' :: rest, _ => ofQuoted ⟨'"', true⟩ "multiline basic" (dropLineEnd rest)
  | '"' :: rest, _ => ofQuoted ⟨'"', false⟩ "basic" rest
  | '\x27' :: '\x27' :: '\x27' :: rest, _ =>
    ofQuoted ⟨'\x27', true⟩ "multiline literal" (dropLineEnd rest)
  | '\x27' :: rest, _ => ofQuoted ⟨'\x27', false⟩ "literal" rest
  | '[' :: _, 0 => here cs "recursion limit exceeded"
  | '\x7b' :: _, 0 => here cs "recursion limit exceeded"
  | '[' :: inner, levels + 1 =>
    ofElements (readValue? levels) (ofValue levels arrayEnding) (inner.length + 1) inner
  | '\x7b' :: inner, levels + 1 =>
    ofInline (readValue? levels) (ofValue levels inlineEnding) inner
  | _, _ => ofToken cs ending

/-! ## Lines -/

/-- What is expected behind what a line holds. -/
def lineEnding : String := "expected newline, `#`"

/-- Something else stands where a line should end. -/
def tail (context : String) (cs : List Char) : Mistake :=
  here (skipComment (skipBlank cs)) (context ++ lineEnding)

/-- What is wrong with a pair. -/
def ofPair (cs : List Char) : Mistake :=
  match afterKeys? maxDepth cs with
  | none => ofKey cs
  | some ('=' :: rest) =>
    match readValue? maxDepth (skipBlank rest) with
    | none => ofValue maxDepth lineEnding (skipBlank rest)
    | some (_, rest) => tail "" rest
  | some rest => here rest keyEnding

/-- What stands in front of what is wrong with a header. -/
def headerContext : String := "invalid table header\n"

/-- What is wrong with a header. -/
def ofHeader (cs : List Char) : Mistake :=
  let isArray := match cs with
    | '[' :: '[' :: _ => true
    | _ => false
  let inner := cs.drop (if isArray then 2 else 1)
  match afterKeys? maxDepth inner, isArray with
  | none, _ => ofKey inner
  | some (']' :: ']' :: rest), true => tail headerContext rest
  | some (']' :: rest), false => tail headerContext rest
  | some rest, true => here rest (headerContext ++ "expected `.`, `]]`")
  | some rest, false => here rest (headerContext ++ "expected `.`, `]`")

/-! ## Tables -/

/-- The words for a key that is given twice, under a header. -/
def duplicate (name : String) (above : List Key) : String :=
  "duplicate key `" ++ name ++ "` in " ++
    if above.isEmpty then "document root"
    else "table `" ++ ".".intercalate (above.map Key.name) ++ "`"

/-- The start of a dotted key. -/
def startOf (path : KeyPath) : Nat :=
  match path.tables with
  | k :: _ => k.span.start
  | [] => path.last.span.start

/-- What is wrong with a section that the root table refuses. -/
def ofSection (root : List Member) (s : Section) : Mistake :=
  let above := match s.header with
    | none => []
    | some h => h.path.tables ++ [h.path.last]
  match refusedPair? s.pairs (if above.isEmpty then root else []), s.header with
  | some path, _ => ⟨startOf path, duplicate path.last.name (above ++ path.tables)⟩
  | none, some h =>
    ⟨h.span.start, headerContext ++ duplicate h.path.last.name h.path.tables⟩
  | none, none => ⟨0, "invalid document"⟩

/-- What is wrong with the first section that the root table refuses. -/
def ofSections? : List Section → List Member → Option Mistake
  | [], _ => none
  | s :: rest, root =>
    match addSection root s with
    | none => some (ofSection root s)
    | some root => ofSections? rest root

/-! ## Texts -/

/-- The sections up to the first line that cannot be read, and what is wrong with that line; the
fuel bounds the number of lines. -/
def ofLines : Nat → Sections → List Char → List Section × Option Mistake
  | 0, s, _ => (s.close.reverse, none)
  | fuel + 1, s, cs =>
    let stop (m : Mistake) := (s.close.reverse, some m)
    match skipBlank cs with
    | [] => (s.close.reverse, none)
    | c :: cs =>
      if c = '\n' || c = '#' then
        match lineEnd? (c :: cs) with
        | some rest => ofLines fuel s rest
        | none => stop (tail "" (c :: cs))
      else if c = '[' then
        match (readHeader? (c :: cs)).bind fun r => (lineEnd? r.2).map fun rest => (r.1, rest) with
        | some (h, rest) => ofLines fuel (s.openSection h) rest
        | none => stop (ofHeader (c :: cs))
      else
        match (readPair? (readValue? maxDepth) (c :: cs)).bind fun r =>
          (lineEnd? r.2).map fun rest => (r.1, rest) with
        | some (p, rest) => ofLines fuel (s.addPair p) rest
        | none => stop (ofPair (c :: cs))

/-- The text from the first carriage return on that belongs to no line end. -/
def fromLoneReturn : List Char → List Char
  | [] => []
  | '\r' :: '\n' :: cs => fromLoneReturn cs
  | c :: cs => if c = '\r' then c :: cs else fromLoneReturn cs

/-- What is wrong with a text that is no document. -/
def inText (text : List Char) : Mistake :=
  let body := dropMark text
  match unifyLines? body with
  | none => here ((fromLoneReturn body).filter (· ≠ '\r')) lineEnding
  | some cs =>
    let (sections, mistake) := ofLines (cs.length + 1) {} cs
    match ofSections? sections [], mistake with
    | some m, _ => m
    | none, some m => m
    | none, none => here cs "invalid document"

end Mistake
end Toml
end TelemetryLog
