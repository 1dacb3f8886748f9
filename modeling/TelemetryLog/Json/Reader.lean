import TelemetryLog.Json.Value

/-!
# Reading a JSON object

A machine that takes a text one character at a time.  Its state says which token it is in and
keeps the containers that wait for a value on a stack, so reading a text in two parts is the same
as reading it at once (`run_append`), and a text that breaks off leaves a state that is not `done`.

A token is judged when it ends: the body of a text by `unescape?`, a bare word or number by
`scalar?`.

## What is here

* `scalar?`, `nested?` — the value of a bare token and of an inner object.
* `State`, `step`, `run` — the machine.
* `readObject?` — the members of the object that the whole text spells.

## Why a machine

Whether a text that is cut off can still be an object is a question about a state in the middle of
it, and a recursive reader has no such state to speak of.  What the machine accepts is compared with
a grammar that does not mention it in `Proofs.Json.Soundness` and `Proofs.Json.Completeness`, so
nobody has to believe the machine.

Two limits belong to the reader and not to the format.  At most `maxDepth` containers may be open at
once.  And an inner object whose first key is `numberKey` is how a number is handed on inside the
library that reads the lines, so such an object is a number or nothing; the outermost object is not
looked at in this way.
-/

set_option autoImplicit false

namespace TelemetryLog
namespace Json

/-- How many containers may be open at once, the outermost one included. -/
def maxDepth : Nat := 127

/-- An inner object whose first key is this one stands for a number. -/
def numberKey : String := "$serde_json::private::Number"

/-- Does the character separate tokens? -/
def isSpace (c : Char) : Bool := c = ' ' || c = '\t' || c = '\n' || c = '\r'

theorem isSpace_iff {c : Char} :
    isSpace c = true ↔ c = ' ' ∨ c = '\t' ∨ c = '\n' ∨ c = '\r' := by
  simp only [isSpace, Bool.or_eq_true, decide_eq_true_eq, or_assoc]

/-- May the character occur in a bare token, that is, in a word or a number? -/
def isBare (c : Char) : Bool := c.isAlphanum || c = '+' || c = '-' || c = '.'

/-- The value of a bare token. -/
def scalar? (cs : List Char) : Option Json :=
  if cs = ['n', 'u', 'l', 'l'] then some .null
  else if cs = ['t', 'r', 'u', 'e'] then some (.bool true)
  else if cs = ['f', 'a', 'l', 's', 'e'] then some (.bool false)
  else (Number.ofLiteral? cs).map .number

/-- The value of an inner object with these members, in the order sent.  If the first key is
`numberKey` the only member must be a text that spells a number, and the object is that number. -/
def nested? : List (String × Json) → Option Json
  | [] => some (.object [])
  | (k, v) :: more =>
    if k = numberKey then
      match v, more with
      | .text s, [] => (Number.ofLiteral? s.toList).map .number
      | _, _ => none
    else some (.object (collect ((k, v) :: more)))

namespace Reader

/-- A container that waits for the value in progress; what it already has stands latest first. -/
inductive Frame where
  /-- An array with its items so far. -/
  | array (items : List Json)
  /-- An object with its members so far and the key whose value is in progress. -/
  | member (members : List (String × Json)) (key : String)

/-- Where the machine stands.  Members, items and characters already read stand latest first. -/
inductive State where
  /-- Before the object. -/
  | start
  /-- Before a value; `first` directly after the bracket that opens an array, where the array may
  also end. -/
  | value (first : Bool) (stack : List Frame)
  /-- Before a key; `first` directly after the brace that opens an object, where the object may
  also end. -/
  | key (first : Bool) (members : List (String × Json)) (stack : List Frame)
  /-- Inside a key; `escaped` after a backslash. -/
  | keyBody (escaped : Bool) (body : List Char) (members : List (String × Json))
      (stack : List Frame)
  /-- Between a key and its colon. -/
  | colon (members : List (String × Json)) (key : String) (stack : List Frame)
  /-- Inside a text; `escaped` after a backslash. -/
  | textBody (escaped : Bool) (body : List Char) (stack : List Frame)
  /-- Inside a bare token. -/
  | bare (body : List Char) (stack : List Frame)
  /-- After an item of an array. -/
  | afterItem (items : List Json) (stack : List Frame)
  /-- After a member of an object. -/
  | afterMember (members : List (String × Json)) (stack : List Frame)
  /-- After the outermost object. -/
  | done (members : List (String × Json))

/-- Hands a finished value to the container that waits for it. -/
def deliver (v : Json) : List Frame → Option State
  | [] => none
  | .array items :: stack => some (.afterItem (v :: items) stack)
  | .member members key :: stack => some (.afterMember ((key, v) :: members) stack)

/-- Ends an object: the outermost one ends the text, an inner one is a value. -/
def closeObject (members : List (String × Json)) : List Frame → Option State
  | [] => some (.done members)
  | f :: stack =>
    match nested? members.reverse with
    | none => none
    | some v => deliver v (f :: stack)

/-- Ends an array. -/
def closeArray (items : List Json) (stack : List Frame) : Option State :=
  deliver (.array items.reverse) stack

/-- A character before a value. -/
def stepValue (first : Bool) (stack : List Frame) (c : Char) : Option State :=
  if isSpace c then some (.value first stack)
  else if c = '"' then some (.textBody false [] stack)
  else if c = '\x7b' then
    if stack.length < maxDepth then some (.key true [] stack) else none
  else if c = '[' then
    if stack.length < maxDepth then some (.value true (.array [] :: stack)) else none
  else if c = ']' then
    match first, stack with
    | true, .array items :: rest => closeArray items rest
    | _, _ => none
  else if isBare c then some (.bare [c] stack)
  else none

/-- A character after an item of an array. -/
def stepAfterItem (items : List Json) (stack : List Frame) (c : Char) : Option State :=
  if isSpace c then some (.afterItem items stack)
  else if c = ',' then some (.value false (.array items :: stack))
  else if c = ']' then closeArray items stack
  else none

/-- A character after a member of an object. -/
def stepAfterMember (members : List (String × Json)) (stack : List Frame) (c : Char) :
    Option State :=
  if isSpace c then some (.afterMember members stack)
  else if c = ',' then some (.key false members stack)
  else if c = '\x7d' then closeObject members stack
  else none

/-- A character after a value that its container has just taken. -/
def stepAfter (c : Char) : State → Option State
  | .afterItem items stack => stepAfterItem items stack c
  | .afterMember members stack => stepAfterMember members stack c
  | _ => none

/-- A character before a key. -/
def stepKey (first : Bool) (members : List (String × Json)) (stack : List Frame) (c : Char) :
    Option State :=
  if isSpace c then some (.key first members stack)
  else if c = '"' then some (.keyBody false [] members stack)
  else if c = '\x7d' then if first then closeObject members stack else none
  else none

/-- Ends the body of a key. -/
def endKey (body : List Char) (members : List (String × Json)) (stack : List Frame) :
    Option State :=
  match unescape? body.reverse with
  | none => none
  | some cs => some (.colon members (String.ofList cs) stack)

/-- Ends the body of a text. -/
def endText (body : List Char) (stack : List Frame) : Option State :=
  match unescape? body.reverse with
  | none => none
  | some cs => deliver (.text (String.ofList cs)) stack

/-- Ends a bare token. -/
def endBare (body : List Char) (stack : List Frame) : Option State :=
  match scalar? body.reverse with
  | none => none
  | some v => deliver v stack

/-- Takes one character; none if no object text goes on like this. -/
def step (s : State) (c : Char) : Option State :=
  match s with
  | .start => if c = '\x7b' then some (.key true [] []) else none
  | .value first stack => stepValue first stack c
  | .key first members stack => stepKey first members stack c
  | .keyBody escaped body members stack =>
    if escaped then some (.keyBody false (c :: body) members stack)
    else if c = '"' then endKey body members stack
    else some (.keyBody (c = '\\') (c :: body) members stack)
  | .colon members key stack =>
    if isSpace c then some (.colon members key stack)
    else if c = ':' then some (.value false (.member members key :: stack))
    else none
  | .textBody escaped body stack =>
    if escaped then some (.textBody false (c :: body) stack)
    else if c = '"' then endText body stack
    else some (.textBody (c = '\\') (c :: body) stack)
  | .bare body stack =>
    if isBare c then some (.bare (c :: body) stack)
    else
      match endBare body stack with
      | none => none
      | some s => stepAfter c s
  | .afterItem items stack => stepAfterItem items stack c
  | .afterMember members stack => stepAfterMember members stack c
  | .done members => if isSpace c then some (.done members) else none

/-- Takes the characters in turn. -/
def run (s : State) : List Char → Option State
  | [] => some s
  | c :: cs =>
    match step s c with
    | none => none
    | some s => run s cs

@[simp] theorem run_nil (s : State) : run s [] = some s := rfl

theorem run_cons (s : State) (c : Char) (cs : List Char) :
    run s (c :: cs) = (step s c).bind fun s => run s cs := by
  simp only [run]; cases step s c <;> rfl

/-- Reading a text in two parts is reading it at once. -/
theorem run_append (s : State) (as bs : List Char) :
    run s (as ++ bs) = (run s as).bind fun s => run s bs := by
  induction as generalizing s with
  | nil => rfl
  | cons c cs ih =>
    rw [List.cons_append, run_cons, run_cons]
    cases step s c with
    | none => rfl
    | some s => exact ih s

end Reader

/-- The members of the object that the whole text spells, in ascending order of their keys. -/
def readObject? (cs : List Char) : Option (List (String × Json)) :=
  match Reader.run .start cs with
  | some (.done members) => some (collect members.reverse)
  | _ => none

end Json
end TelemetryLog
