import TelemetryLog.Json.Number
import TelemetryLog.Json.Quoted

/-!
# JSON values and their text

A value holds numbers digit for digit and the members of an object in the order of their keys, one
per key, so that two texts with the same meaning have the same value.  `render` writes the compact
text of a value.

## What is here

* `Json` — the values.
* `Json.insert`, `Json.collect` — members by key; of members with one key the last stays.
* `Json.render` — the compact text.

Keys are compared by code points, which is also the order of their bytes in UTF-8.  That the members
of an object are in order is not part of the type: a value that was read always has it, and where a
proof needs it the value is `Shaped` (`Proofs.Json.Rendering`), which says at the same time how deep
it may be.
-/

set_option autoImplicit false

namespace TelemetryLog

/-- A JSON value. -/
inductive Json where
  /-- The value `null`. -/
  | null
  /-- A truth value. -/
  | bool (b : Bool)
  /-- A number, digit for digit. -/
  | number (n : Json.Number)
  /-- A text. -/
  | text (s : String)
  /-- Items in order. -/
  | array (items : List Json)
  /-- Members in ascending order of their keys. -/
  | object (members : List (String × Json))
deriving Repr, Inhabited

namespace Json

/-! ## Members by key -/

/-- Puts a member at the place of its key, which it takes over if the key is there already. -/
def insert (key : String) (value : Json) : List (String × Json) → List (String × Json)
  | [] => [(key, value)]
  | m :: ms =>
    if key < m.1 then (key, value) :: m :: ms
    else if key = m.1 then (key, value) :: ms
    else m :: insert key value ms

/-- The members in ascending order of their keys; of members with one key the last stays. -/
def collect (members : List (String × Json)) : List (String × Json) :=
  members.foldl (fun sorted m => insert m.1 m.2 sorted) []

/-- The value of a key. -/
def find? (key : String) (members : List (String × Json)) : Option Json :=
  (members.find? fun m => m.1 == key).map Prod.snd

/-! ## Compact text -/

mutual

/-- The compact text of a value. -/
def render : Json → List Char
  | .null => ['n', 'u', 'l', 'l']
  | .bool true => ['t', 'r', 'u', 'e']
  | .bool false => ['f', 'a', 'l', 's', 'e']
  | .number n => n.text
  | .text s => quote s.toList
  | .array items => '[' :: (renderItems items ++ [']'])
  | .object members => '\x7b' :: (renderMembers members ++ ['\x7d'])

/-- The texts of the items, separated by commas. -/
def renderItems : List Json → List Char
  | [] => []
  | [v] => render v
  | v :: w :: more => render v ++ (',' :: renderItems (w :: more))

/-- The texts of the members, separated by commas. -/
def renderMembers : List (String × Json) → List Char
  | [] => []
  | [(k, v)] => quote k.toList ++ (':' :: render v)
  | (k, v) :: m :: more =>
    quote k.toList ++ (':' :: (render v ++ (',' :: renderMembers (m :: more))))

end

/-- The compact text of a value. -/
def renderText (v : Json) : String := String.ofList (render v)

end Json
end TelemetryLog
