import TelemetryLog.Fault
import TelemetryLog.Settings.Load

/-!
# Reports

The last words of a program that failed: what it could not do, and the chain of causes behind that.

A chain goes from what was attempted to what is at the bottom of it, and each cause is given in
full, although the message of a fault often ends with that of its cause; so the same words may be
there twice.  Causes of several lines, such as those that quote a place in the settings, are
indented as far as their number.

## What is here

* `Fault.chain`, `LoadFault.chain` — a fault in words, followed by what lies behind it.
* `Report`, `Report.render` — the report.  Causes are numbered if there are several.
-/

set_option autoImplicit false

namespace TelemetryLog

/-- A fault in words, followed by what lies behind it. -/
def Fault.chain (f : Fault) : List String :=
  f.message ::
    match f with
    | .csv cause => [cause.message]
    | .file cause => [cause.message]
    | _ => []

/-- A fault in words, followed by what lies behind it. -/
def LoadFault.chain (f : LoadFault) : List String := [f.message, f.detail]

/-- What could not be done, and why. -/
structure Report where
  /-- What could not be done. -/
  what : String
  /-- The causes, the nearest first. -/
  causes : List String
deriving DecidableEq, Repr

namespace Report

/-- The report that consists of a chain of causes. -/
def ofChain : List String → Report
  | [] => ⟨"", []⟩
  | what :: causes => ⟨what, causes⟩

/-- A text whose further lines are indented. -/
def indented (margin : String) (s : String) : String :=
  String.ofList (s.toList.flatMap fun c => if c = '\n' then '\n' :: margin.toList else [c])

/-- A number in five places. -/
def numbered (n : Nat) : String :=
  String.ofList (List.replicate (5 - (toString n).length) ' ') ++ toString n ++ ": "

/-- Numbered causes, from `n` on. -/
def causeLines (n : Nat) : List String → String
  | [] => ""
  | c :: cs => "\n" ++ numbered n ++ indented "       " c ++ causeLines (n + 1) cs

/-- The causes, numbered if there are several. -/
def causesText : List String → String
  | [] => ""
  | [c] => "\n\nCaused by:\n    " ++ indented "    " c
  | cs => "\n\nCaused by:" ++ causeLines 0 cs

/-- The report as it is printed. -/
def render (r : Report) : String := "Error: " ++ r.what ++ causesText r.causes ++ "\n"

end Report
end TelemetryLog
