import Tunnel.Error
import Tunnel.Json.Fault

/-!
# Reports

A failure as it is reported to the operator: a cause, and around it what was being done when it
arose, the outermost first.

## Main definitions

* `Cause` — what went wrong in the end
* `Report` — a cause and its surroundings
* `Report.chain` — the texts from the outermost to the innermost
* `Report.render` — the report as it is printed
-/

namespace Tunnel

/-- What went wrong in the end. -/
inductive Cause
  | failure (error : Error)
  | unreadable (fault : Json.Fault)
  | system (error : SystemError)
  | message (text : String)
deriving DecidableEq, Repr

/-- The texts of a cause, the outermost first. -/
def Cause.texts : Cause → List String
  | failure error => error.message :: (error.source.map SystemError.message).toList
  | unreadable fault => [fault.text]
  | system error => [error.message]
  | message text => [text]

/-- A cause, and what was being done when it arose. -/
structure Report where
  /-- The outermost first. -/
  surroundings : List String
  cause : Cause
deriving DecidableEq, Repr

namespace Report

/-- A cause without surroundings. -/
def ofCause (cause : Cause) : Report := ⟨[], cause⟩

/-- The report seen from further out. -/
def within (surrounding : String) (report : Report) : Report :=
  { report with surroundings := surrounding :: report.surroundings }

/-- The texts from the outermost to the innermost. -/
def chain (report : Report) : List String := report.surroundings ++ report.cause.texts

/-- The outermost text. -/
def headline (report : Report) : String := report.chain.headD ""

/-- The text with what follows a line feed moved in by `width`. -/
def indent (width : Nat) (text : List Char) : List Char :=
  text.flatMap fun c => if c = '\n' then '\n' :: List.replicate width ' ' else [c]

/-- A numbered line, the number in a column of five. -/
def numberedLine (n : Nat) (text : String) : List Char :=
  let digits := Text.decimalDigits n
  '\n' :: List.replicate (5 - digits.length) ' ' ++ digits ++ [':', ' '] ++ indent 7 text.toList

/-- What is printed below the outermost text: one text alone, or several with their numbers. -/
def renderCauses : List String → List Char
  | [] => []
  | [text] => "\n\nCaused by:\n    ".toList ++ indent 4 text.toList
  | texts =>
    "\n\nCaused by:".toList ++ (texts.zipIdx.map fun (text, n) => numberedLine n text).flatten

/-- The report as it is printed. -/
def render (report : Report) : String :=
  "Error: " ++ report.headline ++ String.ofList (renderCauses report.chain.tail) ++ "\n"

end Report

end Tunnel
