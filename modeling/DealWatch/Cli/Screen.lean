import DealWatch.Database
import DealWatch.Text.Markup

/-!
# The screen

A command prints lines and tables. Their texts are marked up; what appears is the text without its
marks.

* `Printed` is what appears on the screen;
* `CommandAct` is a step of a command: it works with the store, prints, and can end the command
  early with a status.
-/

namespace DealWatch

/-- Something on the screen. -/
inductive Printed where
  | line (text : String)
  | table (title : String) (columns : List String) (rows : List (List String))
  deriving DecidableEq, Repr, Inhabited

/-- What appears as lines of text. The cells of a row stand next to each other. -/
def Printed.lines : Printed → List String
  | .line text => [text]
  | .table title columns rows => title :: (columns :: rows).map (" | ".intercalate ·)

/-- The state of a command: the store and what was printed. -/
structure Session where
  database : Database
  printed : List Printed
  deriving Repr, Inhabited

/-- The state at the start of a command. -/
def Session.start : Session := ⟨.closed, []⟩

/-- How a command ends that does not end with a failure. -/
abbrev ExitStatus := Nat

/-- A step of a command. -/
abbrev CommandAct := ExceptT ExitStatus (Act Session)

namespace CommandAct

variable {α : Type}

/-- The result of a step: a failure, the status with which it ended the command, or a value. -/
def runWith (act : CommandAct α) (s : Session) (o : Outside) :
    Outcome (Except ExitStatus α) × Session × Outside :=
  Act.runWith (ExceptT.run act) s o

/-- A step that cannot end the command. -/
def ofAct (act : Act Session α) : CommandAct α := ExceptT.lift act

/-- A step of the store. -/
def onDatabase (act : Act Database α) : CommandAct α :=
  ofAct (act.within (·.database) fun d s => { s with database := d })

/-- Ends the command because something is wrong. -/
def quit : CommandAct α := throw 1

/-- A marked text as it appears. -/
def rendered (markup : String) : Outcome String :=
  match Markup.render markup with
  | .ok s => .ok s
  | .error fault => .error (.badMarkup fault)

/-- Puts something on the screen. -/
def print (p : Printed) : Act Session Unit := do
  let s ← Act.state
  Act.put { s with printed := s.printed ++ [p] }

/-- Prints a line. -/
def say (markup : String) : CommandAct Unit := ofAct do
  print (.line (← Act.ofOutcome (rendered markup)))

/-- Prints a table. -/
def showTable (title : String) (columns : List String) (rows : List (List String)) :
    CommandAct Unit := ofAct do
  let cells ← Act.ofOutcome (rows.mapM fun row => row.mapM rendered)
  print (.table title columns cells)

end CommandAct

end DealWatch
