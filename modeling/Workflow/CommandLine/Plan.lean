import Workflow.Backend.Basic
import Workflow.CommandLine.Folder
import Workflow.Http.Client

namespace Workflow.CommandLine

/-!
# Plans

A plan is what a command does: it prints, reads and writes files, and calls the backend, and goes on
as the answers say, until it ends.  Running a plan against a folder and a server in memory gives all
that can be seen of it.
-/

/-- Why a plan failed.  What lies outside this library is named, without its particulars. -/
inductive Failure where
  | settings
  | graph
  | definition
  | importData
  | reading (path : String)
  | writing (path : String)
  /-- The whole text of the failure. -/
  | told (message : String)

/-- The text of a failure; a line that particulars may follow is not ended. -/
def Failure.text (f : Failure) : String :=
  "\nError: " ++ match f with
    | .settings => "Failed to load config"
    | .graph => "Failed to parse graph JSON"
    | .definition => "Failed to parse definition JSON"
    | .importData => "Import failed"
    | .reading path => "Failed to read file '" ++ path ++ "'"
    | .writing path => "Failed to write '" ++ path ++ "'"
    | .told message => message ++ "\n"

/-- How a plan ends. -/
inductive Ending where
  | success
  /-- The command line asks for nothing that can be done. -/
  | misuse
  /-- The graph is invalid, and its report has been printed. -/
  | invalid
  /-- The graph is invalid, so nothing has been printed. -/
  | refused (errors : List String)
  | failed (failure : Failure)
  /-- A fault of the program. -/
  | broken

namespace Ending

/-- The exit code. -/
def code : Ending → Nat
  | .success => 0
  | .misuse => 2
  | .invalid => 2
  | .refused _ => 2
  | .failed _ => 1
  | .broken => 101

/-- What is told of an ending, apart from what the plan prints. -/
def text : Ending → String
  | .success => ""
  | .misuse => "usage error"
  | .invalid => ""
  | .refused errors =>
    "Graph is invalid:\n" ++ String.join (errors.map fun error => "  - " ++ error ++ "\n")
  | .failed failure => failure.text
  | .broken => "panic"

end Ending

/-- What a command does. -/
inductive Plan where
  | done (ending : Ending)
  | print (line : String) (rest : Plan)
  | read (path : String) (next : File → Plan)
  /-- Reads the settings file in its usual place. -/
  | readSettings (next : File → Plan)
  | write (path content : String) (next : Bool → Plan)
  | pause (milliseconds : Nat) (rest : Plan)
  | call (client : Http.Client) (c : Call) (next : c.Reply → Plan)

namespace Plan

/-- A plan that fails. -/
def fail (failure : Failure) : Plan := .done (.failed failure)

/-- Prints some lines. -/
def printAll (lines : List String) (rest : Plan) : Plan := lines.foldr .print rest

/-- Whether a session makes a call before it is done. -/
def callsMore {α : Type} : Session α → Bool
  | .done _ => false
  | .emit _ rest => callsMore rest
  | .call _ _ => true

/-- Carries out a session with a backend, with something done between any two calls; its events are
not shown. -/
def converse {α : Type} (client : Http.Client) (between : Plan → Plan) (session : Session α)
    (next : α → Plan) : Plan :=
  match session with
  | .done value => next value
  | .emit _ rest => converse client between rest next
  | .call c after =>
    .call client c fun reply =>
      let rest := converse client between (after reply) next
      if callsMore (after reply) then between rest else rest

/-- Carries out a session without a break. -/
def consult {α : Type} (client : Http.Client) (session : Session α) (next : α → Plan) : Plan :=
  converse client id session next

/-- How requests are answered by a server in some state. -/
abbrev Transmit (σ : Type) := Http.Request → σ → Option Http.Response × σ

/-- All that can be seen of a plan. -/
structure Outcome (σ : Type) where
  output : String
  ending : Ending
  folder : Folder
  state : σ

/-- Runs a plan in a folder, without a settings file in its usual place.  Pauses take no time. -/
def run {σ : Type} (transmit : Transmit σ) : Plan → Folder → σ → Outcome σ
  | .done ending, folder, state => ⟨"", ending, folder, state⟩
  | .print line rest, folder, state =>
    let after := rest.run transmit folder state
    { after with output := line ++ "\n" ++ after.output }
  | .read path next, folder, state => (next (folder.read path)).run transmit folder state
  | .readSettings next, folder, state => (next .missing).run transmit folder state
  | .write path content next, folder, state =>
    match folder.write? path content with
    | some after => (next true).run transmit after state
    | none => (next false).run transmit folder state
  | .pause _ rest, folder, state => rest.run transmit folder state
  | .call client c next, folder, state =>
    let answered := client.answer transmit c state
    (next answered.1).run transmit folder answered.2

end Plan

end Workflow.CommandLine
