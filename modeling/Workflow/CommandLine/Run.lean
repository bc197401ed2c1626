import Workflow.CommandLine.Arguments
import Workflow.CommandLine.Listing
import Workflow.CommandLine.Plan
import Workflow.Definition.Reconstruct
import Workflow.Execution.Tracker
import Workflow.Validation

namespace Workflow.CommandLine

/-!
# What commands do

Every command first loads the settings.  Local commands read a file and print a JSON text; the
others call the backend and print what came of it.
-/

namespace Plan

/-- Reads a file that must be there. -/
def readText (path : String) (next : String → Plan) : Plan :=
  .read path fun
    | .text content => next content
    | _ => fail (.reading path)

/-- Goes on with a reply, or tells why there is none. -/
def expect {α : Type} (fallback : String) (reply : Except ClientError α) (next : α → Plan) : Plan :=
  match reply with
  | .ok value => next value
  | .error e => fail (.told (e.userMessage fallback))

/-- Makes a call, and goes on with its result. -/
def demand (client : Http.Client) (c : Call) (fallback : String) (next : c.Result → Plan) : Plan :=
  .call client c fun reply => expect fallback reply next

/-- Prints one line, and ends. -/
def finish (line : String) : Plan := .print line (.done .success)

/-- Reads a graph. -/
def readGraph (path : String) (next : Graph → Plan) : Plan :=
  readText path fun content =>
    match Graph.decoder.ofText content with
    | .ok g => next g
    | .error _ => fail .graph

/-- Prints the report of a graph. -/
def validate (path name : String) : Plan :=
  readGraph path fun g =>
    let report := Validation.validate .builtIn name g
    .print report.toJson.indented (.done (if report.isValid then .success else .invalid))

/-- Prints the definition of a graph, if it is valid. -/
def compile (path name description : String) : Plan :=
  readGraph path fun g =>
    let draft : Draft := ⟨name, description, g⟩
    let report := Validation.validate .builtIn name g
    if !report.isValid then .done (.refused report.errors)
    else
      match draft.compile with
      | .ok definition => finish definition.toJson.indented
      | .error e => fail (.told ("Compilation failed: " ++ e.message))

/-- Prints the graph of a definition. -/
def reconstruct (path : String) : Plan :=
  readText path fun content =>
    match Definition.decoder.ofText content with
    | .ok definition => finish definition.reconstruct.toJson.indented
    | .error _ => fail .definition

/-- Asks for an action on an execution. -/
def request (client : Http.Client) (action : ExecutionAction) (id : String) : Plan :=
  consult client (Tracker.load id) fun loaded =>
    expect "Failed to load execution" loaded fun tracker =>
      consult client (tracker.request action) fun
        | (_, .ok status) => finish ("Execution " ++ id ++ " is " ++ status.name)
        | (_, .error (.backend e)) =>
          fail (.told (e.userMessage ("Failed to " ++ action.name ++ " execution")))
        | (_, .error e) => fail (.told e.message)

/-- Waits until an execution has ended, and prints it.  Without an interval there is no waiting. -/
def watch (client : Http.Client) (polls interval : Nat) (id : String) : Plan :=
  consult client (Tracker.load id) fun loaded =>
    expect "Failed to load execution" loaded fun tracker =>
      if interval = 0 then .done .broken
      else
        converse client (.pause interval) (tracker.waitUntilTerminal polls) fun
          | (after, some result) =>
            expect "Failed to poll execution" result fun status =>
              .print ("Execution " ++ id ++ " finished: " ++ status.name)
                (printAll (executionLines after.shown) (.done .success))
          | (_, none) => .done .broken

/-- Writes a stored workflow to a file. -/
def exportTo (client : Http.Client) (id path : String) : Plan :=
  demand client (.exportWorkflow id) "Failed to export workflow" fun (data : Json) =>
    .write path data.indented fun written =>
      if written then finish ("Exported workflow " ++ id ++ " to '" ++ path ++ "'")
      else fail (.writing path)

/-- Imports a workflow from a file. -/
def importFrom (client : Http.Client) (path : String) (asTemplate : Bool) : Plan :=
  readText path fun content =>
    match Decoder.any.ofText content with
    | .error _ => fail .importData
    | .ok data =>
      demand client (.importWorkflow (.of data asTemplate)) "Failed to import workflow"
        fun (id : String) => finish id

/-- What a command does with its settings, polling at most so many times. -/
def ofCommand (polls : Nat) (settings : Settings) (command : Command) : Plan :=
  let client := Http.Client.new settings.baseUrl settings.token
  match command with
  | .validate path name => validate path name
  | .compile path name description => compile path name description
  | .reconstruct path => reconstruct path
  | .schemas => printAll (schemaLines .builtIn) (.done .success)
  | .execute id =>
    demand client (.executeWorkflow id) "Failed to start workflow" fun (e : String) => finish e
  | .status id =>
    demand client (.getExecution id) "Failed to load execution" fun (e : Execution) =>
      printAll (executionLines e) (.done .success)
  | .request action id => request client action id
  | .watch id => watch client polls settings.interval id
  | .executions workflowId page limit =>
    let filter : ExecutionFilter :=
      ⟨workflowId, none, some (UInt32.ofNat page), some (UInt32.ofNat limit)⟩
    demand client (.listExecutions filter) "Failed to list executions" fun (p : ExecutionPage) =>
      printAll (p.executions.map executionLine) (.done .success)
  | .exportTo id path => exportTo client id path
  | .importFrom path asTemplate => importFrom client path asTemplate
  | .toggle id =>
    demand client (.toggleWorkflow id) "Failed to toggle workflow" fun (active : Bool) =>
      finish ("Workflow " ++ id ++ " is now " ++ if active then "active" else "inactive")
  | .clone id =>
    demand client (.cloneWorkflow id) "Failed to clone workflow" fun (copy : String) => finish copy

/-- Goes on with settings, if there are any. -/
def withSettings (settings : Except SettingsError Settings) (next : Settings → Plan) : Plan :=
  match settings with
  | .ok s => next s
  | .error _ => fail .settings

/-- Loads the settings, and then carries out the command. -/
def ofInvocation (polls : Nat) (environment : String → Option String) (i : Invocation) : Plan :=
  match i.settingsPath with
  | some path => .read path fun file =>
    withSettings (Settings.ofFile environment file) fun s => ofCommand polls s i.command
  | none => .readSettings fun file =>
    withSettings (Settings.ofOptionalFile environment file) fun s => ofCommand polls s i.command

/-- The commands, in one line each. -/
def helpLines : List String :=
  ["Commands: validate, compile, reconstruct, schemas, execute, status, pause, resume, cancel,",
    "  watch, executions, export, import, toggle, clone"]

/-- What a command line does. -/
def ofArguments (polls : Nat) (environment : String → Option String) (arguments : List String) :
    Plan :=
  match parse arguments with
  | .ok invocation => ofInvocation polls environment invocation
  | .error .misuse => .done .misuse
  | .error .help => printAll helpLines (.done .success)
  | .error .version => finish "wireflow 0.1.0"

end Plan

end Workflow.CommandLine
