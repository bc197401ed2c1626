import Workflow.Execution.Status
import Workflow.Text.Radix

namespace Workflow.CommandLine

/-!
# Command lines

A command line names a command, with its arguments and switches in any order.  A switch with a value
takes it from the same argument (`--name=x`, `-n=x`, `-nx`) or is the argument before it; an
argument that starts with a dash is never such a value.  After `--` there are no more switches.
A switch may be given once; only the settings file may be named both before the command and after
it, and then the latter counts.
-/

/-- A command with what it needs. -/
inductive Command where
  | validate (graphPath name : String)
  | compile (graphPath name description : String)
  | reconstruct (definitionPath : String)
  | schemas
  | execute (workflowId : String)
  | status (executionId : String)
  | request (action : ExecutionAction) (executionId : String)
  | watch (executionId : String)
  | executions (workflowId : Option String) (page limit : Nat)
  | exportTo (workflowId outputPath : String)
  | importFrom (path : String) (asTemplate : Bool)
  | toggle (workflowId : String)
  | clone (workflowId : String)
  deriving DecidableEq

/-- A command, and the settings file it is to use. -/
structure Invocation where
  settingsPath : Option String
  command : Command
  deriving DecidableEq

/-- What a command line comes to if it runs no command. -/
inductive Notice where
  | misuse
  | help
  | version
  deriving DecidableEq

/-- A value that a switch or a place takes. -/
abbrev Accepts := String → Bool

/-- A switch; one that takes no value accepts none. -/
structure Switch where
  long : String
  short : Option Char
  accepts : Option Accepts

/-- What a command takes: its switches, and its arguments in their places. -/
structure Form where
  switches : List Switch
  places : List Accepts

/-- What has been found so far; a switch without a value has the empty one. -/
structure Found where
  values : List (String × String)
  arguments : List String

/-- Any text. -/
def anyText : Accepts := fun _ => true

/-- The path of a file, which is not empty. -/
def isPath : Accepts := fun text => !text.isEmpty

/-- A number of 32 bits without sign, as the value of a text. -/
def word? (text : String) : Option Nat :=
  let (negative, digits) :=
    match text.toList with
    | '-' :: rest => (true, rest)
    | '+' :: rest => (false, rest)
    | cs => (false, cs)
  if digits.isEmpty || !digits.all Char.isDigit then none
  else
    match Text.numberIn? 10 digits with
    | some n => if (negative && n ≠ 0) || Nat.pow 2 32 ≤ n then none else some n
    | none => none

/-- A number of 32 bits without sign. -/
def isWord : Accepts := fun text => (word? text).isSome

/-- The switch that every command line takes. -/
def settingsSwitch : Switch := ⟨"config", some 'c', some isPath⟩

/-- The switch that asks for help. -/
def helpSwitch : Switch := ⟨"help", some 'h', none⟩

/-- The switch that asks for the version. -/
def versionSwitch : Switch := ⟨"version", some 'V', none⟩

namespace Found

/-- Nothing found yet. -/
def nothing : Found := ⟨[], []⟩

/-- Takes a switch with its value. -/
def addValue (f : Found) (switch : Switch) (accepts : Accepts) (value : String) :
    Except Notice Found :=
  if !accepts value || (f.values.lookup switch.long).isSome then .error .misuse
  else .ok { f with values := f.values ++ [(switch.long, value)] }

/-- Takes a switch that has no value. -/
def addFlag (f : Found) (switch : Switch) : Except Notice Found :=
  if switch.long = "help" then .error .help
  else if switch.long = "version" then .error .version
  else f.addValue switch anyText ""

/-- Takes an argument in the next free place. -/
def addArgument (f : Found) (places : List Accepts) (argument : String) : Except Notice Found :=
  match places[f.arguments.length]? with
  | some accepts =>
    if accepts argument then .ok { f with arguments := f.arguments ++ [argument] }
    else .error .misuse
  | none => .error .misuse

/-- Takes arguments one after the other. -/
def addArguments (f : Found) (places : List Accepts) (arguments : List String) :
    Except Notice Found :=
  arguments.foldlM (fun found argument => found.addArgument places argument) f

end Found

/-- Starts with a dash, and is more than a dash. -/
def isDashed (argument : String) : Bool :=
  match argument.toList with
  | '-' :: _ :: _ => true
  | _ => false

/-- Takes the letters after a single dash.  One that needs a value and has none is given back. -/
def takeLetters (switches : List Switch) (f : Found) :
    List Char → Except Notice (Found × Option (Switch × Accepts))
  | [] => .ok (f, none)
  | c :: rest =>
    match switches.find? (·.short == some c) with
    | none => .error .misuse
    | some switch =>
      match switch.accepts with
      | none => (f.addFlag switch).bind fun found => takeLetters switches found rest
      | some accepts =>
        match rest with
        | [] => .ok (f, some (switch, accepts))
        | '=' :: value => (f.addValue switch accepts (String.ofList value)).map (·, none)
        | value => (f.addValue switch accepts (String.ofList value)).map (·, none)

/-- Takes a switch after two dashes.  A switch that needs a value and has none is given back. -/
def takeLong (switches : List Switch) (f : Found) (cs : List Char) :
    Except Notice (Found × Option (Switch × Accepts)) :=
  let name := cs.takeWhile (· ≠ '=')
  let value? :=
    match cs.drop name.length with
    | [] => none
    | _ :: value => some (String.ofList value)
  match switches.find? (·.long == String.ofList name) with
  | none => .error .misuse
  | some switch =>
    match switch.accepts, value? with
    | some accepts, some value => (f.addValue switch accepts value).map (·, none)
    | some accepts, none => .ok (f, some (switch, accepts))
    | none, some _ => .error .misuse
    | none, none => (f.addFlag switch).map (·, none)

/-- Takes an argument that starts with a dash. -/
def takeDashed (switches : List Switch) (f : Found) (argument : String) :
    Except Notice (Found × Option (Switch × Accepts)) :=
  match argument.toList with
  | '-' :: '-' :: name => takeLong switches f name
  | _ :: letters => takeLetters switches f letters
  | [] => .error .misuse

/-- Takes the arguments of a command. -/
def takeAll (form : Form) (f : Found) : List String → Except Notice Found
  | [] => .ok f
  | argument :: rest =>
    if argument = "--" then f.addArguments form.places rest
    else if isDashed argument then
      match takeDashed form.switches f argument with
      | .error notice => .error notice
      | .ok (found, none) => takeAll form found rest
      | .ok (found, some (switch, accepts)) =>
        match rest with
        | [] => .error .misuse
        | value :: others =>
          if isDashed value then .error .misuse
          else
            match found.addValue switch accepts value with
            | .error notice => .error notice
            | .ok after => takeAll form after others
    else
      match f.addArgument form.places argument with
      | .error notice => .error notice
      | .ok found => takeAll form found rest

/-- Takes the switches before the command; gives the command and what follows it. -/
def takeBefore (switches : List Switch) (f : Found) :
    List String → Except Notice (Found × String × List String)
  | [] => .error .misuse
  | argument :: rest =>
    if argument = "--" then .error .misuse
    else if isDashed argument then
      match takeDashed switches f argument with
      | .error notice => .error notice
      | .ok (found, none) => takeBefore switches found rest
      | .ok (found, some (switch, accepts)) =>
        match rest with
        | [] => .error .misuse
        | value :: others =>
          if isDashed value then .error .misuse
          else
            match found.addValue switch accepts value with
            | .error notice => .error notice
            | .ok after => takeBefore switches after others
    else .ok (f, argument, rest)

/-- The name of a workflow. -/
def nameSwitch : Switch := ⟨"name", some 'n', some anyText⟩

/-- The form of a command that takes one id. -/
def idForm : Form := ⟨[], [anyText]⟩

/-- The form of a command, if it is known. -/
def form? (command : String) : Option Form :=
  match command with
  | "validate" => some ⟨[nameSwitch], [isPath]⟩
  | "compile" => some ⟨[nameSwitch, ⟨"description", some 'd', some anyText⟩], [isPath]⟩
  | "reconstruct" => some ⟨[], [isPath]⟩
  | "schemas" => some ⟨[], []⟩
  | "execute" => some idForm
  | "status" => some idForm
  | "pause" => some idForm
  | "resume" => some idForm
  | "cancel" => some idForm
  | "watch" => some idForm
  | "executions" =>
    some ⟨[⟨"workflow", some 'w', some anyText⟩, ⟨"page", none, some isWord⟩,
      ⟨"limit", none, some isWord⟩], []⟩
  | "export" => some ⟨[⟨"output", some 'o', some isPath⟩], [anyText]⟩
  | "import" => some ⟨[⟨"as-template", none, none⟩], [isPath]⟩
  | "toggle" => some idForm
  | "clone" => some idForm
  | _ => none

/-- The number of a switch, or its default. -/
def numberOf (f : Found) (name : String) (default : Nat) : Nat :=
  ((f.values.lookup name).bind word?).getD default

/-- The command that a form has been filled in for; none if something is missing. -/
def command? (name : String) (f : Found) : Option Command := do
  match name with
  | "validate" => return .validate (← f.arguments[0]?) (← f.values.lookup "name")
  | "compile" =>
    return .compile (← f.arguments[0]?) (← f.values.lookup "name")
      ((f.values.lookup "description").getD "")
  | "reconstruct" => return .reconstruct (← f.arguments[0]?)
  | "schemas" => return .schemas
  | "execute" => return .execute (← f.arguments[0]?)
  | "status" => return .status (← f.arguments[0]?)
  | "pause" => return .request .pause (← f.arguments[0]?)
  | "resume" => return .request .resume (← f.arguments[0]?)
  | "cancel" => return .request .cancel (← f.arguments[0]?)
  | "watch" => return .watch (← f.arguments[0]?)
  | "executions" =>
    return .executions (f.values.lookup "workflow") (numberOf f "page" 1) (numberOf f "limit" 20)
  | "export" => return .exportTo (← f.arguments[0]?) (← f.values.lookup "output")
  | "import" => return .importFrom (← f.arguments[0]?) (f.values.lookup "as-template").isSome
  | "toggle" => return .toggle (← f.arguments[0]?)
  | "clone" => return .clone (← f.arguments[0]?)
  | _ => none

/-- What is asked for after the word `help`: help in general or on one command. -/
def helpNotice : List String → Notice
  | [] => .help
  | [topic] => if topic = "help" ∨ (form? topic).isSome then .help else .misuse
  | _ => .misuse

/-- What a command line asks for. -/
def parse (arguments : List String) : Except Notice Invocation := do
  let (before, name, rest) ←
    takeBefore [settingsSwitch, helpSwitch, versionSwitch] .nothing arguments
  match form? name with
  | some form =>
    let switches := form.switches ++ [settingsSwitch, helpSwitch]
    let found ← takeAll { form with switches := switches } .nothing rest
    match command? name found with
    | some command =>
      let path := (found.values.lookup "config").or (before.values.lookup "config")
      return ⟨path, command⟩
    | none => throw .misuse
  | none => throw (if name = "help" then helpNotice rest else .misuse)

end Workflow.CommandLine
