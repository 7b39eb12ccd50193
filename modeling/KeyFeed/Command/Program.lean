/-
This file is the whole program: it reads the command line and the script, opens a
session, sends the script, forwards keys, and says by its status how that ended.
The first failure decides the status; without one, a fault of the listener does.
-/

import KeyFeed.Command.Usage
import KeyFeed.Session

namespace KeyFeed.Command

open KeyFeed.Run KeyFeed.Script

/-- The statuses that the program ends with. -/
inductive Status where
  | done
  | usage
  | linkUnavailable
  | scriptUnreadable
  | badDirective
  | linkFault
  | noConsole
  | interrupted
  deriving Repr, DecidableEq

/-- The number of a status. -/
def Status.code : Status → Nat
  | done => 0
  | usage => 2
  | linkUnavailable => 3
  | scriptUnreadable => 4
  | badDirective => 5
  | linkFault => 6
  | noConsole => 7
  | interrupted => 130

/-- Prints a line. -/
def say (line : String) : Run Unit := record (.printed (line ++ "\n"))

/-- Reports a failure, and ends with the status. -/
def endWith (status : Status) (message : String) : Run Status := do
  record (.reported (message ++ "\n"))
  return status

/-- Prints the help text. -/
def printHelp (ports : List Link.PortInfo) : Run Unit := do
  record (.printed (← orFail (fun flaw => .template flaw) (help ports)))

/-- The options, or the status with which the program ends because there are none. -/
def readOptions (ports : List Link.PortInfo) (arguments : List String) :
    Run (Except Status Options) :=
  match readArguments arguments with
  | .ok options => return .ok options
  | .error .help => do
    printHelp ports
    return .error .done
  | .error (.refused error) => do
    record (.reported error.report)
    return .error .usage

/-- The script of the options, if they name one. -/
def scriptOf (opening : Opening) (options : Options) :
    Except SourceRefusal (Option (String × List Char)) :=
  match options.file with
  | none => .ok none
  | some path =>
    if path = "" then .ok none else (loadScript opening path).map fun text => some (path, text)

/-- The status and the message for a failure that ends a session in good order. -/
def verdict : Failure → Option (Status × String)
  | .directive refusal => some (.badDirective, s!"Bad directive: {refusal.message}")
  | .link fault => some (.linkFault, s!"Link failure: {fault.message}")
  | .consoleUnavailable reason =>
    some (.noConsole,
      s!"Cannot enter interactive mode: {(Failure.consoleUnavailable reason).message}")
  | .interrupted _ => some (.interrupted, "Interrupted")
  | _ => none

/-- Sends the script, if there is one. -/
def sendFile (options : Options) (script : Option (String × List Char)) : Run Unit :=
  match script with
  | none => pure ()
  | some (path, text) => do
    say s!"Sending file [{path}]"
    options.sender.sendScript .output text options.again.isSome
    say "!!! END OF FILE"

/-- Forwards keys, unless the options forbid it. -/
def forwardKeys (options : Options) : Run Unit :=
  if options.noInteractive then pure ()
  else do
    say "INTERACTIVE MODE: press ESC or CTRL+C to exit"
    Session.interact options.sender

/-- Sends the script and forwards keys, as far as the options ask for it. -/
def work (options : Options) (script : Option (String × List Char)) : Run Unit := do
  sendFile options script
  forwardKeys options

/-- Works, and reports a failure that ends the session in good order. -/
def workOrReport (options : Options) (script : Option (String × List Char)) :
    Run (Option Status) := do
  match ← attempt (work options script) with
  | .ok () => return none
  | .error failure =>
    match verdict failure with
    | none => fail failure
    | some (status, message) => return some (← endWith status message)

/-- The status of a session that was closed in good order. -/
def finalStatus : Run Status := do
  let rig ← look
  match rig.listener.fault? with
  | none => return .done
  | some fault => endWith .linkFault s!"Link failure: {fault.message}"

/-- Reports a port that cannot be opened, with the ports there are if it is not one of them. -/
def reportUnavailable (reason port : String) : Run Status := do
  if ← Link.isAvailable port then endWith .linkUnavailable reason
  else
    let names := Link.portNames (← Link.findPorts)
    endWith .linkUnavailable s!"{reason}\nPort {port} not found. Available ports: {names}"

/-- The settings of the link in the options. -/
def settingsOf (options : Options) : Run Link.Settings :=
  match options.settings? with
  | some settings => done settings
  | none => fail .blankHandshake

/-- Opens a session, works in it, and closes it however that ends. -/
def holdSession (options : Options) (script : Option (String × List Char)) : Run Status := do
  match ← attempt Session.openSession with
  | .error (.linkUnavailable reason port) => reportUnavailable reason port
  | .error failure => fail failure
  | .ok () =>
    match ← ensuring (workOrReport options script) Session.closeSession with
    | some status => return status
    | none => finalStatus

/-- Runs a session with the options. -/
def runSession (options : Options) (script : Option (String × List Char)) : Run Status := do
  let settings ← settingsOf options
  log .debug s!"Link settings: {settings.full}"
  change fun rig => { rig with settings := settings }
  holdSession options script

/-- The rig that the program starts with. Echoed text goes to the standard output. -/
def start (plan : Plan) (finalArrivals : List Arrival) (batches : List (List Keystroke)) : Rig :=
  { plan := plan, settings := { port := "" }, sink := .output, finalArrivals := finalArrivals,
    batches := batches }

/-- Runs the program with its arguments. -/
def run (opening : Opening) (arguments : List String) : Run Status := do
  let ports ← Link.findPorts
  if arguments.isEmpty then
    printHelp ports
    return .usage
  else
    match ← readOptions ports arguments with
    | .error status => return status
    | .ok options => do
      record (.loggingStarted (if options.verbose then .debug else .warning))
      match scriptOf opening options with
      | .error .nulInPath => fail (.source .nulInPath)
      | .error refusal =>
        endWith .scriptUnreadable
          s!"Unable to open or buffer the specified input file.\n{refusal.message}"
      | .ok script => runSession options script

end KeyFeed.Command
