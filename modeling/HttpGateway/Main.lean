/-
The command line: loads settings, checks them, and serves requests that are read from the standard
input, one `METHOD target` a line. No backend is reachable from here.
-/
import HttpGateway.CommandLine
import HttpGateway.Lifecycle.Startup
import HttpGateway.Simulation.GatewayRun

open HttpGateway

/-- The settings that the options name. -/
def settingsFor (o : Options) : IO (Except Settings.LoadError Settings) := do
  match o.config with
  | none => return .ok {}
  | some path =>
    let file ← try pure (some (← IO.FS.readBinFile path)) catch _ => pure none
    return Settings.load file

/-- A line as a request. -/
def requestOf? (line : String) : Option Request.Incoming :=
  match line.toList.splitOn ' ' with
  | [method, target] =>
    match Http.Target.parse (Text.trim target) with
    | .ok target => some ⟨String.ofList method, target, .empty, .ok Http.emptyBody, ⟨.loopback, 0⟩⟩
    | .error _ => none
  | _ => none

/-- Serves the requests on the standard input. -/
partial def serveLines (input : IO.FS.Stream) (r : Simulation.GatewayRun) : IO Unit := do
  let line ← input.getLine
  if line.isEmpty then return
  match requestOf? line with
  | none =>
    IO.println "not a request"
    serveLines input r
  | some request =>
    let (answer, r) := r.serve request
    if let some answer := answer then
      IO.println (toString answer.status.code ++ " " ++ (String.fromUTF8? answer.body).getD "")
    serveLines input r

/-- Ends with an error. -/
def failWith (message : String) : IO UInt32 := do
  IO.eprintln ("Error: " ++ message)
  return 1

def main (arguments : List String) : IO UInt32 := do
  match Options.read arguments with
  | .error e => failWith e.message
  | .ok options =>
    match ← settingsFor options with
    | .error e => failWith e.message
    | .ok s =>
      IO.eprintln (Observe.logDirectives (options.logLevel.getD s.observability.logLevel))
      match Lifecycle.build s .builtin (fun _ => 0) with
      | .error e => failWith e.message
      | .ok g =>
        if options.checkOnly then IO.println "Configuration is valid"
        else
          serveLines (← IO.getStdin)
            (.create s g { isUp := false, backends := .empty } "00000000-0000-4000-8000-000000000000")
        return 0
