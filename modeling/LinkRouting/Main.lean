import LinkRouting.Cli.Run

namespace LinkRouting.Cli

def usage : String :=
  "usage: [-c FILE] route URL [-p KEY=VALUE]...\n" ++
    "       [-c FILE] check URL\n" ++
    "       [-c FILE] expand PATTERN\n" ++
    "       [-c FILE] list"

def readText? (path : String) : IO (Option String) := do
  try
    let text ← IO.FS.readFile path
    return some text
  catch _ =>
    return none

def logLine (format : Config.LogFormat) (event : Log.Event) : String :=
  match format with
  | .pretty => event.level.name ++ " " ++ event.origin ++ ": " ++ event.text
  | .json =>
      (Json.ofMembers
        [("level", .text event.level.name), ("fields", event.toJson),
          ("target", .text event.origin)]).render

def perform (invocation : Invocation) : IO UInt32 := do
  let document ←
    match invocation.config with
    | none => pure none
    | some path => readText? path
  let environment ← IO.getEnv "RUST_LOG"
  let transcript := invocation.run (fun _ => document) environment
  for event in transcript.log do
    IO.eprintln (logLine transcript.format event)
  IO.print transcript.output
  if let some failure := transcript.failure then
    IO.eprintln ("Error: " ++ Text.quoted failure.message)
  return transcript.exitCode.toUInt32

def execute (arguments : List String) : IO UInt32 := do
  match Invocation.ofArguments? arguments with
  | some invocation => perform invocation
  | none =>
      IO.eprintln usage
      return 2

end LinkRouting.Cli

def main (arguments : List String) : IO UInt32 :=
  LinkRouting.Cli.execute arguments
