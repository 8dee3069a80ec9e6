import Tunnel.Program.Run

/-!
# The executable

The program on the host it runs on: arguments, environment and files are the host's. No system calls
for tunnel devices are bound here, so the allocator is the one of a platform without them, and a
session ends where its interface would be made: no interrupt is ever waited for.
-/

open Tunnel

/-- Why the host could not give a file. -/
def hostFailure : IO.Error → SystemError
  | .noFileOrDirectory _ code _ => .number code.toNat
  | .permissionDenied _ code _ => .number code.toNat
  | .inappropriateType _ code _ => .number code.toNat
  | other => .custom (toString other)

/-- The text at a path of the host. -/
def hostText (path : String) : IO (Except SystemError String) := do
  try
    let content ← IO.FS.readBinFile path
    match String.fromUTF8? content with
    | some text => return .ok text
    | none => return .error (.custom "stream did not contain valid UTF-8")
  catch failure => return .error (hostFailure failure)

def main (args : List String) : IO UInt32 := do
  let text ← match CommandLine.parse args with
    | .run path _ => hostText path
    | _ => pure (.error (.custom "no file was asked for"))
  let environment : Program.Environment := {
    logFilter := ← IO.getEnv "RUST_LOG"
    logLevel := ← IO.getEnv "RUST_LOG_LEVEL"
    readText := fun _ => text }
  let (result, ()) :=
    Program.invoke environment Allocator.unsupported RouteBackend.unsupported (pure (.ok ()))
      args ()
  IO.print result.output
  IO.eprint result.complaint
  return UInt32.ofNat result.exitCode
