import GatewayRules.CommandLine.Command

/-
  The program.  It reaches the gateway through a relay on its
  standard streams: every line of standard input is a datagram
  from the gateway, and every request is a line of standard
  error, both in hexadecimal.

  Key definitions include:
    * `main`
-/

open GatewayRules

namespace GatewayRules

namespace Program

/- The interfaces of the system, as far as they are listed. -/
def interfaces : IO (List (Interface.Name × Interface.Index)) := do
  let listing ← IO.FS.realPath "/sys/class/net"
  let mut found := []
  for item in ← listing.readDir do
    let number ← IO.FS.readFile (item.path / "ifindex")
    let index := Interface.Index.ofText? number.trimAscii.toString.toList
    let name := Interface.Name.ofText item.fileName.toList
    match name, index with
    | .ok name, some index => found := (name, index) :: found
    | _, _ => pure ()
  return found

/- The datagrams that the relay delivers. -/
partial def datagrams
    (input : IO.FS.Stream) : IO (List ReceiveResult) := do
  let line ← input.getLine
  if line.isEmpty then
    return []
  else
    match Hex.decode line.trimAscii.toString.toList with
    | .ok bytes => return .datagram bytes :: (← datagrams input)
    | .error _ => datagrams input

/- Print what a run shows. -/
def report (outcome : CommandOutcome) : IO UInt32 := do
  for request in outcome.requests do
    IO.eprintln (String.ofList (Hex.bytes .lower request))
  IO.print outcome.output
  IO.eprint outcome.errorOutput
  return UInt32.ofNat outcome.exitStatus

end Program

end GatewayRules

def main (arguments : List String) : IO UInt32 := do
  match Command.ofArguments arguments with
  | .error halt => Program.report (CommandOutcome.ofHalt halt)
  | .ok command =>
      let directory :=
        Interface.Directory.ofList (← Program.interfaces)
      let receives ← Program.datagrams (← IO.getStdin)
      Program.report (command.run directory { receives })
