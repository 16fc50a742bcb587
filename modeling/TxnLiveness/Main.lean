import TxnLiveness.Sim.Run
/-!
# Command line

Runs a simulation, prints the counters and writes the full report where asked to.
-/

namespace TxnLiveness

def usage : String :=
  "usage: run [--shards N] [--txns N] [--nodes N] [--tick DURATION]\n" ++
    "           [--remote-timeout DURATION] [--latency DURATION] [--duration DURATION]\n" ++
    "           [--failure-pct PERCENT] [--seed N] [--out FILE]"

/-- The variables that hold settings. -/
def settingVars : List String := [Settings.tickVar, Settings.timeoutVar, Settings.fanoutVar]

/-- What the operating system said of a failure. -/
def osFault : IO.Error → OsFault
  | .alreadyExists _ code text | .otherError code text | .resourceBusy code text
  | .resourceVanished code text | .unsupportedOperation code text | .hardwareFault code text
  | .unsatisfiedConstraints code text | .illegalOperation code text | .protocolError code text
  | .timeExpired code text | .interrupted _ code text | .noFileOrDirectory _ code text
  | .invalidArgument _ code text | .permissionDenied _ code text | .resourceExhausted _ code text
  | .inappropriateType _ code text | .noSuchThing _ code text => ⟨text, code.toNat⟩
  | .unexpectedEof => ⟨"end of file", 0⟩
  | .userError text => ⟨text, 0⟩

def attempt {α : Type} (act : IO α) : ExceptT OsFault IO α :=
  ExceptT.mk do
    try return .ok (← act)
    catch e => return .error (osFault e)

/-- The disk that the program runs on. -/
def systemDisk : Disk IO where
  makeDir path := attempt (IO.FS.createDir path)
  isDir path :=
    let entry : IO.FS.DirEntry := { root := path, fileName := "." }
    entry.path.isDir
  write path text := attempt (IO.FS.writeFile path text)

end TxnLiveness

open TxnLiveness in
def main (args : List String) : IO UInt32 := do
  let env ← settingVars.mapM fun name => return (name, ← IO.getEnv name)
  let entropy ← IO.rand 1 (Text.wordBound - 1)
  match Sim.run args (fun name => (env.lookup name).join) entropy with
  | .help =>
    IO.println usage
    return 0
  | .usage =>
    IO.eprintln usage
    return 2
  | .overflow =>
    IO.eprintln "number too large"
    return 101
  | .unfit why =>
    IO.eprintln ("Error: " ++ why.message)
    return 1
  | .finished report =>
    IO.println report.counters.toJson.pretty
    match ← (report.save systemDisk).run with
    | .ok () =>
      if let some path := report.options.out then IO.eprintln ("wrote report: " ++ path)
      return 0
    | .error fault =>
      IO.eprintln ("Error: " ++ Sim.saveMessage fault)
      return 1
