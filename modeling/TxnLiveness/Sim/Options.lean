import TxnLiveness.Text.Duration
/-!
# Options of a simulation

The command line is the command `run` and options, each given at most once, as `--name value` or
`--name=value`. A value that begins with a minus sign has to be joined to its name.
-/

namespace TxnLiveness.Sim

/-- Why nothing can be done with a command line. -/
inductive RequestFault
  /-- It is not of the form required. -/
  | usage
  /-- The parts of a duration add up to more than can be counted. -/
  | overflow
deriving DecidableEq

/-- What can be read, or else that the form is not the one required. -/
def orUsage {α : Type} (a : Option α) : Except RequestFault α := a.elim (.error .usage) .ok

structure Options where
  shards : Nat := 4
  txns : Nat := 25
  nodes : Nat := 5
  /-- The period between audits, in nanoseconds. -/
  tick : Option Nat := none
  /-- The bound on a single remote call, in nanoseconds. -/
  remoteTimeout : Option Nat := none
  /-- The time a message takes one way, in nanoseconds. -/
  latency : Nat := 5_000_000
  /-- How long the simulation runs, in nanoseconds. -/
  duration : Nat := 5_000_000_000
  failurePct : Nat := 20
  /-- The seed of the generator, or zero for one that nobody chose. -/
  seed : Nat := 0
  /-- Where to write the full report. -/
  out : Option String := none
deriving DecidableEq

namespace Options

/-- Reads an integer from 0 to 255, with either sign. -/
def byte? (s : String) : Option Nat :=
  match s.toList with
  | '-' :: l => (Text.digits? l).filter (· = 0)
  | l => Text.unsigned? 256 l

def word? (s : String) : Option Nat := Text.unsigned? Text.wordBound s.toList

/-- Reads a duration, in nanoseconds. -/
def nanos (s : String) : Except RequestFault Nat :=
  (Text.duration s).mapError fun
    | .malformed => .usage
    | .overflow => .overflow

/-- Sets the option of a name, unless there is none or its value cannot be read. -/
def set (o : Options) (name value : String) : Except RequestFault Options :=
  match name with
  | "shards" => (orUsage (word? value)).map fun shards => { o with shards }
  | "txns" => (orUsage (word? value)).map fun txns => { o with txns }
  | "nodes" => (orUsage (word? value)).map fun nodes => { o with nodes }
  | "tick" => (nanos value).map fun n => { o with tick := some n }
  | "remote-timeout" => (nanos value).map fun n => { o with remoteTimeout := some n }
  | "latency" => (nanos value).map fun latency => { o with latency }
  | "duration" => (nanos value).map fun duration => { o with duration }
  | "failure-pct" => (orUsage (byte? value)).map fun failurePct => { o with failurePct }
  | "seed" => (orUsage (word? value)).map fun seed => { o with seed }
  | "out" => if value.isEmpty then .error .usage else .ok { o with out := some value }
  | _ => .error .usage

/-- Whether an argument can stand apart as the value of an option. -/
def isValue (arg : String) : Bool := arg = "-" || arg.toList.head? ≠ some '-'

/-- The name and value of an argument such as `--name=value`, or the name of one such as
`--name`. -/
def splitArg? (arg : String) : Option (String × Option String) :=
  match arg.toList with
  | '-' :: '-' :: l =>
    let value := (l.dropWhile (· ≠ '=')).tail?.map String.ofList
    some (String.ofList (l.takeWhile (· ≠ '=')), value)
  | _ => none

end Options

/-- What a command line asks for. -/
inductive Request
  | help
  | run (options : Options)

namespace Request

/-- Whether an argument asks for help. -/
def isHelp (arg : String) : Bool := arg = "--help" || "-h".isPrefixOf arg

/-- Reads options, of which `seen` have been given before. The first argument that asks for help or
cannot be read decides. -/
def ofOptions (o : Options) (seen : List String) : List String → Except RequestFault Request
  | [] => .ok (.run o)
  | ["--"] => .ok (.run o)
  | arg :: rest =>
    if isHelp arg then .ok .help
    else do
      let (name, joined) ← orUsage (Options.splitArg? arg)
      if seen.contains name then throw .usage
      else
        match joined, rest with
        | some value, rest => ofOptions (← o.set name value) (name :: seen) rest
        | none, value :: rest =>
          if Options.isValue value then ofOptions (← o.set name value) (name :: seen) rest
          else throw .usage
        | none, [] => throw .usage

def ofArgs : List String → Except RequestFault Request
  | [] => .error .usage
  | arg :: rest =>
    if isHelp arg then .ok .help
    else if arg = "run" then ofOptions {} [] rest
    else if arg = "help" ∧ rest ∈ [[], ["run"], ["help"]] then .ok .help
    else .error .usage

end Request

end TxnLiveness.Sim
