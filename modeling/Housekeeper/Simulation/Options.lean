import Housekeeper.Identifier

/-!
# Command line of the simulator

Options are given as `-c 5`, `-c5`, `-c=5`, `--cycles 5` or `--cycles=5`, each at most once. One
whose value is missing keeps its default, if it has one. A call for help or for the version ends
the reading at once; anything that is not an option is refused.
-/

namespace Housekeeper.Simulation

inductive OptionName where
  | cycles
  | period
  | factor
  | config
deriving DecidableEq

structure Options where
  cycles : UInt32
  /-- Period of the controller's task in milliseconds. -/
  period : UInt32
  factor : UInt8
  /-- The file that holds the configuration of the manager. -/
  config : Option String
deriving DecidableEq

/-- Why there is nothing to run. -/
inductive Stop where
  | help
  | version
  | invalid
deriving DecidableEq

inductive Argument where
  | option (name : OptionName) (value : Option (List Char))
  | stop (reason : Stop)
  /-- What follows is no option any more. -/
  | separator

def shortOption (letter : Char) (value : List Char) : Argument :=
  let value := if value.isEmpty then none else some (value.dropWhile (· == '='))
  match letter with
  | 'c' => .option .cycles value
  | 'p' => .option .period value
  | 'f' => .option .factor value
  | 'h' => .stop .help
  | 'V' => .stop .version
  | _ => .stop .invalid

def longOption (name : String) (value : Option (List Char)) : Argument :=
  let value := value.map fun value => value.dropWhile (· == '=')
  match name with
  | "cycles" => .option .cycles value
  | "period-ms" => .option .period value
  | "factor" => .option .factor value
  | "config" => .option .config value
  | "help" => .stop .help
  | "version" => .stop .version
  | _ => .stop .invalid

def argument (text : String) : Argument :=
  match text.toList with
  | ['-', '-'] => .separator
  | '-' :: '-' :: _ =>
    let name := text.toList.takeWhile (· ≠ '=')
    let value := text.toList.drop (name.length + 1)
    longOption (String.ofList (name.dropWhile (· == '-')))
      (if text.toList.contains '=' then some value else none)
  | '-' :: letter :: value => shortOption letter value
  | _ => .stop .invalid

/-- An argument that cannot be the value of the option before it. -/
def startsOption (text : String) : Bool :=
  match text.toList with
  | '-' :: _ :: _ => true
  | _ => false

/-- The options in their order, with their values as far as they are given. -/
def readArguments : List String → Except Stop (List (OptionName × Option (List Char)))
  | [] => .ok []
  | [last] =>
    match argument last with
    | .stop reason => .error reason
    | .separator => .ok []
    | .option name value => .ok [(name, value)]
  | first :: second :: rest =>
    match argument first with
    | .stop reason => .error reason
    | .separator => .error .invalid
    | .option name (some value) =>
      (readArguments (second :: rest)).map fun options => (name, some value) :: options
    | .option name none =>
      if startsOption second then
        (readArguments (second :: rest)).map fun options => (name, none) :: options
      else (readArguments rest).map fun options => (name, some second.toList) :: options

/-- Digits only, but for a plus sign in front. -/
def natural? (bound : Nat) (text : List Char) : Option Nat :=
  let digits := match text with
    | '+' :: rest => rest
    | rest => rest
  if digits.isEmpty || digits.any fun c => !c.isDigit then none
  else
    some (digits.foldl (fun value c => value * 10 + (c.toNat - '0'.toNat)) 0) |>.filter (· < bound)

/-- The value of an option that is given at most once. -/
def valueOf (options : List (OptionName × Option (List Char))) (name : OptionName)
    (default : Option (List Char)) : Except Stop (Option (List Char)) :=
  match options.filter fun option => option.1 == name with
  | [] => .ok default
  | [(_, value)] =>
    match value.or default with
    | some value => .ok (some value)
    | none => .error .invalid
  | _ => .error .invalid

def numberOf (options : List (OptionName × Option (List Char))) (name : OptionName)
    (bound default : Nat) : Except Stop Nat :=
  match valueOf options name (some (Nat.toDigits 10 default)) with
  | .error reason => .error reason
  | .ok text =>
    match text.bind (natural? bound) with
    | some value => .ok value
    | none => .error .invalid

namespace Options

def parse (arguments : List String) : Except Stop Options := do
  let options ← readArguments arguments
  let config ← valueOf options .config none
  let cycles ← numberOf options .cycles UInt32.size 20
  let period ← numberOf options .period UInt32.size 200
  let factor ← numberOf options .factor UInt8.size 5
  return ⟨UInt32.ofNat cycles, UInt32.ofNat period, UInt8.ofNat factor,
    config.map String.ofList⟩

end Options

def versionText : List String := ["satpool-sim 0.1.0"]

def helpText : List String :=
  ["satpool-sim 0.1.0",
   "Space Systems Engineering Team",
   "🛰️  Local data pool and housekeeping simulation",
   "",
   "USAGE:",
   "    satpool-sim [OPTIONS]",
   "",
   "FLAGS:",
   "    -h, --help       Prints help information",
   "    -V, --version    Prints version information",
   "",
   "OPTIONS:",
   "        --config <FILE>      Housekeeping manager configuration (JSON)",
   "    -c, --cycles <CYCLES>    Number of controller cycles to run [default: 20]",
   "    -f, --factor <FACTOR>    Interval factor for regular (non-diagnostic) packets [default: 5]",
   "    -p, --period-ms <MS>     Controller task period in milliseconds [default: 200]"]

end Housekeeper.Simulation
