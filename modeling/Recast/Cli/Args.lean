import Recast.Table
/-!
The command line of the workflow tool.

The tool takes four required options naming its input files, `--workflow`, `--config`,
`--model` and `--data` (short `-w`, `-c`, `-m`, `-d`), and `--output-dir` (`-o`, default
`artifacts`). An option's value follows it as the next argument, after `=`, or, for a short
option, attached to it. `--help` (`-h`) and `--version` (`-V`) answer at once.

Arguments are read left to right and the first problem ends reading: an unknown option (with a
hint when a known long option is close to it), an argument that is no option, a value attached
to `--help` or `--version`. An option is resolved when the next known option starts or the
arguments end: then an option given twice, and one whose value is missing or an empty path, are
refused. After the last argument, every required option must have been given. Each problem is
reported with a usage line: the full one, or, for an unknown long option and for missing
options, one listing the required options and the others given.
-/

namespace Recast

namespace Cli

/-- An option that takes a value. -/
structure Flag where
  long : String
  short : Char
  valueName : String
  required : Bool
  deriving DecidableEq, Inhabited, Repr

/-- The options taking values, in their declared order. -/
def flags : List Flag :=
  [⟨"workflow", 'w', "WORKFLOW", true⟩, ⟨"config", 'c', "CONFIG", true⟩,
    ⟨"model", 'm', "MODEL", true⟩, ⟨"data", 'd', "DATA", true⟩,
    ⟨"output-dir", 'o', "OUTPUT_DIR", false⟩]

/-- An option as usage lines show it. -/
def Flag.display (flag : Flag) : String :=
  "--" ++ flag.long ++ " <" ++ flag.valueName ++ ">"

/-- The long names hints are chosen from, in declared order. -/
def longNames : List String :=
  flags.map Flag.long ++ ["help", "version"]

/-- The tool's name in usage lines. -/
def toolName : String := "schemaflow-cli"

/-- The tool's version. -/
def version : String := "0.1.0"

/-- The full usage line. -/
def fullUsage : String :=
  toolName ++ " [OPTIONS] --workflow <WORKFLOW> --config <CONFIG> --model <MODEL> --data <DATA>"

/-- The usage line naming the required options, then the other options given, `--help` and
`--version` among them. -/
def usageWith (given : List String) : String :=
  let named := (flags.filter Flag.required).map Flag.long ++
    given.filter fun long => !(flags.filter Flag.required).any (·.long == long)
  let named := OrderedSet.ofList named
  toolName ++ String.join (named.map fun long =>
    " " ++ match flags.find? (·.long == long) with
      | some flag => flag.display
      | none => "--" ++ long)

/-- All the options taking values, as the one group they form: `<--workflow <WORKFLOW>|...>`. -/
def groupDisplay : String :=
  "<" ++ "|".intercalate (flags.map Flag.display) ++ ">"

/-- The usage line of a value attached to `--help` or `--version`. Once an option has been
resolved its group counts as used, and the group then stands for all of its members, the
required ones included. -/
def attachedUsage (given : List String) (name : String) : String :=
  if given.isEmpty then usageWith [name] else toolName ++ " --" ++ name ++ " " ++ groupDisplay

/-- The help text. -/
def helpText : String :=
  "Runs a schemaflow workflow over a schema pack and a data pack and writes every artifact\n\n" ++
  "Usage: " ++ fullUsage ++ "\n\n" ++
  "Options:\n" ++
  "  -w, --workflow <WORKFLOW>      Path to the workflow definition JSON file\n" ++
  "  -c, --config <CONFIG>          Path to the workflow configuration JSON file (step name -> transformation config)\n" ++
  "  -m, --model <MODEL>            Path to the input schema pack JSON file\n" ++
  "  -d, --data <DATA>              Path to the input data pack JSON file\n" ++
  "  -o, --output-dir <OUTPUT_DIR>  Directory receiving `<artifact>.model.json` and `<artifact>.data.json` [default: artifacts]\n" ++
  "  -h, --help                     Print help\n" ++
  "  -V, --version                  Print version\n"

/-- A usage error: its message, an optional hint, an optional usage line. -/
def usageError (message : String) (hint : Option String) (usage : Option String) : String :=
  "error: " ++ message ++
    (match hint with
      | some hint => "\n\n  tip: a similar argument exists: '" ++ hint ++ "'"
      | none => "") ++
    (match usage with
      | some usage => "\n\nUsage: " ++ usage
      | none => "") ++
    "\n\nFor more information, try '--help'.\n"

/-! ### Hints -/

/-- Marks, in `b`, the first unmarked position within `window` of each character of `a` that
holds the same character; the marks of both texts. -/
def jaroMatches (a b : Array Char) (window : Nat) : List Nat × List Nat :=
  (List.range a.size).foldl (fun (marksA, marksB) i =>
    let low := i - window
    let high := min b.size (i + window + 1)
    match (List.range high).find? fun j =>
        low ≤ j && a[i]? == b[j]? && !marksB.contains j with
    | some j => (marksA ++ [i], marksB ++ [j])
    | none => (marksA, marksB)) ([], [])

/-- The Jaro similarity of two texts. -/
def jaro (left right : String) : Float :=
  let a := left.toList.toArray
  let b := right.toList.toArray
  if a.size == 0 && b.size == 0 then 1.0
  else if a.size == 0 || b.size == 0 then 0.0
  else
    let window := max a.size b.size / 2 - 1
    let (marksA, marksB) := jaroMatches a b window
    let matched := marksA.length
    if matched == 0 then 0.0
    else
      let sortedB := marksB.mergeSort (· ≤ ·)
      let transposed := ((marksA.zip sortedB).filter fun (i, j) => a[i]? != b[j]?).length / 2
      let m := matched.toFloat
      (m / a.size.toFloat + m / b.size.toFloat + (matched - transposed).toFloat / m) / 3.0

/-- The known long name closest to an unknown one, if any is close enough; among the closest,
the last declared. -/
def hintFor (unknown : String) : Option String :=
  let scored := longNames.filterMap fun name =>
    let score := jaro unknown name
    if score > 0.7 then some (score, name) else none
  scored.foldl (fun best (score, name) =>
    match best with
    | some (top, _) => if score >= top then some (score, name) else best
    | none => some (score, name)) none |>.map Prod.snd

/-! ### Reading the arguments -/

/-- The paths the tool works with. -/
structure Options where
  workflow : String
  config : String
  model : String
  data : String
  outputDir : String
  deriving DecidableEq, Inhabited, Repr

/-- What the command line asks for. -/
inductive Invocation where
  | run (options : Options)
  | help
  | version
  /-- A usage error, with its full text. -/
  | misuse (text : String)
  deriving DecidableEq, Inhabited, Repr

/-- What has been read so far: the options resolved, in the order they were, with their values;
an option still open, with its value once one has come; and whether `--` has ended the options.
An option is resolved, and its value checked, when the next known option starts or the arguments
end, not when its value arrives. -/
structure Reading where
  values : Table String := []
  pending : Option (Flag × Option String) := none
  escaped : Bool := false

/-- The error of an option given a second time. -/
def repeated (flag : Flag) : Invocation :=
  .misuse (usageError ("the argument '" ++ flag.display ++ "' cannot be used multiple times") none
    (some fullUsage))

/-- The error of an option left without value, or given an empty path. -/
def valueMissing (flag : Flag) : Invocation :=
  .misuse (usageError ("a value is required for '" ++ flag.display ++ "' but none was supplied")
    none none)

/-- The error of an argument no option accounts for. -/
def unexpected (argument : String) (hint : Option String) (usage : String) : Invocation :=
  .misuse (usageError ("unexpected argument '" ++ argument ++ "' found") hint (some usage))

/-- The error of a value attached to an option that takes none. -/
def unneeded (value option : String) (usage : String) : Invocation :=
  .misuse (usageError ("unexpected value '" ++ value ++ "' for '" ++ option ++
    "' found; no more were expected") none (some usage))

/-- Resolves the open option: the reading afterwards and the error, if any. An option without a
value is refused and left out; one given before is refused and dropped; an empty path is
refused but kept. -/
def Reading.settle (reading : Reading) : Reading × Option Invocation :=
  match reading.pending with
  | none => (reading, none)
  | some (flag, none) => ({ reading with pending := none }, some (valueMissing flag))
  | some (flag, some value) =>
    let reading := { reading with pending := none }
    if Table.contains reading.values flag.long then
      ({ reading with values := Table.erase reading.values flag.long }, some (repeated flag))
    else
      let reading := { reading with values := Table.insert reading.values flag.long value }
      (reading, if value.isEmpty then some (valueMissing flag) else none)

/-- Resolves the open option, stopping at its error. -/
def Reading.resolve (reading : Reading) : Except Invocation Reading :=
  match reading.settle with
  | (_, some problem) => .error problem
  | (reading, none) => .ok reading

/-- The options resolved so far, in order. -/
def Reading.given (reading : Reading) : List String :=
  Table.keys reading.values

/-- Starts an option after resolving the open one: with its value when one is attached, which is
then resolved at once, else open until its value comes. -/
def Reading.start (reading : Reading) (flag : Flag) (attached : Option String) :
    Except Invocation Reading := do
  let reading ← reading.resolve
  match attached with
  | some value => Reading.resolve { reading with pending := some (flag, some value) }
  | none => pure { reading with pending := some (flag, none) }

/-- An argument that looks like an option but names none: the open option is resolved with its
error ignored. The usage lists the required options and those given, the hinted one among them;
when none was given and none is hinted, it is the full usage. -/
def Reading.unknownLong (reading : Reading) (name : String) : Invocation :=
  let reading := reading.settle.1
  let hint := hintFor name
  let given := reading.given ++ hint.toList
  unexpected ("--" ++ name) (hint.map ("--" ++ ·))
    (if given.isEmpty then fullUsage else usageWith given)

/-- Reads a long option, `name` or `name=value`. -/
def Reading.long (reading : Reading) (text : String) : Except Invocation Reading :=
  let name := (text.splitOn "=").headD ""
  let attached := if text.contains '=' then some ((text.drop (name.length + 1)).toString) else none
  if name == "help" || name == "version" then
    match attached with
    | some value => .error (unneeded value ("--" ++ name) (attachedUsage reading.given name))
    | none => do
      let _ ← reading.resolve
      .error (if name == "help" then .help else .version)
  else
    match flags.find? (·.long == name) with
    | some flag => reading.start flag attached
    | none => .error (reading.unknownLong name)

/-- Reads a cluster of short options. -/
def Reading.shorts (reading : Reading) : List Char → Except Invocation Reading
  | [] => .ok reading
  | letter :: rest =>
    if letter == 'h' || letter == 'V' then do
      let _ ← reading.resolve
      .error (if letter == 'h' then .help else .version)
    else
      match flags.find? (·.short == letter) with
      | some flag =>
        let attached := match rest with
          | [] => none
          | '=' :: value => some (String.ofList value)
          | value => some (String.ofList value)
        reading.start flag attached
      | none => .error (unexpected ("-" ++ letter.toString) none fullUsage)

/-- Reads one argument. -/
def Reading.step (reading : Reading) (argument : String) : Except Invocation Reading :=
  let chars := argument.toList
  if reading.escaped then .error (unexpected argument none fullUsage)
  else if argument == "--" then
    .ok { reading with escaped := true }
  else
    match chars with
    | '-' :: '-' :: rest => reading.long (String.ofList rest)
    | '-' :: letter :: rest => reading.shorts (letter :: rest)
    | _ =>
      match reading.pending with
      | some (flag, none) => .ok { reading with pending := some (flag, some argument) }
      | _ => .error (unexpected argument none fullUsage)

/-- Reads a whole command line. -/
def parseArgs (arguments : List String) : Invocation :=
  match arguments.foldlM Reading.step {} >>= Reading.resolve with
  | .error outcome => outcome
  | .ok reading =>
    let missing := (flags.filter Flag.required).filter fun flag =>
      !Table.contains reading.values flag.long
    if !missing.isEmpty then
      .misuse (usageError ("the following required arguments were not provided:" ++
        String.join (missing.map fun flag => "\n  " ++ flag.display)) none
        (some (usageWith (reading.given ++ missing.map Flag.long))))
    else
      let value (long : String) (default : String) := (Table.get? reading.values long).getD default
      .run { workflow := value "workflow" "", config := value "config" ""
             model := value "model" "", data := value "data" ""
             outputDir := value "output-dir" "artifacts" }

end Cli

end Recast
