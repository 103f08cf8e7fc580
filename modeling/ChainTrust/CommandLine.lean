import ChainTrust.Check
import ChainTrust.Environment.Settings
import ChainTrust.Report

namespace ChainTrust.CommandLine

structure Options where
  scenario : Option String
  settings : Option String
  time : Option UInt64
  json : Bool
  listChecks : Bool
  loggingConfig : Option String
deriving DecidableEq, Repr

inductive Command where
  | help
  | version
  | run (options : Options)
deriving DecidableEq, Repr

def Options.none : Options :=
  ⟨.none, .none, .none, false, false, .none⟩

/-- Options that take a value. -/
inductive Setting where
  | scenario
  | settings
  | time
  | loggingConfig
deriving DecidableEq, Repr

def Setting.rows : List (String × Setting) :=
  [ ("-s", .scenario), ("--scenario", .scenario), ("--settings", .settings), ("-i", .time),
    ("--time-of-interest", .time), ("-l", .loggingConfig), ("--logging-config", .loggingConfig) ]

/-- Decimal digits, which may have a plus sign before them. -/
def time? (s : String) : Option UInt64 :=
  let digits := match s.toList with
    | '+' :: rest => rest
    | cs => cs
  if digits.isEmpty || !digits.all Char.isDigit then none
  else
    let n := digits.foldl (fun n c => n * 10 + (c.toNat - 48)) 0
    if n < UInt64.size then some (UInt64.ofNat n) else none

/-- An option must not be given twice. -/
def assign? (o : Options) (value : String) : Setting → Option Options
  | .scenario => if o.scenario.isSome then none else some { o with scenario := some value }
  | .settings => if o.settings.isSome then none else some { o with settings := some value }
  | .loggingConfig =>
    if o.loggingConfig.isSome then none else some { o with loggingConfig := some value }
  | .time =>
    if o.time.isSome then none else (time? value).map fun t => { o with time := some t }

/-- Arguments that begin with a hyphen are options, unless there is nothing else. -/
def isOption (arg : String) : Bool :=
  match arg.toList with
  | '-' :: _ :: _ => true
  | _ => false

/-- A value in the same argument as its option, after an equals sign or right after the letter. -/
def attached? (arg : String) : Option (Setting × String) :=
  match arg.toList with
  | '-' :: '-' :: rest =>
    let name := String.ofList ('-' :: '-' :: rest.takeWhile (· != '='))
    match rest.dropWhile (· != '=') with
    | '=' :: value => (Setting.rows.lookup name).map (·, String.ofList value)
    | _ => none
  | '-' :: letter :: '=' :: value =>
    (Setting.rows.lookup (String.ofList ['-', letter])).map (·, String.ofList value)
  | '-' :: letter :: value =>
    (Setting.rows.lookup (String.ofList ['-', letter])).map (·, String.ofList value)
  | _ => none

/-- Arguments from left to right. The first that asks for help or for the version decides, unless one
before it is wrong. -/
def parseFrom? (o : Options) : List String → Option Command
  | [] => some (.run o)
  | "--" :: rest => if rest.isEmpty then some (.run o) else none
  | "--json" :: rest => if o.json then none else parseFrom? { o with json := true } rest
  | "--list-checks" :: rest =>
    if o.listChecks then none else parseFrom? { o with listChecks := true } rest
  | "--help" :: _ => some .help
  | "--version" :: _ => some .version
  | arg :: rest =>
    if isOption arg then
      match arg.toList with
      | '-' :: 'h' :: _ => some .help
      | '-' :: 'V' :: _ => some .version
      | _ =>
        match Setting.rows.lookup arg, rest with
        | some setting, value :: rest =>
          if isOption value then none
          else match assign? o value setting with
            | some o => parseFrom? o rest
            | none => none
        | some _, [] => none
        | none, rest =>
          match (attached? arg).bind fun (setting, value) => assign? o value setting with
          | some o => parseFrom? o rest
          | none => none
    else none

/-- At least one argument is required. -/
def parse? (args : List String) : Option Command :=
  if args.isEmpty then none else parseFrom? .none args

structure Outcome where
  exitCode : UInt8
  output : String
deriving DecidableEq, Repr

def refused : Outcome := ⟨2, ""⟩

def versionText : String := "pvctool 0.1.0\n"

def helpText : String :=
  "Policy verification tool\n\n" ++
  "Usage: pvctool [OPTIONS]\n\n" ++
  "Options:\n" ++
  "  -s, --scenario <SCENARIO>                  Path, policies and anchors to evaluate, in JSON\n" ++
  "      --settings <SETTINGS>                  Settings of the environment, in JSON\n" ++
  "  -i, --time-of-interest <TIME_OF_INTEREST>  Time of evaluation in seconds of Unix time\n" ++
  "      --json                                 Write the report in JSON\n" ++
  "      --list-checks                          List the names of checks\n" ++
  "  -l, --logging-config <LOGGING_CONFIG>      Accepted, without effect\n" ++
  "  -h, --help                                 Print help\n" ++
  "  -V, --version                              Print version\n"

def checkList : String :=
  String.join (Check.all.map fun c => c.text ++ "\n")

/-- The directory of a file, as it is written in the file's name. -/
def parent (file : String) : String :=
  let upToSlash := file.toList.reverse.dropWhile (· != '/')
  match upToSlash.dropWhile (· == '/') with
  | [] => if upToSlash.isEmpty then "" else "/"
  | trimmed => String.ofList trimmed.reverse

/-- The name of a file that is given relative to a directory. -/
def join (directory name : String) : String :=
  if directory.isEmpty || name.toList.head? == some '/' then name
  else if directory.toList.getLast? == some '/' then directory ++ name
  else directory ++ "/" ++ name

/-- What a command needs from outside. -/
structure World (m : Type → Type) where
  read : String → m (Except FileFault Bytes)
  now : m UInt64

def fileResult {α : Type} (f : Bytes → Result α) : Except FileFault Bytes → Result α
  | .ok content => f content
  | .error fault => .error (.file fault)

def environmentOf : Option (Except FileFault Bytes) → Result Environment
  | none => .ok .standard
  | some content => do Environment.standard.applySettings (← fileResult Settings.ofBytes content)

section

variable {m : Type → Type} [Monad m] (w : World m)

/-- Reads the files that a scenario names, once each time it names one. -/
def readFiles (names : List String) : m FileReader := do
  let contents ← names.mapM w.read
  let found := names.zip contents
  return fun name => (found.lookup name).getD (.error .notFound)

def load (file : String) : m (Result Loaded) := do
  match fileResult Scenario.ofBytes (← w.read file) with
  | .error e => return .error e
  | .ok scenario =>
    let resolve := join (parent file)
    let reader ← readFiles w (scenario.fileNames.map resolve)
    return scenario.load fun name => reader (resolve name)

def readSettings (o : Options) : m (Result Environment) := do
  match o.settings with
  | none => return environmentOf none
  | some file => return environmentOf (some (← w.read file))

/-- The time of the command line comes before that of the scenario. -/
def timeOf (o : Options) (l : Loaded) : m UInt64 :=
  match o.time.or l.time with
  | some t => pure t
  | none => w.now

def evaluate (o : Options) (file : String) : m Outcome := do
  match ← load w file, ← readSettings w o with
  | .ok l, .ok env =>
    let report := l.report env (← timeOf w o l)
    let output := if o.json then report.jsonText ++ "\n" else report.text
    return ⟨if report.verdict.isOk then 0 else 1, output⟩
  | _, _ => return refused

def run (args : List String) : m Outcome :=
  match parse? args with
  | none => pure refused
  | some .help => pure ⟨0, helpText⟩
  | some .version => pure ⟨0, versionText⟩
  | some (.run o) =>
    if o.listChecks then pure ⟨0, checkList⟩
    else match o.scenario with
      | none => pure refused
      | some file => evaluate w o file

end

end ChainTrust.CommandLine
