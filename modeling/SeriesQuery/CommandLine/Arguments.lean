import SeriesQuery.Text.Split

/-!
The arguments of the program: options with values, and words. The options for the settings and the
driver may stand before or after the name of the command; the later place wins.
-/

set_option autoImplicit false

namespace SeriesQuery.CommandLine

inductive OutputFormat where
  | table
  | json
  | csv
  deriving Repr, DecidableEq

inductive Command where
  | compile (query : String)
  | query (query : String) (format : OutputFormat)
  | write (measurement : String) (fields tags : List String) (time? : Option String)
  | measurements
  | tagValues (measurement tag : String)
  | drivers
  | config (output? : Option String)
  deriving Repr, DecidableEq

structure Invocation where
  config? : Option String
  driver? : Option String
  command : Command
  deriving Repr, DecidableEq

inductive Stop where
  | usage
  | help
  | version
  deriving Repr, DecidableEq

inductive OptionName where
  | config
  | driver
  | format
  | tag
  | time
  | output
  deriving Repr, DecidableEq

namespace OptionName

def long : OptionName → String
  | .config => "config"
  | .driver => "driver"
  | .format => "format"
  | .tag => "tag"
  | .time => "time"
  | .output => "output"

def letter : OptionName → Char
  | .config => 'c'
  | .driver => 'd'
  | .format => 'f'
  | .tag => 'T'
  | .time => 't'
  | .output => 'o'

def isPath : OptionName → Bool
  | .config | .output => true
  | _ => false

end OptionName

structure Scanned where
  options : List (OptionName × String)
  words : List String

namespace Scanned

def empty : Scanned := ⟨[], []⟩

def addWord (word : String) (scanned : Scanned) : Scanned :=
  { scanned with words := word :: scanned.words }

def addOption (name : OptionName) (value : String) (scanned : Scanned) : Scanned :=
  { scanned with options := (name, value) :: scanned.options }

def values (scanned : Scanned) (name : OptionName) : List String :=
  scanned.options.filterMap fun option => if option.1 = name then some option.2 else none

def single (scanned : Scanned) (name : OptionName) : Except Stop (Option String) :=
  match scanned.values name with
  | [] => .ok none
  | [value] => if name.isPath && value.isEmpty then .error .usage else .ok (some value)
  | _ => .error .usage

end Scanned

inductive Token where
  | word
  | endOfOptions
  | stop (reason : Stop)
  /-- An option, with its value if the argument holds it. -/
  | option (name : OptionName) (value? : Option String)

def longToken (known : List OptionName) (versioned : Bool) (text : List Char) : Token :=
  let (name, value?) := match Text.splitFirst? '=' text with
    | some (name, value) => (String.ofList name, some (String.ofList value))
    | none => (String.ofList text, none)
  match known.find? fun option => option.long == name with
  | some option => .option option value?
  | none =>
    if name = "help" ∧ value?.isNone then .stop .help
    else if name = "version" ∧ value?.isNone ∧ versioned then .stop .version
    else .stop .usage

def shortToken (known : List OptionName) (versioned : Bool) (letter : Char) (rest : List Char) :
    Token :=
  match known.find? fun option => option.letter == letter with
  | some option =>
    .option option (match rest with
      | [] => none
      | '=' :: value => some (String.ofList value)
      | value => some (String.ofList value))
  | none =>
    if letter = 'h' then .stop .help
    else if letter = 'V' ∧ versioned then .stop .version
    else .stop .usage

def tokenOf (known : List OptionName) (versioned : Bool) (argument : String) : Token :=
  match argument.toList with
  | ['-', '-'] => .endOfOptions
  | '-' :: '-' :: text => longToken known versioned text
  | '-' :: letter :: rest => shortToken known versioned letter rest
  | _ => .word

def isValue (argument : String) : Bool :=
  match argument.toList with
  | '-' :: _ :: _ => false
  | _ => true

def scan (known : List OptionName) : List String → Except Stop Scanned
  | [] => .ok .empty
  | argument :: rest =>
    match tokenOf known false argument with
    | .word => (scan known rest).map (Scanned.addWord argument)
    | .endOfOptions => .ok ⟨[], rest⟩
    | .stop reason => .error reason
    | .option name (some value) => (scan known rest).map (Scanned.addOption name value)
    | .option name none =>
      match rest with
      | value :: rest =>
        if isValue value then (scan known rest).map (Scanned.addOption name value)
        else .error .usage
      | [] => .error .usage

def everywhere : List OptionName := [.config, .driver]

/-- Scans the options before the name of the command, and gives the name and the arguments after it.
-/
def scanStart : List String → Except Stop (Scanned × String × List String)
  | [] => .error .usage
  | argument :: rest =>
    match tokenOf everywhere true argument with
    | .word => .ok (.empty, argument, rest)
    | .endOfOptions => .error .usage
    | .stop reason => .error reason
    | .option name (some value) =>
      (scanStart rest).map fun (scanned, following) => (scanned.addOption name value, following)
    | .option name none =>
      match rest with
      | value :: rest =>
        if isValue value then
          (scanStart rest).map fun (scanned, following) => (scanned.addOption name value, following)
        else .error .usage
      | [] => .error .usage

def OutputFormat.ofName? : String → Option OutputFormat
  | "table" => some .table
  | "json" => some .json
  | "csv" => some .csv
  | _ => none

def ownOptions : String → Option (List OptionName)
  | "compile" | "measurements" | "tag-values" | "drivers" => some []
  | "query" => some [.format]
  | "write" => some [.tag, .time]
  | "config" => some [.output]
  | _ => none

def commandOf (name : String) (scanned : Scanned) : Except Stop Command := do
  match name, scanned.words with
  | "compile", [query] => return .compile query
  | "query", [query] =>
    match ← scanned.single .format with
    | none => return .query query .table
    | some format =>
      match OutputFormat.ofName? format with
      | some format => return .query query format
      | none => throw .usage
  | "write", measurement :: field :: fields =>
    return .write measurement (field :: fields) (scanned.values .tag) (← scanned.single .time)
  | "measurements", [] => return .measurements
  | "tag-values", [measurement, tag] => return .tagValues measurement tag
  | "drivers", [] => return .drivers
  | "config", [] => return .config (← scanned.single .output)
  | _, _ => throw .usage

def readArguments (arguments : List String) : Except Stop Invocation := do
  let (start, name, rest) ← scanStart arguments
  if name = "help" then throw .help
  match ownOptions name with
  | none => throw .usage
  | some own =>
    let scanned ← scan (everywhere ++ own) rest
    let earlierConfig? ← start.single .config
    let earlierDriver? ← start.single .driver
    let config? ← scanned.single .config
    let driver? ← scanned.single .driver
    return ⟨config? <|> earlierConfig?, driver? <|> earlierDriver?, ← commandOf name scanned⟩

end SeriesQuery.CommandLine
