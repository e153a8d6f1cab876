import Nullness.CommandLine

/-!
# The program

Reads the program file that the command line names, analyses it and writes the report. The exit code
is 0 on success, 1 when the run fails and 2 when the command line is not acceptable.
-/

namespace Nullness

/-- What is shown when help is asked for. -/
def usageText : String :=
  "\n".intercalate
    ["Branch-sensitive nullness dataflow over JVM method control flow graphs.", "",
      "Usage: nullness [OPTIONS] --input <PATH>", "", "Options:",
      "      --input <PATH>                   Program description in JSON",
      "      --output <PATH>                  Where the report is written; - for standard output",
      "      --quiet                          Do not tell how long the run took",
      "      --timing                         Tell how long the run took",
      "      --otel <URL>                     Address of a trace collector, which is checked",
      "      --no-assertion-suppression       Keep null values alive across assertion calls",
      "      --no-value-numbers               Disable congruence-based refinements",
      "      --no-return-modeling             Treat every returned reference as not null",
      "      --no-dereference-modeling        Do not tighten values that are dereferenced",
      "      --no-checked-calls               Ignore earlier null checks of call results",
      "      --assertion-method <OWNER.NAME>  Additional assertion method",
      "  -h, --help                           Print help",
      "  -V, --version                        Print version"]

/-- What is shown when a command line is refused. -/
def refusal : UsageError → String
  | .unknownArgument => "error: unexpected argument found"
  | .conflict => "error: an argument cannot be used multiple times"
  | .invalidValue => "error: a value is required for an argument but none was supplied"
  | .tooManyValues => "error: unexpected value for an argument found"
  | .missingInput => "error: the required argument '--input <PATH>' was not provided"
  | .helpRequested => usageText
  | .versionRequested => "nullness 0.1.0"

/-- The text of a file, or nothing when it cannot be read. -/
def readText (path : String) : IO (Option String) := do
  try
    return some (← IO.FS.readFile path)
  catch _ =>
    return none

/-- Writes a report to standard output or to a file. -/
def deliver (output : Option String) (report : String) : IO Unit := do
  match output with
  | none | some "-" => (← IO.getStdout).putStr report
  | some path => IO.FS.writeFile path report

/-- Does what the words of a command line ask for, and gives the exit code. -/
def Invocation.perform (words : List String) : IO UInt32 := do
  match Invocation.ofWords words with
  | .error e =>
    if e = .helpRequested ∨ e = .versionRequested then
      IO.println (refusal e)
      return 0
    else
      IO.eprintln (refusal e)
      return 2
  | .ok invocation =>
    let start ← IO.monoMsNow
    match invocation.run (← readText invocation.input) with
    | .error e =>
      IO.eprintln ("Error: " ++ e.message)
      return 1
    | .ok report =>
      deliver invocation.output report
      if invocation.timing ∧ ¬ invocation.quiet then
        IO.eprintln ("timing: total_ms=" ++ toString ((← IO.monoMsNow) - start))
      return 0

end Nullness

/-- Analyses the program that the command line names. -/
def main (words : List String) : IO UInt32 := Nullness.Invocation.perform words
