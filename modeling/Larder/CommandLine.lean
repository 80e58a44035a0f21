import Larder.Text.Unstyled

/-!
The command line.

There is one option, the path of the configuration, besides the two that ask for help and for the
version. Arguments are read from left to right, and the first that settles the matter does. A value
may be attached to its option or follow it; what follows `--` is not read as an option.
-/

namespace Larder.CommandLine

inductive UsageError
  | configMissing
  | configRepeated
  | valueMissing
  | unknownArgument (argument : String)
  | unexpectedValue (option value : String)
deriving DecidableEq, Repr

/-- The complaint up to where it goes on about the program's use. What an argument holds of control
sequences is left out. -/
def UsageError.message : UsageError → String
  | .configMissing => "error: the following required arguments were not provided:"
  | .configRepeated => "error: the argument '--config <FILE>' cannot be used multiple times"
  | .valueMissing => "error: a value is required for '--config <FILE>' but none was supplied"
  | .unknownArgument argument =>
      Text.unstyled ("error: unexpected argument '" ++ argument ++ "' found")
  | .unexpectedValue option value =>
      Text.unstyled ("error: unexpected value '" ++ value ++ "' for '" ++ option ++
        "' found; no more were expected")

inductive Invocation
  | serve (config : String)
  | help
  | version
  | refused (fault : UsageError)
deriving DecidableEq, Repr

def versionText : String := "pantry-api 0.1.0\n"

def helpText : String :=
  "Usage: pantry-api --config <FILE>\n\nOptions:\n" ++
    "  -c, --config <FILE>  \n" ++
    "  -h, --help           Print help\n" ++
    "  -V, --version        Print version\n"

structure Progress where
  config : Option String
  pending : Option (Option String)

abbrev Step (α : Type) := Except Invocation α

def Progress.settle (progress : Progress) : Step Progress :=
  match progress.pending with
  | none => .ok progress
  | some none => .error (.refused .valueMissing)
  | some (some value) =>
      if progress.config.isSome then .error (.refused .configRepeated)
      else if value == "" then .error (.refused .valueMissing)
      else .ok ⟨some value, none⟩

def Progress.option (progress : Progress) (attached : Option String) : Step Progress := do
  let settled ← progress.settle
  match attached with
  | some value => Progress.settle { settled with pending := some (some value) }
  | none => return { settled with pending := some none }

def Progress.stop {α : Type} (progress : Progress) (answer : Invocation) : Step α := do
  let _ ← progress.settle
  throw answer

def Progress.letters (progress : Progress) : List Char → Step Progress
  | [] => .ok progress
  | 'c' :: '=' :: value => progress.option (some (String.ofList value))
  | 'c' :: value =>
      progress.option (if value.isEmpty then none else some (String.ofList value))
  | 'h' :: _ => progress.stop .help
  | 'V' :: _ => progress.stop .version
  | c :: _ => .error (.refused (.unknownArgument ("-" ++ c.toString)))

def Progress.word (progress : Progress) (chars : List Char) : Step Progress :=
  let name := chars.takeWhile (· != '=')
  let attached :=
    match chars.drop name.length with
    | [] => none
    | _ :: value => some (String.ofList value)
  match String.ofList name, attached with
  | "config", attached => progress.option attached
  | "help", none => progress.stop .help
  | "version", none => progress.stop .version
  | "help", some value => .error (.refused (.unexpectedValue "--help" value))
  | "version", some value => .error (.refused (.unexpectedValue "--version" value))
  | other, _ => .error (.refused (.unknownArgument ("--" ++ other)))

def Progress.plain (progress : Progress) (argument : String) : Step Progress :=
  match progress.pending with
  | some none => .ok { progress with pending := some (some argument) }
  | _ => .error (.refused (.unknownArgument argument))

def Progress.arguments (progress : Progress) : List String → Step Progress
  | [] => .ok progress
  | argument :: rest =>
      match argument.toList with
      | ['-', '-'] =>
          match rest with
          | [] => .ok progress
          | next :: _ => .error (.refused (.unknownArgument next))
      | '-' :: '-' :: chars => do (← progress.word chars).arguments rest
      | '-' :: c :: chars => do (← progress.letters (c :: chars)).arguments rest
      | _ => do (← progress.plain argument).arguments rest

def parse (arguments : List String) : Invocation :=
  let outcome : Step Progress := do (← Progress.arguments ⟨none, none⟩ arguments).settle
  match outcome with
  | .error answer => answer
  | .ok ⟨some config, _⟩ => .serve config
  | .ok ⟨none, _⟩ => .refused .configMissing

end Larder.CommandLine
