import HostRouting.Cli.Command

/-!
# Help texts

What is printed about the program and its commands, drawn from their declarations: what
it is for, how it is called, and a section for each kind of argument with all
descriptions in one column.
-/
namespace HostRouting.Cli

def programName : String := "traefik-cli"

/-- A name and its description. -/
abbrev HelpRow := Text × Text

def pad (width : Nat) (t : Text) : Text := t ++ List.replicate (width - t.length) ' '

/-- A section with its descriptions two columns behind the longest name. -/
def helpSection (title : String) (rows : List HelpRow) : Text :=
  match rows with
  | [] => []
  | _ =>
    let width := (rows.map (·.1.length)).foldl max 0
    '\n' :: title.toList ++ [':', '\n'] ++
      rows.flatMap fun r => ' ' :: ' ' :: pad width r.1 ++ ' ' :: ' ' :: r.2 ++ ['\n']

/-- A value as it stands in a usage line. -/
def placeholder (name : String) : Text := '<' :: name.toList ++ ['>']

def OptionSpec.usage (o : OptionSpec) : Text :=
  '-' :: '-' :: o.name.toList ++
    match o.value with
    | some value => ' ' :: placeholder value
    | none => []

def OptionSpec.description (o : OptionSpec) : Text :=
  [' '].intercalate
    ((if o.help.isEmpty then [] else [o.help.toList]) ++
      (match o.default with
        | some default => ["[default: ".toList ++ default.toList ++ [']']]
        | none => []))

def OptionSpec.row (o : OptionSpec) : HelpRow :=
  ((match o.letter with
    | some c => ['-', c, ',', ' ']
    | none => [' ', ' ', ' ', ' ']) ++ o.usage, o.description)

def helpRow : HelpRow := ("-h, --help".toList, "Print help".toList)

/-- Options without which a command does not run. -/
def OptionSpec.isRequired (o : OptionSpec) : Bool := o.name = fileOption.name

/-- How a command is called, after the name of the program. -/
def CommandSpec.usage (c : CommandSpec) : Text :=
  let required := c.options.filter (·.isRequired)
  [' '].intercalate
    ([c.name.toList] ++ (if required.length < c.options.length then ["[OPTIONS]".toList] else []) ++
      required.map (·.usage) ++ c.positionals.map placeholder)

/-- A help text from its parts. -/
def helpText (about usage sections : Text) : Text :=
  about ++ "\n\nUsage: ".toList ++ programName.toList ++ ' ' :: usage ++ '\n' :: sections

def CommandSpec.helpText (c : CommandSpec) : Text :=
  Cli.helpText c.about.toList c.usage
    (helpSection "Arguments" (c.positionals.map fun p => (placeholder p, [])) ++
      helpSection "Options" (c.options.map (·.row) ++ [helpRow]))

def helpCommandAbout : Text :=
  "Print this message or the help of the given subcommand(s)".toList

def programHelp : Text :=
  helpText "Management CLI for the Traefik Config Manager".toList "[OPTIONS] <COMMAND>".toList
    (helpSection "Commands"
        (commandSpecs.map (fun c => (c.name.toList, c.about.toList)) ++
          [("help".toList, helpCommandAbout)]) ++
      helpSection "Options" [urlOption.row, helpRow])

def helpCommandHelp : Text :=
  helpText helpCommandAbout "help [COMMAND]...".toList
    (helpSection "Arguments" [("[COMMAND]...".toList, "Print help for the subcommand(s)".toList)])

def HelpTopic.text : HelpTopic → Text
  | .program => programHelp
  | .command spec => spec.helpText
  | .help => helpCommandHelp

def UsageError.message : UsageError → Text
  | .unknown argument => "unexpected argument '".toList ++ argument ++ ['\x27']
  | .repeated option => "option '--".toList ++ option ++ "' is given twice".toList
  | .missingValue option => "option '--".toList ++ option ++ "' needs a value".toList
  | .invalidValue option value =>
    "invalid value '".toList ++ value ++ "' for '--".toList ++ option ++ ['\x27']
  | .unneededValue option value =>
    "unexpected value '".toList ++ value ++ "' for '--".toList ++ option ++ ['\x27']
  | .missing name => "arguments of '".toList ++ name ++ "' are missing".toList
  | .missingCommand => "a command is missing".toList

end HostRouting.Cli
