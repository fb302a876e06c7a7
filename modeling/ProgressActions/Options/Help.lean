import ProgressActions.Options.Parse

/-!
# Help on the options

The texts that the program shows about itself: a short and a full account of its options, its version,
and complaints about a command line.
-/

namespace ProgressActions.Options

/-- What is said about one option. -/
structure Entry where
  /-- The spellings of the option, in a column of their own. -/
  usage : String
  description : String
  /-- What else there is to know, in brackets. -/
  remarks : List String := []
  /-- The possible values, each with its meaning. -/
  choices : List (String × String) := []

/-- The options in the order in which they are explained. -/
def entries (isFull : Bool) : List Entry :=
  [{ usage := "      --color <COLOR>"
     description := "Control colored output (auto, always, never)"
     remarks := ["[default: auto]", "[possible values: auto, always, never]"] },
   { usage := "  -C, --config <CONFIG>"
     description := "Config file path (default: checkpoint.toml, if present)" },
   { usage := "      --checkpoint[=<N>]"
     description := "Fire checkpoint actions every N records (default N: 10)" },
   { usage := "      --checkpoint-action <ACTION>"
     description := "Action to run at each checkpoint (repeatable, runs in order)" },
   { usage := "  -f, --archive <ARCHIVE>"
     description := "Archive name reported to actions and scripts" },
   { usage := "  -n, --blocks <BLOCKS>"
     description := "Number of records to simulate" },
   { usage := "      --record-size <RECORD_SIZE>"
     description := "Bytes per record, a multiple of 512" },
   { usage := "      --mode <MODE>"
     description := "Simulated operation"
     remarks := if isFull then [] else ["[possible values: read, write, delete]"]
     choices :=
       [("read", "Reading records, like \x60tar -t\x60 or \x60tar -x\x60"),
        ("write", "Writing records, like \x60tar -c\x60"),
        ("delete", "Reading records and rewriting the survivors, like \x60tar --delete\x60")] },
   { usage := "      --delay-ms <MS>"
     description := "Pause between records, in milliseconds" },
   { usage := "  -v, --verbose"
     description := "Show debug output" },
   { usage := "  -h, --help"
     description := if isFull then "Print help (see a summary with '-h')"
       else "Print help (see more with '--help')" },
   { usage := "  -V, --version"
     description := "Print version" }]

namespace Entry

/-- The column in which descriptions begin. -/
def descriptionColumn : Nat := 36

/-- The margin of a description on lines of its own. -/
def margin : String := "          "

def line (e : Entry) : String :=
  e.usage ++ String.ofList (List.replicate (descriptionColumn - e.usage.length) ' ') ++
    " ".intercalate (e.description :: e.remarks) ++ "\n"

/-- The possible values, one on each line. -/
def choiceLines (e : Entry) : String :=
  let width := (e.choices.map (·.1.length)).foldl max 0
  String.join (e.choices.map fun (name, meaning) ↦
    margin ++ "- " ++ name ++ ":" ++ String.ofList (List.replicate (width - name.length) ' ') ++ " " ++
      meaning ++ "\n")

def paragraph (e : Entry) : String :=
  let remarks := if e.remarks.isEmpty then ""
    else margin ++ "\n" ++ String.join (e.remarks.map fun r ↦ margin ++ r ++ "\n")
  let choices := if e.choices.isEmpty then ""
    else "\n" ++ margin ++ "Possible values:\n" ++ e.choiceLines
  e.usage ++ "\n" ++ margin ++ e.description ++ "\n" ++ remarks ++ choices

end Entry

/-- What the program is for. -/
def purpose : String :=
  "periodic checkpoint actions for batch archivers - dots, bells, status lines, scripts and signal " ++
    "waits every N records"

/-- How the program is called. -/
def usageLine : String := "Usage: " ++ Archive.programName ++ " [OPTIONS]\n"

/-- The help on the program. -/
def help (isFull : Bool) : String :=
  let explained := if isFull then "\n".intercalate ((entries true).map Entry.paragraph)
    else String.join ((entries false).map Entry.line)
  purpose ++ "\n\n" ++ usageLine ++ "\nOptions:\n" ++ explained

def versionLine : String := Archive.programName ++ " " ++ Archive.programVersion ++ "\n"

/-- What is wrong with a command line. -/
def Rejection.reason : Rejection → String
  | unknownArgument => "unexpected argument found"
  | invalidValue => "a value is required for an option, or is not one of its possible values"
  | valueValidation => "invalid value for an option"
  | argumentConflict => "an option cannot be used multiple times"
  | tooManyValues => "unexpected value for an option that takes none"
  | invalidUtf8 => "invalid UTF-8 was detected in one or more arguments"
  | displayHelp _ => "help requested"
  | displayVersion => "version requested"

/-- The complaint about a command line. -/
def Rejection.complaint (cause : Rejection) : String :=
  "error: " ++ cause.reason ++ "\n\n" ++ usageLine ++ "\nFor more information, try '--help'.\n"

end ProgressActions.Options
