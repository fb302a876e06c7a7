import ProgressActions.Programs.Sed.Run

/-!
# The stream editor

`sed` edits the lines of files by a script, which is given among its words or in files.
-/

namespace ProgressActions.Programs

namespace Sed

def usage : Usage :=
  { choices :=
      [{ key := "b", names := ["binary"] }, { key := "E", names := ["regexp-extended"] }, { key := "r" },
       { key := "debug" }, { key := "i", names := ["in-place"], demand := .attached },
       { key := "e", names := ["expression"], demand := .value },
       { key := "f", names := ["file"], demand := .value },
       { key := "l", names := ["line-length"], demand := .value },
       { key := "z", names := ["null-data", "zero-terminated"] },
       { key := "n", names := ["quiet", "silent"] }, { key := "posix" }, { key := "sandbox" },
       { key := "s", names := ["separate"] }, { key := "u", names := ["unbuffered"] },
       { key := "follow-symlinks" }] }

def usageText : Octets :=
  ("Usage: sed [OPTION]... \x7bscript-only-if-no-other-script\x7d [input-file]...\n\n" ++
    "  -n, --quiet, --silent\n" ++
    "                 suppress automatic printing of pattern space\n" ++
    "      --debug\n" ++
    "                 annotate program execution\n" ++
    "  -e script, --expression=script\n" ++
    "                 add the script to the commands to be executed\n" ++
    "  -f script-file, --file=script-file\n" ++
    "                 add the contents of script-file to the commands to be executed\n" ++
    "  --follow-symlinks\n" ++
    "                 follow symlinks when processing in place\n" ++
    "  -i[SUFFIX], --in-place[=SUFFIX]\n" ++
    "                 edit files in place (makes backup if SUFFIX supplied)\n" ++
    "  -l N, --line-length=N\n" ++
    "                 specify the desired line-wrap length for the \x60l' command\n" ++
    "  --posix\n" ++
    "                 disable all GNU extensions.\n" ++
    "  -E, -r, --regexp-extended\n" ++
    "                 use extended regular expressions in the script\n" ++
    "                 (for portability use POSIX -E).\n" ++
    "  -s, --separate\n" ++
    "                 consider files as separate rather than as a single,\n" ++
    "                 continuous long stream.\n" ++
    "      --sandbox\n" ++
    "                 operate in sandbox mode (disable e/r/w commands).\n" ++
    "  -u, --unbuffered\n" ++
    "                 load minimal amounts of data from the input files and flush\n" ++
    "                 the output buffers more often\n" ++
    "  -z, --null-data\n" ++
    "                 separate lines by NUL characters\n" ++
    "      --help     display this help and exit\n" ++
    "      --version  output version information and exit\n\n" ++
    "If no -e, --expression, -f, or --file option is given, then the first\n" ++
    "non-option argument is taken as the sed script to interpret.  All\n" ++
    "remaining arguments are names of input files; if no input files are\n" ++
    "specified, then the standard input is read.\n\n" ++
    "GNU sed home page: <https://www.gnu.org/software/sed/>.\n" ++
    "General help using GNU software: <https://www.gnu.org/gethelp/>.\n").toList

def pieces (name : Octets) : (number : Nat) → List (String × Option Octets) → Job (List (Source × Octets))
  | _, [] => pure []
  | number, (key, value) :: rest => do
    let word := value.getD []
    if key = "e" then
      pure ((.expression number, word) :: (← pieces name (number + 1) rest))
    else if key = "f" then
      match ← Job.input word with
      | .ok text => pure ((.file word, text) :: (← pieces name number rest))
      | .error cause => Job.fail name (Job.refusal ("couldn't open file ".toList ++ word) cause) 4
    else pieces name number rest

def leading (text : Octets) : Nat := Text.digitsValue (text.takeWhile Char.isDigit)

end Sed

def sed (launch : Launcher) : Program := fun name arguments ↦ do
  let misused {α : Type} : Job α := do
    Job.printError Sed.usageText
    Job.exit 1
  let given ← match Sed.usage.read arguments with
    | .ok given => pure given
    | .error problem =>
      Job.complain name problem.message
      misused
  let isGiven := given.has "e" || given.has "f"
  let found ← if isGiven then Sed.pieces name 1 given.options
    else
      match given.words with
      | [] => misused
      | script :: _ => pure [(.expression 1, script)]
  let files := if isGiven then given.words else given.words.drop 1
  let dialect : Sed.Dialect :=
    { isExtended := given.has "E" || given.has "r", isSandboxed := given.has "sandbox" }
  match Sed.Script.parse dialect found with
  | .error (place, problem) =>
    Job.fail name (place.description ++ ": ".toList ++ problem.message) 1
  | .ok (script, jumps, place) =>
    match jumps.find? fun label ↦ label ≠ [] ∧ (script.labels.lookup label).isNone with
    | some label => Job.fail name ("can't find label for jump to \x60".toList ++ label ++ ['\'']) 4
    | none =>
      let isInPlace := given.has "i"
      if isInPlace ∧ files = [] then Job.fail name "no input files".toList 4
      let settings : Sed.Settings :=
        { launch, name, script
          place := { place with column := 0 }
          mark := if given.has "z" then '\x00' else '\n'
          isQuiet := given.has "n" || script.isQuiet
          isSeparate := isInPlace || given.has "s"
          suffix? := if isInPlace then some ((given.value? "i").getD []) else none
          width := (given.value? "l").elim 70 Sed.leading
          isUnbuffered := given.has "u"
          dropsLast := given.has "posix" }
      (Sed.Run.all settings).run' { files := Job.inputs files }

end ProgressActions.Programs
