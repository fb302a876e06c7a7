import ProgressActions.Programs.Quoting

/-!
# Words of a command line

Some words are options: letters after a hyphen, or names after two hyphens. An option may take a value,
which follows it. Names may be cut off while they stay clear. The other words are what a program works
on.
-/

namespace ProgressActions.Programs

inductive Demand where
  | nothing
  | value
  /-- A value only if it is attached. -/
  | attached
  deriving DecidableEq, Repr

/-- An option that a program knows: its letter or its name, and further names. -/
structure Choice where
  key : String
  names : List String := []
  demand : Demand := .nothing

structure Usage where
  choices : List Choice
  /-- Whether options may stand behind other words. -/
  permutes : Bool := true
  /-- The status for words that are not understood. -/
  failure : Nat := 1

inductive UsageProblem where
  | unknownLetter (letter : Char)
  | letterWithoutValue (letter : Char)
  | unknownName (word : Octets)
  | unclearName (word : Octets) (possible : List String)
  | needlessValue (name : String)
  | nameWithoutValue (name : String)
  deriving DecidableEq, Repr

namespace UsageProblem

def message : UsageProblem → Octets
  | unknownLetter letter => "invalid option -- '".toList ++ [letter, '\'']
  | letterWithoutValue letter => "option requires an argument -- '".toList ++ [letter, '\'']
  | unknownName word => "unrecognized option '".toList ++ word ++ ['\'']
  | unclearName word possible =>
    "option '".toList ++ word ++ "' is ambiguous; possibilities:".toList ++
      possible.flatMap fun name ↦ " '--".toList ++ name.toList ++ ['\'']
  | needlessValue name => "option '--".toList ++ name.toList ++ "' doesn't allow an argument".toList
  | nameWithoutValue name => "option '--".toList ++ name.toList ++ "' requires an argument".toList

end UsageProblem

/-- Words that have been understood: the options with their values in order, and the other words. -/
structure Given where
  options : List (String × Option Octets) := []
  words : List Octets := []
  deriving DecidableEq, Repr

namespace Given

def has (g : Given) (key : String) : Bool := g.options.any (·.1 == key)

def values (g : Given) (key : String) : List Octets :=
  g.options.filterMap fun (found, value) ↦ if found = key then value else none

def value? (g : Given) (key : String) : Option Octets := (g.values key).getLast?

def last? (g : Given) (keys : List String) : Option String :=
  (g.options.filterMap fun (found, _) ↦ if keys.contains found then some found else none).getLast?

def withOption (g : Given) (key : String) (value : Option Octets) : Given :=
  { g with options := (key, value) :: g.options }

def withWord (g : Given) (word : Octets) : Given := { g with words := word :: g.words }

end Given

namespace Usage

def ofLetter? (u : Usage) (letter : Char) : Option Choice :=
  u.choices.find? fun c ↦ c.key == String.singleton letter

def namesOf (c : Choice) : List String :=
  if c.key.length = 1 then c.names else c.key :: c.names

/-- The option that a name spells, with the name in full; the name may be cut off. -/
def ofName? (u : Usage) (word name : Octets) : Except UsageProblem (Choice × String) :=
  let all := u.choices.flatMap fun c ↦ (namesOf c).map fun found ↦ (c, found)
  match all.find? fun (_, found) ↦ found.toList == name with
  | some found => .ok found
  | none =>
    match all.filter fun (_, found) ↦ name.isPrefixOf found.toList with
    | [] => .error (.unknownName word)
    | first :: others =>
      if others.all fun (c, _) ↦ c.key == first.1.key then .ok first
      else .error (.unclearName word ((first :: others).map (·.2)))

def letters (u : Usage) : Octets → List Octets →
    Except UsageProblem (List (String × Option Octets) × List Octets)
  | [], words => .ok ([], words)
  | letter :: rest, words =>
    match u.ofLetter? letter with
    | none => .error (.unknownLetter letter)
    | some c =>
      match c.demand with
      | .nothing => do
        let (found, left) ← u.letters rest words
        pure ((c.key, none) :: found, left)
      | .attached => .ok ([(c.key, if rest = [] then none else some rest)], words)
      | .value =>
        match rest, words with
        | [], [] => .error (.letterWithoutValue letter)
        | [], word :: more => .ok ([(c.key, some word)], more)
        | _, _ => .ok ([(c.key, some rest)], words)

/-- The option of a name after two hyphens, and the words that are left. -/
def named (u : Usage) (word : Octets) (words : List Octets) :
    Except UsageProblem ((String × Option Octets) × List Octets) := do
  let text := word.drop 2
  let name := text.takeWhile (· != '=')
  let value? := if text.length = name.length then none else some (text.drop (name.length + 1))
  let shown := "--".toList ++ name
  let (c, full) ← u.ofName? (if value?.isSome then word else shown) name
  match c.demand, value?, words with
  | .nothing, some _, _ => throw (.needlessValue full)
  | .nothing, none, _ => pure ((c.key, none), words)
  | .attached, _, _ => pure ((c.key, value?), words)
  | .value, some value, _ => pure ((c.key, some value), words)
  | .value, none, next :: rest => pure ((c.key, some next), rest)
  | .value, none, [] => throw (.nameWithoutValue full)

def readWith (u : Usage) : (limit : Nat) → List Octets → Except UsageProblem Given
  | 0, words => .ok { words }
  | _ + 1, [] => .ok {}
  | limit + 1, word :: rest =>
    match word with
    | ['-', '-'] => .ok { words := rest }
    | '-' :: '-' :: _ => do
      let ((key, value), left) ← u.named word rest
      pure ((← u.readWith limit left).withOption key value)
    | '-' :: letter :: more => do
      let (found, left) ← u.letters (letter :: more) rest
      let later ← u.readWith limit left
      pure { later with options := found ++ later.options }
    | _ =>
      if u.permutes then do pure ((← u.readWith limit rest).withWord word)
      else .ok { words := word :: rest }

def read (u : Usage) (words : List Octets) : Except UsageProblem Given :=
  u.readWith (words.length + 1) words

/-- Words after two hyphens are what a program works on. -/
theorem read_separator (u : Usage) (words : List Octets) :
    u.read (['-', '-'] :: words) = .ok { words } := rfl

end Usage

end ProgressActions.Programs
