import ProgressActions.Process.Search
import ProgressActions.Programs.Grep
import ProgressActions.Programs.Listing
import ProgressActions.Programs.Running

/-!
# Walking through directories

`find` visits files in directories and below, and evaluates an expression for each of them. Parts of an
expression test the file or do something with it.
-/

namespace ProgressActions.Programs

namespace Find

/-- A number that is compared with: less, equal or more. -/
structure Bound where
  order : Ordering
  number : Nat
  deriving DecidableEq, Repr

def Bound.admits (b : Bound) (n : Nat) : Bool := compare n b.number == b.order

/-- What a file is asked, or what is done with it. -/
inductive Step where
  | always (answer : Bool)
  | name (glob : Octets) (foldsCase : Bool)
  | path (glob : Octets) (foldsCase : Bool)
  | linkName (glob : Octets)
  | regex (x : Regex) (foldsCase : Bool)
  | kinds (letters : Octets) (follows : Bool)
  | size (bound : Bound) (unit : Nat)
  | isEmpty
  | permissions (mode : Nat) (kind : Char)
  | newer (moment : Int)
  | age (bound : Bound) (unit : Nat)
  | names (bound : Bound)
  | sameFile (id : Nat)
  | isOwned (isRoot : Bool)
  | print (ending : Char)
  | printBy (format : Octets)
  | list
  | execute (words : List Octets) (inPlace : Bool)
  | collect (words : List Octets) (number : Nat)
  | ask (words : List Octets)
  | delete
  | prune
  | quit
  deriving DecidableEq

inductive Condition where
  | step (s : Step)
  | not (c : Condition)
  | and (a b : Condition)
  | or (a b : Condition)
  /-- Both are evaluated, and the second one counts. -/
  | list (a b : Condition)

/-- Whether a step does something that makes printing needless. -/
def Step.isAction : Step → Bool
  | print _ => true
  | printBy _ => true
  | list => true
  | execute _ _ => true
  | collect _ _ => true
  | ask _ => true
  | delete => true
  | _ => false

def Condition.any (isWanted : Step → Bool) : Condition → Bool
  | step s => isWanted s
  | not c => c.any isWanted
  | and a b => a.any isWanted || b.any isWanted
  | or a b => a.any isWanted || b.any isWanted
  | list a b => a.any isWanted || b.any isWanted

/-- The command lines that files are collected for, with their numbers. -/
def Condition.collections : Condition → List (Nat × List Octets)
  | step (.collect words number) => [(number, words)]
  | step _ => []
  | not c => c.collections
  | and a b => a.collections ++ b.collections
  | or a b => a.collections ++ b.collections
  | list a b => a.collections ++ b.collections

/-! ## Reading expressions -/

/-- A reader of an expression: the words that are left, the depths that are admitted, and whether what is
in a directory comes in front of it. -/
structure Cursor where
  rest : List Octets
  least : Nat := 0
  most : Option Nat := none
  contentsFirst : Bool := false
  collections : Nat := 0

abbrev Reader := StateT Cursor (Except Octets)

/-- The next word, which an option asks for. -/
def argument (key : Octets) : Reader Octets := do
  let c ← get
  match c.rest with
  | word :: more =>
    set { c with rest := more }
    pure word
  | [] => throw ("missing argument to \x60".toList ++ key ++ ['\''])

def bound? (text : Octets) : Option Bound :=
  let (order, digits) : Ordering × Octets := match text with
    | '+' :: rest => (.gt, rest)
    | '-' :: rest => (.lt, rest)
    | _ => (.eq, text)
  (Text.natural? digits).map fun number ↦ ⟨order, number⟩

/-- The size in octets of the unit that a letter stands for. -/
def unit? : Octets → Option Nat
  | [] => some 512
  | ['b'] => some 512
  | ['c'] => some 1
  | ['w'] => some 2
  | ['k'] => some 1024
  | ['M'] => some (Nat.pow 1024 2)
  | ['G'] => some (Nat.pow 1024 3)
  | _ => none

/-- A whole number that an option asks for. -/
def depth (key : Octets) : Reader Nat := do
  let text ← argument key
  match Text.natural? text with
  | some n => pure n
  | none =>
    throw ("Expected a positive decimal integer argument to ".toList ++ key ++ ", but got ".toList ++
      Quoting.plain text)

/-- The words of a command up to its end, and whether it is for many files at once. -/
def commandWords (key : Octets) : Reader (List Octets × Bool) := do
  let c ← get
  let rec upTo : List Octets → List Octets → Option (List Octets × Bool × List Octets)
    | _, [] => none
    | done, [';'] :: rest => some (done.reverse, false, rest)
    | done, word :: rest =>
      if word = ['+'] ∧ done.head? = some "\x7b\x7d".toList then some ((done.drop 1).reverse, true, rest)
      else upTo (word :: done) rest
  match upTo [] c.rest with
  | some (words, isMany, rest) =>
    if words = [] then throw ("missing argument to \x60".toList ++ key ++ ['\''])
    set { c with rest }
    pure (words, isMany)
  | none => throw ("missing argument to \x60".toList ++ key ++ ['\''])

def boundArgument (key : Octets) : Reader Bound := do
  let text ← argument key
  match bound? text with
  | some b => pure b
  | none => throw ("invalid argument \x60".toList ++ text ++ "' to \x60".toList ++ key ++ ['\''])

def step (p : Process) (follows : Bool) (key : Octets) : Reader Step := do
  match String.ofList key with
  | "-true" => pure (.always true)
  | "-false" => pure (.always false)
  | "-name" => pure (.name (← argument key) false)
  | "-iname" => pure (.name (← argument key) true)
  | "-path" => pure (.path (← argument key) false)
  | "-wholename" => pure (.path (← argument key) false)
  | "-ipath" => pure (.path (← argument key) true)
  | "-lname" => pure (.linkName (← argument key))
  | "-type" => kinds (← argument key) follows
  | "-xtype" => kinds (← argument key) true
  | "-empty" => pure .isEmpty
  | "-size" =>
    let text ← argument key
    let number := text.takeWhile fun c ↦ c.isDigit || c == '+' || c == '-'
    match bound? number, unit? (text.drop number.length) with
    | some b, some unit => pure (.size b unit)
    | _, _ => throw ("invalid argument \x60".toList ++ text ++ "' to \x60".toList ++ key ++ ['\''])
  | "-perm" =>
    let text ← argument key
    let (kind, mode) := match text with
      | '-' :: rest => ('-', rest)
      | '/' :: rest => ('/', rest)
      | _ => (' ', text)
    match Permissions.change? 0 false 0 mode with
    | some bits => pure (.permissions bits kind)
    | none => throw ("invalid mode ".toList ++ Quoting.plain text)
  | "-newer" =>
    let other ← argument key
    match p.node? other with
    | .ok id => pure (.newer (p.machine.node id).modified)
    | .error cause => throw (Job.refusal (Quoting.always other) cause)
  | "-samefile" =>
    let other ← argument key
    match p.node? other false with
    | .ok id => pure (.sameFile id)
    | .error cause => throw (Job.refusal (Quoting.always other) cause)
  | "-mtime" => pure (.age (← boundArgument key) 86400)
  | "-atime" => pure (.age (← boundArgument key) 86400)
  | "-ctime" => pure (.age (← boundArgument key) 86400)
  | "-mmin" => pure (.age (← boundArgument key) 60)
  | "-amin" => pure (.age (← boundArgument key) 60)
  | "-cmin" => pure (.age (← boundArgument key) 60)
  | "-links" => pure (.names (← boundArgument key))
  | "-user" =>
    let user ← argument key
    pure (.isOwned (user == "root".toList || user == ['0']))
  | "-group" =>
    let group ← argument key
    pure (.isOwned (group == "root".toList || group == ['0']))
  | "-uid" => do pure (.isOwned ((← argument key) == ['0']))
  | "-gid" => do pure (.isOwned ((← argument key) == ['0']))
  | "-nouser" => pure (.always false)
  | "-nogroup" => pure (.always false)
  | "-readable" => pure (.always true)
  | "-writable" => pure (.always true)
  | "-executable" => pure (.permissions 0o111 '/')
  | "-regex" => regex (← argument key) false
  | "-iregex" => regex (← argument key) true
  | "-print" => pure (.print '\n')
  | "-print0" => pure (.print '\x00')
  | "-printf" => pure (.printBy (← argument key))
  | "-ls" => pure .list
  | "-exec" => command key false
  | "-execdir" => command key true
  | "-ok" => do pure (.ask (← commandWords key).1)
  | "-okdir" => do pure (.ask (← commandWords key).1)
  | "-delete" =>
    modify ({ · with contentsFirst := true })
    pure .delete
  | "-prune" => pure .prune
  | "-quit" => pure .quit
  | "-maxdepth" =>
    let n ← depth key
    modify ({ · with most := some n })
    pure (.always true)
  | "-mindepth" =>
    let n ← depth key
    modify ({ · with least := n })
    pure (.always true)
  | "-depth" =>
    modify ({ · with contentsFirst := true })
    pure (.always true)
  | "-d" =>
    modify ({ · with contentsFirst := true })
    pure (.always true)
  | "-xdev" => pure (.always true)
  | "-mount" => pure (.always true)
  | "-noleaf" => pure (.always true)
  | "-nowarn" => pure (.always true)
  | "-daystart" => pure (.always true)
  | "-regextype" =>
    discard (argument key)
    pure (.always true)
  | _ => throw ("unknown predicate \x60".toList ++ key ++ ['\''])
where
  kinds (letters : Octets) (follows : Bool) : Reader Step := do
    let all := letters.filter (· != ',')
    match all.find? fun c ↦ !"bcdpflsD".toList.contains c with
    | some _ => throw ("Unknown argument to -type: ".toList ++ letters)
    | none => pure (.kinds all follows)
  regex (text : Octets) (foldsCase : Bool) : Reader Step :=
    match Regex.parse .basic text with
    | .ok x => pure (.regex x foldsCase)
    | .error problem => throw problem.message.toList
  command (key : Octets) (inPlace : Bool) : Reader Step := do
    let (words, isMany) ← commandWords key
    if isMany then
      let number := (← get).collections
      modify ({ · with collections := number + 1 })
      pure (.collect words number)
    else pure (.execute words inPlace)

def goesOn (word : Octets) : Bool := !(["-o", "-or", ",", ")"].contains (String.ofList word))

mutual

def commaList (p : Process) (follows : Bool) : (limit : Nat) → Reader Condition
  | 0 => throw "invalid expression".toList
  | limit + 1 => do
    let first ← alternatives p follows limit
    if (← get).rest.head? = some [','] then
      modify fun c ↦ { c with rest := c.rest.drop 1 }
      pure (.list first (← commaList p follows limit))
    else pure first

def alternatives (p : Process) (follows : Bool) : (limit : Nat) → Reader Condition
  | 0 => throw "invalid expression".toList
  | limit + 1 => do
    let first ← row p follows limit
    match ((← get).rest.head?).map String.ofList with
    | some word =>
      if word = "-o" ∨ word = "-or" then
        modify fun c ↦ { c with rest := c.rest.drop 1 }
        pure (.or first (← alternatives p follows limit))
      else pure first
    | none => pure first

def row (p : Process) (follows : Bool) : (limit : Nat) → Reader Condition
  | 0 => throw "invalid expression".toList
  | limit + 1 => do
    let first ← single p follows limit
    match (← get).rest with
    | [] => pure first
    | word :: more =>
      if !goesOn word then pure first
      else
        if word = "-a".toList ∨ word = "-and".toList then modify ({ · with rest := more })
        pure (.and first (← row p follows limit))

def single (p : Process) (follows : Bool) : (limit : Nat) → Reader Condition
  | 0 => throw "invalid expression".toList
  | limit + 1 => do
    match (← get).rest with
    | [] => throw "invalid expression; expected something after an operator".toList
    | word :: more =>
      modify ({ · with rest := more })
      match String.ofList word with
      | "!" => .not <$> single p follows limit
      | "-not" => .not <$> single p follows limit
      | "(" =>
        if more = [] then
          throw ("invalid expression; expected to find a ')' but didn't see one. " ++
            "Perhaps you need an extra predicate after '('").toList
        let inside ← commaList p follows limit
        match (← get).rest with
        | [')'] :: after =>
          modify ({ · with rest := after })
          pure inside
        | _ =>
          throw "invalid expression; I was expecting to find a ')' somewhere but did not see one.".toList
      | ")" => throw "invalid expression; you have too many ')'".toList
      | _ => .step <$> step p follows word

end

/-- The expression that words spell, with what else they say. -/
def parse (p : Process) (follows : Bool) (words : List Octets) : Except Octets (Condition × Cursor) := do
  if words = [] then pure (.step (.always true), { rest := [] })
  else
    let (condition, last) ← (commaList p follows (8 * words.length + 16)).run { rest := words }
    match last.rest with
    | [] => pure (condition, last)
    | word :: _ =>
      if word = [')'] then throw "invalid expression; you have too many ')'".toList
      else throw ("paths must precede expression: \x60".toList ++ word ++ ['\''])

/-! ## Visiting files -/

structure Visit where
  path : Octets
  /-- The path that the walk has begun with. -/
  start : Octets
  depth : Nat
  id : Nat

/-- What a walk remembers: whether the directory at hand is left out, whether the walk is over, whether all
went well, and the files that are collected. -/
structure Memory where
  isPruned : Bool := false
  isOver : Bool := false
  isWell : Bool := true
  collected : List (Nat × Octets) := []

abbrev Walk := StateT Memory Job

def matchesGlob (glob text : Octets) (foldsCase : Bool) : Bool :=
  let fold : Octets → Octets := fun t ↦ if foldsCase then t.map Char.toLower else t
  Shell.Pattern.isMatch (fold glob) (fold text)

def figure (m : Machine) (v : Visit) (letter : Char) : Octets :=
  match letter with
  | 'p' => v.path
  | 'f' => Path.base v.path
  | 'h' =>
    if v.path.contains '/' then
      let front := ((v.path.reverse.dropWhile (· != '/')).drop 1).reverse
      if front = [] then ['/'] else front
    else ['.']
  | 'P' =>
    let rest := v.path.drop v.start.length
    if rest.head? = some '/' then rest.drop 1 else rest
  | 'H' => v.start
  | 'd' => Text.numeral v.depth
  | 's' => Text.numeral (m.size v.id)
  | 'm' => Nat.toDigits 8 (m.node v.id).mode
  | 'M' => Kind.letter (m.body v.id) :: Permissions.letters (m.node v.id).mode
  | 'y' => match Kind.letter (m.body v.id) with
    | '-' => ['f']
    | c => [c]
  | 'l' => match m.body v.id with
    | .link target => target
    | _ => []
  | 'u' => "root".toList
  | 'g' => "root".toList
  | 'U' => ['0']
  | 'G' => ['0']
  | 'n' => Text.numeral (nameCount m v.id)
  | 'i' => Text.numeral (1000 + v.id)
  | 'b' => Text.numeral (blocks m v.id)
  | 'k' => Text.numeral (blocks m v.id / 2)
  | _ => []

def formatted (m : Machine) (v : Visit) : (limit : Nat) → Octets → Octets
  | 0, _ => []
  | _ + 1, [] => []
  | limit + 1, '%' :: rest =>
    let flags := rest.takeWhile fun c ↦ c == '-' || c == '0'
    let digits := (rest.drop flags.length).takeWhile Char.isDigit
    match rest.drop (flags.length + digits.length) with
    | '%' :: more => '%' :: formatted m v limit more
    | 'T' :: '@' :: more =>
      Octets.ofInt (m.node v.id).modified ++ ".0000000000".toList ++ formatted m v limit more
    | letter :: more =>
      let text := figure m v letter
      let width := Text.digitsValue digits
      let shown := if flags.contains '-' then text ++ List.replicate (width - text.length) ' '
        else Text.padStart width ' ' text
      shown ++ formatted m v limit more
    | [] => ['%']
  | limit + 1, '\\' :: c :: rest =>
    match Text.namedEscape c with
    | some d => d :: formatted m v limit rest
    | none => if c = '0' then '\x00' :: formatted m v limit rest else '\\' :: c :: formatted m v limit rest
  | limit + 1, c :: rest => c :: formatted m v limit rest

/-- Runs a command in a process of its own, and tells whether it went well. -/
def runCommand (launch : Launcher) (name : Octets) (directory? : Option Octets) (words : List Octets) :
    Job Bool := do
  let work : Work (Except SystemError Ending) := do
    match directory? with
    | some path => discard (Process.enter path)
    | none => pure ()
    Search.run launch words
  match ← liftM (Process.inChild id work) with
  | .ok ending => pure ending.isSuccess
  | .error cause =>
    Job.complain name (Job.refusal (Quoting.always (words.headD [])) cause)
    pure false

def answer (launch : Launcher) (name : Octets) (v : Visit) (s : Step) : Walk Bool := do
  let p : Process ← get (m := Job)
  let m := p.machine
  let node := m.node v.id
  match s with
  | .always b => pure b
  | .name glob foldsCase => pure (matchesGlob glob (Path.base v.path) foldsCase)
  | .path glob foldsCase => pure (matchesGlob glob v.path foldsCase)
  | .linkName glob => pure (match node.body with
    | .link target => matchesGlob glob target false
    | _ => false)
  | .regex x foldsCase =>
    let r : Regex.Reading := { text := v.path.toArray, foldsCase }
    pure ((Regex.ends r x [0]).contains v.path.length)
  | .kinds letters follows =>
    let id := if follows then ((p.node? v.path).toOption).getD v.id else v.id
    let letter := match Kind.letter (m.body id) with
      | '-' => 'f'
      | c => c
    pure (letters.contains letter)
  | .size bound unit => pure (bound.admits ((m.size v.id + unit - 1) / unit))
  | .isEmpty => pure (match node.body with
    | .directory _ entries => entries.isEmpty
    | .file content => content.size == 0
    | _ => false)
  | .permissions bits kind =>
    pure (match kind with
      | '-' => node.mode &&& bits == bits
      | '/' => bits == 0 || node.mode &&& bits != 0
      | _ => node.mode == bits)
  | .newer moment => pure (decide (moment < node.modified))
  | .age bound unit => pure (bound.admits ((m.now - node.modified).toNat / unit))
  | .names bound => pure (bound.admits (nameCount m v.id))
  | .sameFile id => pure (id == v.id)
  | .isOwned isRoot => pure isRoot
  | .print ending =>
    Job.put name (v.path ++ [ending])
    pure true
  | .printBy format =>
    Job.put name (formatted m v (format.length + 1) format)
    pure true
  | .list =>
    let line := Ls.longLines {} m [{ name := v.path, id := v.id }]
    Job.put name (Text.padStart 9 ' ' (Text.numeral (1000 + v.id)) ++ ' ' ::
      Text.padStart 6 ' ' (Text.numeral (blocks m v.id / 2)) ++ ' ' :: Octets.ended '\n' line)
    pure true
  | .execute words inPlace =>
    let shown := if inPlace then Path.join ['.'] (Path.base v.path) else v.path
    let directory? := if inPlace then some (Path.parent v.path) else none
    let all := words.map fun word ↦ Xargs.replaced "\x7b\x7d".toList shown (word.length + 1) word
    runCommand launch name directory? all
  | .collect _ number =>
    modifyThe Memory fun k ↦ { k with collected := (number, v.path) :: k.collected }
    pure true
  | .ask words =>
    let all := words.map fun word ↦ Xargs.replaced "\x7b\x7d".toList v.path (word.length + 1) word
    let yes ← isAffirmed ("< ".toList ++ words.headD [] ++ " ... ".toList ++ v.path ++ " > ?".toList)
    if yes then runCommand launch name none all else pure false
  | .delete =>
    if v.path = ['.'] then pure true
    else
      let request := if m.isDirectory v.id then Process.removeDirectory v.path else Process.removeName v.path
      let done ← attempt name request ("cannot delete ".toList ++ Quoting.always v.path)
      if !done then modifyThe Memory ({ · with isWell := false })
      pure done
  | .prune =>
    modifyThe Memory ({ · with isPruned := true })
    pure true
  | .quit =>
    modifyThe Memory ({ · with isOver := true })
    pure true

def evaluate (launch : Launcher) (name : Octets) (v : Visit) : Condition → Walk Bool
  | .step s => do
    let k ← getThe Memory
    if k.isOver then pure false else answer launch name v s
  | .not c => do pure (!(← evaluate launch name v c))
  | .and a b => do
    let first ← evaluate launch name v a
    if first then evaluate launch name v b else pure false
  | .or a b => do
    let first ← evaluate launch name v a
    if first then pure true else evaluate launch name v b
  | .list a b => do
    discard (evaluate launch name v a)
    evaluate launch name v b

def visit (launch : Launcher) (name : Octets) (follows : Bool) (condition : Condition) (c : Cursor)
    (start : Octets) : (limit : Nat) → (depth : Nat) → (path : Octets) → Walk Unit
  | 0, _, _ => pure ()
  | limit + 1, depth, path => do
    if (← getThe Memory).isOver then pure ()
    else
      let p : Process ← get (m := Job)
      let found := match p.node? path follows with
        | .ok id => Except.ok id
        | .error _ => p.node? path false
      match found with
      | .error cause =>
        Job.complain name (Job.refusal (Quoting.always path) cause)
        modifyThe Memory ({ · with isWell := false })
      | .ok id =>
        let here : Visit := { path, start, depth, id }
        let look : Walk Unit := do
          if c.least ≤ depth then discard (evaluate launch name here condition)
        modifyThe Memory ({ · with isPruned := false })
        if !c.contentsFirst then look
        let isPruned := (← getThe Memory).isPruned
        let goesDown := p.machine.isDirectory id && !isPruned && c.most.all (depth < ·)
        if goesDown then
          for (entry, _) in p.machine.entries id do
            visit launch name follows condition c start limit (depth + 1) (Path.join path entry)
        if c.contentsFirst then look

end Find

/-- Visits files in directories and below. -/
def find (launch : Launcher) : Program := fun name arguments ↦ do
  let options := arguments.takeWhile fun word ↦ ["-L", "-H", "-P", "-O0", "-O1", "-O2", "-O3"].contains
    (String.ofList word)
  let follows := (options.filter fun word ↦ word != "-H".toList).getLast? == some "-L".toList
  let rest := arguments.drop options.length
  let isPath (word : Octets) : Bool :=
    !(word.head? == some '-' && 1 < word.length) && !(["(", "!", ")", ","].contains (String.ofList word))
  let starts := rest.takeWhile isPath
  let words := rest.drop starts.length
  let p ← get
  match Find.parse p follows words with
  | .error text => Job.fail name text
  | .ok (condition, cursor) =>
    let whole := if condition.any Find.Step.isAction then condition
      else .and condition (.step (.print '\n'))
    let all := if starts = [] then [['.']] else starts
    let work : Find.Walk Unit := do
      for start in all do
        Find.visit launch name follows whole cursor start ((← getThe Process).machine.nodes.size + 8) 0 start
    let (_, memory) ← work.run {}
    let mut isWell := memory.isWell
    for (number, command) in whole.collections do
      let files := (memory.collected.reverse.filter (·.1 == number)).map (·.2)
      if files ≠ [] then
        let done ← Find.runCommand launch name none (command ++ files)
        isWell := isWell && done
    Job.finish isWell

end ProgressActions.Programs
