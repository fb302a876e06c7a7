import ProgressActions.Shell.Simple

/-!
# Running scripts

Commands that hold others run them in the shell at hand or in children. A text is run line by line: what
is wrong with a line shows when its turn comes. How deeply commands and texts may be nested is bounded.
-/

namespace ProgressActions.Shell

namespace Act

/-! ## Loops -/

/-- What follows a round of a loop, if something is left out: the next round, or nothing. -/
def endRound : Act (Option Bool) := do
  let s ← get
  match s.skip with
  | none => pure none
  | some (.function _) => pure (some false)
  | some (.loops n) =>
    set { s with skip := if n ≤ 1 then none else some (.loops (n - 1)) }
    pure (some false)
  | some (.rounds n) =>
    set { s with skip := if n ≤ 1 then none else some (.rounds (n - 1)) }
    pure (some (n ≤ 1))

/-- Runs rounds while a condition holds, or until it does, and yields the status of the last round. -/
def runRounds (untilTrue : Bool) (condition body : Act Nat) : (limit : Nat) → (status : Nat) → Act Nat
  | 0, status => pure status
  | limit + 1, status => do
    let tested ← condition
    let isLeaving : Bool := match (← get).skip with
      | some (.function _) => true
      | _ => false
    match ← endRound with
    | some true => runRounds untilTrue condition body limit status
    | some false => pure (if isLeaving then tested else status)
    | none =>
      if (tested == 0) == untilTrue then pure status
      else
        let last ← body
        match ← endRound with
        | some false => pure last
        | _ => runRounds untilTrue condition body limit last

def runEach (name : Octets) (body : Act Nat) : (status : Nat) → List Octets → Act Nat
  | status, [] => pure status
  | _, field :: rest => do
    assign name field
    let last ← body
    match ← endRound with
    | some false => pure last
    | _ => runEach name body last rest

def inLoop (act : Act Nat) : Act Nat := do
  modify fun s ↦ { s with loops := s.loops + 1 }
  let status ← act
  modify fun s ↦ { s with loops := s.loops - 1 }
  pure status

def maxRounds : Nat := 10000000

/-! ## Choices -/

def anyAccepts (v : Services) (text : Octets) : List Word → Act Bool
  | [] => pure false
  | w :: rest => do
    let pattern ← expandPattern v w
    if Pattern.isMatch pattern text then pure true else anyAccepts v text rest

def runClauses (v : Services) (stance : Stance) (text : Octets) : List Clause → Act Nat
  | [] => pure 0
  | .mk patterns body :: rest => do
    if ← anyAccepts v text patterns then
      match body with
      | .nothing => pure 0
      | _ => v.run stance body
    else runClauses v stance text rest

/-! ## Children -/

/-- Runs a command in a child that does nothing else. -/
def runIsolated (v : Services) (stance : Stance) (redirections : List Redirection) (body : Command) :
    Act Unit := do
  redirect v redirections
  discard (v.run { stance with isLast := true } body)

/-- Remembers the place of the program that a command calls, if its name is plain. -/
def lookAhead : Command → Act Unit
  | .simple _ _ (w :: _) _ => do
    match plainText? w with
    | some name =>
      if isVariableName name then remember name ((← get).target true none name)
    | none => pure ()
  | _ => pure ()

/-- Runs commands side by side, each reading what the one before writes, and yields their endings. -/
def runPipeline (v : Services) (stance : Stance) : (input : Option Nat) → List Command → Act (List Ending)
  | _, [] => pure []
  | input, command :: rest => do
    lookAhead command
    let readInput : Process → Process := match input with
      | some file => Process.setDescriptor 0 file
      | none => id
    let run : Act Unit := discard (v.run { stance with isLast := true } command)
    if rest = [] then
      pure [← inChild v (do onProcess readInput; run)]
    else
      let (source, sink) ← work Process.openPipe
      let ending ← inChild v (do
        onProcess readInput
        onProcess (Process.setDescriptor 1 sink)
        run)
      pure (ending :: (← runPipeline v stance (some source) rest))

def capture (v : Services) (body : Command) : Act Octets := do
  match body with
  | .nothing => pure []
  | _ =>
    let (source, sink) ← work Process.openPipe
    let ending ← inChild v (do
      onProcess (Process.setDescriptor 1 sink)
      discard (v.run { isLast := true } body))
    let status ← waitForAll [ending]
    modify ({ · with outputStatus := status })
    let content ← work (Process.readOpen source)
    pure (content.toOption.getD [])

/-! ## Commands -/

def runSequence (v : Services) (stance : Stance) : List Command → Act Nat
  | [] => do pure (← get).status
  | [last] => v.run stance last
  | command :: rest => do
    let status ← v.run { stance with isLast := false } command
    if (← get).skip.isSome then pure status else runSequence v stance rest

def runConnected (v : Services) (stance : Stance) (wantsSuccess : Bool) (first second : Command) :
    Act Nat := do
  let status ← v.run { isTested := true } first
  if (status == 0) != wantsSuccess ∨ (← get).skip.isSome then pure status
  else v.run stance second

def runForm (v : Services) (stance : Stance) : Command → Act Nat
  | .nothing => do pure (← get).status
  | .simple line assignments words redirects => runSimple v stance line assignments words redirects
  | .redirected line body redirects => do
    modify ({ · with line })
    let redirections ← expandRedirects v redirects
    restoring redirections (do
      if ← redirectSafely v redirections then v.run { isTested := stance.isTested } body else pure 2)
  | .pipeline background commands => do
    if background then
      inBackground v (do
        let endings ← runPipeline v {} none commands
        setStatus ((endings.getLast?.map Ending.shellStatus).getD 0))
      pure 0
    else waitForAll (← runPipeline v stance none commands)
  | .subshell line body redirects => do
    modify ({ · with line })
    let redirections ← expandRedirects v redirects
    if stance.isLast ∧ !(← get).hasTraps then
      runIsolated v stance redirections body
      pure (← get).status
    else
      let ending ← inChild v (runIsolated v stance redirections body)
      waitForAll [ending]
  | .background line body redirects => do
    if line ≠ 0 then modify ({ · with line })
    let redirections ← expandRedirects v redirects
    inBackground v (runIsolated v {} redirections body)
    pure 0
  | .sequence commands => runSequence v stance commands
  | .both first second => runConnected v stance true first second
  | .either first second => runConnected v stance false first second
  | .negated body => do pure (if (← v.run { isTested := true } body) = 0 then 1 else 0)
  | .branch condition consequence alternative => do
    let tested ← v.run { isTested := true } condition
    if (← get).skip.isSome then pure tested
    else if tested = 0 then v.run stance consequence
    else
      match alternative with
      | some other => v.run stance other
      | none => pure 0
  | .loop untilTrue condition body =>
    inLoop (runRounds untilTrue (v.run { isTested := true } condition)
      (v.run { isTested := stance.isTested } body) maxRounds 0)
  | .each line name words body => do
    modify ({ · with line })
    let fields ← expandWords v words
    inLoop (runEach name (v.run { isTested := stance.isTested } body) 0 fields)
  | .choice line subject clauses => do
    modify ({ · with line })
    let text ← expandText v .text subject
    runClauses v stance text clauses
  | .define line name body => do
    modify fun s ↦ { s with functions := (name, line, body) :: s.functions.filter (·.1 != name) }
    pure 0

/-- Whether the failure of a command of this form may end the shell. -/
def isChecked : Command → Bool
  | .simple _ _ _ _ => true
  | .pipeline _ _ => true
  | .subshell _ _ _ => true
  | .background _ _ _ => true
  | _ => false

/-- Runs a command. Its failure may end the shell, and so does its end if it is the last one. -/
def runCommand (v : Services) (stance : Stance) (command : Command) : Act Nat := do
  if !(← hasOption 'n') then
    springTraps v
    let status ← runForm v stance command
    setStatus status
    springTraps v
    if isChecked command ∧ !stance.isTested ∧ status ≠ 0 then
      if ← hasOption 'e' then throw .ended
  if stance.isLast then throw .ended
  pure (← get).status

/-! ## Texts -/

/-- Runs the lines of a text one after another, and yields the status of the last command. -/
def runLines (v : Services) (stance : Stance) (echoes : Bool) : (limit : Nat) → (status : Nat) → Source →
    Act Nat
  | 0, status, _ => pure status
  | limit + 1, status, source => do
    let s ← get
    let fresh := { source with aliases := s.aliases, documents := s.documents }
    match Reader.line.run fresh with
    | .error e =>
      modify ({ · with line := e.line })
      fail e.cause.message.toList
    | .ok (none, _) => pure status
    | .ok (some command, next) =>
      modify ({ · with documents := next.documents })
      let isOver := match next.pushed with
        | some .finish => true
        | _ => false
      if echoes ∧ s.options.contains 'v' then
        let length : Source → Nat := fun r ↦ r.segments.foldl (fun size segment ↦ size + segment.rest.length) 0
        let text := (source.segments.head?.map (·.rest)).getD []
        printError (text.take (length source - length next))
      let last ← v.run { stance with isLast := stance.isLast && isOver } command
      let now := match command with
        | .nothing => status
        | _ => last
      if (← get).skip.isSome then pure now else runLines v stance echoes limit now next

/-- Runs a text. The lines of a file may be echoed. -/
def runText (v : Services) (stance : Stance) (echoes : Bool) (text : Octets) : Act Nat :=
  runLines v stance echoes (text.length + 1) 0 { segments := [⟨text, none⟩] }

end Act

/-- The services of a shell that follows commands and texts to a depth. -/
def services (launch : Launcher) : (depth : Nat) → Services
  | 0 =>
    { launch
      capture := fun _ ↦ throw (.killed .segv)
      evaluate := fun _ _ ↦ throw (.killed .segv)
      run := fun _ _ ↦ throw (.killed .segv) }
  | depth + 1 =>
    { launch
      capture := fun body ↦ Act.capture (services launch depth) body
      evaluate := fun stance text ↦ Act.runText (services launch depth) stance false text
      run := fun stance command ↦ Act.runCommand (services launch depth) stance command }

def maxNesting : Nat := 100000

end ProgressActions.Shell
