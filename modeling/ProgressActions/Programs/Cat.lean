import ProgressActions.Programs.Basic

/-!
# Putting files together

`cat` writes files one after another. It can number lines, leave out repeated empty lines, and show what
cannot be seen.
-/

namespace ProgressActions.Programs

namespace Cat

structure Style where
  numbersAll : Bool := false
  numbersFilled : Bool := false
  squeezes : Bool := false
  showsEnds : Bool := false
  showsTabs : Bool := false
  showsControls : Bool := false

/-- Where in the text of all files a copy stands. -/
structure Position where
  /-- How many lines have been numbered. -/
  number : Nat := 0
  /-- Whether a line is under way. -/
  isInside : Bool := false
  /-- How many empty lines come right before. -/
  empty : Nat := 0
  /-- Whether a carriage return is held back. -/
  holdsReturn : Bool := false

def spelled (n : Nat) : Octets :=
  let low : Nat → Octets := fun n ↦
    if n < 32 then ['^', Char.ofNat (n + 64)] else if n = 127 then "^?".toList else [Char.ofNat n]
  if n < 128 then low n else "M-".toList ++ low (n - 128)

def shown (s : Style) (c : Char) : Octets :=
  if c = '\t' then (if s.showsTabs then "^I".toList else [c])
  else if s.showsControls then spelled c.toNat
  else [c]

def numberText (n : Nat) : Octets := Text.padStart 6 ' ' (Text.numeral n) ++ ['\t']

def feed (s : Style) (p : Position) : Octets × Position :=
  let held : Octets := if p.holdsReturn then (if s.showsEnds then "^M".toList else ['\x0d']) else []
  let mark : Octets := held ++ (if s.showsEnds then ['$'] else []) ++ ['\n']
  if p.isInside then (mark, { p with isInside := false, empty := 0, holdsReturn := false })
  else if s.squeezes ∧ 1 ≤ p.empty then ([], p)
  else if s.numbersAll ∧ !s.numbersFilled then
    (numberText (p.number + 1) ++ mark, { p with number := p.number + 1, empty := p.empty + 1 })
  else (mark, { p with empty := p.empty + 1 })

def step (s : Style) (p : Position) (c : Char) : Octets × Position :=
  if c = '\n' then feed s p
  else
    let held : Octets := if p.holdsReturn then ['\x0d'] else []
    let isNumbered := !p.isInside && (s.numbersAll || s.numbersFilled)
    let front := if isNumbered then numberText (p.number + 1) else []
    let holds := c == '\x0d' && s.showsEnds && !s.showsControls
    (front ++ held ++ (if holds then [] else shown s c),
      { p with
        number := if isNumbered then p.number + 1 else p.number
        isInside := true
        holdsReturn := holds })

def render (s : Style) (p : Position) (text : Octets) : Octets × Position :=
  let (pieces, last) := text.foldl (fun (pieces, p) c ↦
    let (piece, next) := step s p c
    (piece :: pieces, next)) (([] : List Octets), p)
  (pieces.reverse.flatten, last)

/-- Whether nothing about the text is changed. -/
def Style.isPlain (s : Style) : Bool :=
  !(s.numbersAll || s.numbersFilled || s.squeezes || s.showsEnds || s.showsTabs || s.showsControls)

def usage : Usage :=
  { choices :=
      [{ key := "A", names := ["show-all"] }, { key := "b", names := ["number-nonblank"] }, { key := "e" },
       { key := "E", names := ["show-ends"] }, { key := "n", names := ["number"] },
       { key := "s", names := ["squeeze-blank"] }, { key := "t" },
       { key := "T", names := ["show-tabs"] }, { key := "u" },
       { key := "v", names := ["show-nonprinting"] }] }

def style (g : Given) : Style :=
  { numbersAll := g.has "n"
    numbersFilled := g.has "b"
    squeezes := g.has "s"
    showsEnds := g.has "A" || g.has "e" || g.has "E"
    showsTabs := g.has "A" || g.has "t" || g.has "T"
    showsControls := g.has "A" || g.has "e" || g.has "t" || g.has "v" }

def feedsItself (p : Process) (file : Octets) : Bool :=
  let node? : Nat → Option (Nat × OpenFile) := fun descriptor ↦
    (p.openOf? descriptor).map fun n ↦
      let state := p.machine.opens.getD n default
      (state.node, state)
  let source := if file = ['-'] then (node? 0).map (·.1) else (p.node? file).toOption
  match source, node? 1 with
  | some a, some (b, sink) =>
    a == b && p.machine.isRegular a &&
      (if file = ['-'] then (((node? 0).map (·.2.offset)).getD 0) else 0) <
        (if sink.appends then p.machine.size a else sink.offset)
  | _, _ => false

/-- Shows files one after another, and tells whether all of them could be shown. -/
def run (name : Octets) (s : Style) : Position → List Octets → Job Bool
  | p, [] => do
    if p.holdsReturn then Job.put name ['\x0d']
    pure true
  | p, file :: rest => do
    if feedsItself (← get) file then
      Job.complain name (Quoting.needed file ++ ": input file is output file".toList)
      discard (run name s p rest)
      pure false
    else
      match ← Job.input file with
      | .error cause =>
        Job.complainOf name file cause
        discard (run name s p rest)
        pure false
      | .ok text =>
        if s.isPlain then
          Job.put name text
          run name s p rest
        else
          let (shown, next) := render s p text
          Job.put name shown
          run name s next rest

end Cat

def cat : Program := fun name arguments ↦ do
  let given ← Job.understand Cat.usage name arguments
  Job.finish (← Cat.run name (Cat.style given) {} (Job.inputs given.words))

end ProgressActions.Programs
