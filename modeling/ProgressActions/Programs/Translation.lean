import ProgressActions.Programs.Basic
import ProgressActions.Regex.Parser
import ProgressActions.Text.Based

/-!
# Translating characters

`tr` translates, deletes or squeezes characters. Sets of characters are written with ranges, classes and
repetitions.
-/

namespace ProgressActions.Programs

namespace Translation

inductive Item where
  | char (c : Char)
  | range (low high : Char)
  | named (name : String)
  /-- Characters that count as equal to one. -/
  | same (c : Char)
  /-- A character so many times; zero stands for as often as is needed. -/
  | repeated (c : Char) (count : Nat)
  deriving DecidableEq, Repr

inductive Problem where
  | reverseRange (low high : Octets)
  | badClass (name : Octets)
  | badRepeat (count : Octets)
  | emptyClass
  | openEquivalence (text : Octets)
  deriving DecidableEq, Repr

def Problem.message : Problem → Octets
  | reverseRange low high =>
    "range-endpoints of '".toList ++ low ++ ['-'] ++ high ++ "' are in reverse collating sequence order".toList
  | badClass name => "invalid character class ".toList ++ Quoting.plain name
  | badRepeat count => "invalid repeat count ".toList ++ Quoting.plain count ++ " in [c*n] construct".toList
  | emptyClass => "missing character class name '[::]'".toList
  | openEquivalence text => text ++ ": equivalence class operand must be a single character".toList

/-- A character that may have been written with a backslash. -/
structure Letter where
  char : Char
  isEscaped : Bool := false
  deriving DecidableEq, Repr

/-- The characters of a text with its escapes resolved. -/
def letters : (limit : Nat) → Octets → List Letter
  | 0, _ => []
  | _ + 1, [] => []
  | limit + 1, '\\' :: rest =>
    match rest with
    | [] => [{ char := '\\' }]
    | c :: more =>
      let digits := Text.octalRun rest
      if digits ≠ [] then
        let fits := if Text.octalValue digits < 256 then digits else digits.take 2
        { char := Text.octalChar fits, isEscaped := true } :: letters limit (rest.drop fits.length)
      else
        let meant := match c with
          | 'a' => '\x07'
          | 'b' => '\x08'
          | 'f' => '\x0c'
          | 'n' => '\n'
          | 'r' => '\x0d'
          | 't' => '\t'
          | 'v' => '\x0b'
          | _ => c
        { char := meant, isEscaped := true } :: letters limit more
  | limit + 1, c :: rest => { char := c } :: letters limit rest

def Letter.is (l : Letter) (c : Char) : Bool := l.char == c && !l.isEscaped

def shown (c : Char) : Octets :=
  if Quoting.isPrintable c then (if c = '\\' then "\\\\".toList else [c]) else '\\' :: Quoting.threeDigits c.toNat

/-- The class or the equivalence in brackets in front of letters, and how long it is. -/
def bracketed? (all : List Letter) : Except Problem (Option (Item × Nat)) :=
  match all with
  | opening :: mark :: rest =>
    if opening.is '[' ∧ (mark.is ':' ∨ mark.is '=') then
      let places := (List.range rest.length).find? fun n ↦
        match rest[n]?, rest[n + 1]? with
        | some a, some b => a.is mark.char && b.is ']' && (mark.char == ':' || 0 < n)
        | _, _ => false
      match places with
      | none => .ok none
      | some n =>
        let name := (rest.take n).map (·.char)
        if mark.char = ':' then
          if name = [] then .error .emptyClass
          else
            match Regex.classRanges? (String.ofList name) with
            | some _ => .ok (some (.named (String.ofList name), n + 4))
            | none => if rest.head?.any (·.is '*') then .ok none else .error (.badClass name)
        else
          match name with
          | [c] => .ok (some (.same c, 5))
          | _ => .error (.openEquivalence name)
    else .ok none
  | _ => .ok none

/-- The repetition in brackets in front of letters, and how long it is. -/
def repetition? (all : List Letter) : Except Problem (Option (Item × Nat)) :=
  match all with
  | opening :: c :: star :: rest =>
    if opening.is '[' ∧ star.is '*' then
      let digits := rest.takeWhile fun l ↦ !l.is ']'
      if digits.length = rest.length then .ok none
      else
        let text := digits.map (·.char)
        let base := if text.head? = some '0' then 8 else 10
        if text.all fun d ↦ Text.isDigitOf base d then
          .ok (some (.repeated c.char (Text.basedValue base text), digits.length + 4))
        else .error (.badRepeat text)
    else .ok none
  | _ => .ok none

def items : (limit : Nat) → List Letter → Except Problem (List Item)
  | 0, _ => .ok []
  | _ + 1, [] => .ok []
  | limit + 1, first :: rest => do
    match ← bracketed? (first :: rest) with
    | some (item, length) => pure (item :: (← items limit ((first :: rest).drop length)))
    | none =>
      match ← repetition? (first :: rest) with
      | some (item, length) => pure (item :: (← items limit ((first :: rest).drop length)))
      | none =>
        match rest with
        | hyphen :: last :: more =>
          if hyphen.is '-' then
            if last.char < first.char then throw (.reverseRange (shown first.char) (shown last.char))
            pure (.range first.char last.char :: (← items limit more))
          else pure (.char first.char :: (← items limit rest))
        | _ => pure (.char first.char :: (← items limit rest))

def parse (text : Octets) : Except Problem (List Item) :=
  let all := letters (text.length + 1) text
  items (all.length + 1) all

/-- The characters between two, both included. -/
def between (low high : Char) : List Char :=
  (List.range (high.toNat + 1 - low.toNat)).map fun n ↦ Char.ofNat (low.toNat + n)

def everything : List Char := (List.range 256).map Char.ofNat

/-- The characters of a part; one that is repeated as needed comes so many times. -/
def Item.chars (fill : Nat) : Item → List Char
  | char c => [c]
  | range low high => between low high
  | named name =>
    let ranges := (Regex.classRanges? name).getD []
    everything.filter fun c ↦ ranges.any fun (low, high) ↦ low ≤ c && c ≤ high
  | same c => [c]
  | repeated c count => List.replicate (if count = 0 then fill else count) c

def chars (fill : Nat) (all : List Item) : List Char := all.flatMap (Item.chars fill)

/-- How many characters there are apart from one that is repeated as needed. -/
def fixedLength (all : List Item) : Nat := (chars 0 all).length

/-- What becomes of characters: what each is turned into, which are deleted, and which are squeezed. -/
structure Request where
  image : Char → Char := id
  isDeleted : Char → Bool := fun _ ↦ false
  isSqueezed : Char → Bool := fun _ ↦ false

def Request.apply (r : Request) (text : Octets) : Octets :=
  let kept := (text.filter (!r.isDeleted ·)).map r.image
  (kept.foldl (fun done c ↦
    if done.head? = some c ∧ r.isSqueezed c then done else c :: done) []).reverse

/-- Where nothing is squeezed, every character is deleted or turned into another one. -/
theorem Request.apply_of_not_squeezed (r : Request) (h : ∀ c, r.isSqueezed c = false) (text : Octets) :
    r.apply text = (text.filter (!r.isDeleted ·)).map r.image := by
  have hfold : ∀ (rest done : Octets), rest.foldl (fun done c ↦
      if done.head? = some c ∧ r.isSqueezed c then done else c :: done) done = rest.reverse ++ done := by
    intro rest
    induction rest with
    | nil => simp
    | cons c more ih =>
      intro done
      rw [List.foldl_cons, ih]
      simp [h c]
  simp [Request.apply, hfold]

def table (sources images : List Char) : Char → Char :=
  let row := (sources.zip images).foldl (fun (row : Array Char) (source, image) ↦
    row.setIfInBounds source.toNat image) everything.toArray
  fun c ↦ row.getD c.toNat c

def among (all : List Char) : Char → Bool :=
  let row := all.foldl (fun (row : Array Bool) c ↦ row.setIfInBounds c.toNat true) (Array.replicate 256 false)
  fun c ↦ row.getD c.toNat false

def usage : Usage :=
  { permutes := false
    choices :=
      [{ key := "c", names := ["complement"] }, { key := "C" }, { key := "d", names := ["delete"] },
       { key := "s", names := ["squeeze-repeats"] }, { key := "t", names := ["truncate-set1"] }] }

/-- Whether the classes of small and capital letters stand at the same places. -/
def isAligned (first second : List Item) : Bool :=
  let places (all : List Item) : List (Nat × String) :=
    (all.foldl (fun (n, found) item ↦
      let next := n + (item.chars 0).length
      match item with
      | .named name => if name = "upper" ∨ name = "lower" then (next, (n, name) :: found) else (next, found)
      | _ => (next, found)) (0, ([] : List (Nat × String)))).2
  (places second).all fun (n, _) ↦ (places first).any (·.1 == n)

def request (name : Octets) (g : Given) (first : List Item) (second : Option (List Item)) : Job Request := do
  let plain := chars 0 first
  let isInverse := g.has "c" || g.has "C"
  let sources := if isInverse then everything.filter (!(among plain) ·) else plain
  let inFirst := among sources
  if g.has "d" then
    match second with
    | some items => pure { isDeleted := inFirst, isSqueezed := among (chars 0 items) }
    | none => pure { isDeleted := inFirst }
  else
    match second with
    | none => pure { isSqueezed := inFirst }
    | some items =>
      let badClass := items.any fun
        | .named found => found != "upper" && found != "lower"
        | _ => false
      if badClass then
        Job.fail name ("when translating, the only character classes that may appear in\n" ++
          "string2 are 'upper' and 'lower'").toList
      if items.any fun
          | .same _ => true
          | _ => false then
        Job.fail name "[=c=] expressions may not appear in string2 when translating".toList
      let images := chars (sources.length - fixedLength items) items
      if !isInverse ∧ !isAligned first items then
        Job.fail name "misaligned [:upper:] and/or [:lower:] construct".toList
      match images.getLast? with
      | none =>
        if g.has "t" then pure {}
        else Job.fail name "when not truncating set1, string2 must be non-empty".toList
      | some last =>
        let isClass := first.any fun
          | .named _ => true
          | _ => false
        let reach := if g.has "t" then images
          else images ++ List.replicate (sources.length - images.length) last
        if isInverse ∧ isClass ∧ !(reach.all (· == last)) then
          Job.fail name ("when translating with complemented character classes,\n" ++
            "string2 must map all characters in the domain to one").toList
        pure
          { image := table sources reach
            isSqueezed := if g.has "s" then among images else fun _ ↦ false }

end Translation

/-- Translates, deletes or squeezes characters. -/
def tr : Program := fun name arguments ↦ do
  let given ← Job.understand Translation.usage name arguments
  let deletes := given.has "d"
  let squeezes := given.has "s"
  let most := if deletes && !squeezes then 1 else 2
  let least := if deletes == squeezes then 2 else 1
  let words := given.words
  if words.length < least then
    match words.getLast? with
    | none => Job.missingOperand name
    | some last =>
      let reason := if squeezes then "Two strings must be given when both deleting and squeezing repeats."
        else "Two strings must be given when translating."
      Job.misused name ("missing operand after ".toList ++ Quoting.plain last ++ '\n' :: reason.toList)
  match words[most]? with
  | some extra =>
    let reason := if most = 1 ∧ words.length = 2 then
      "\nOnly one string may be given when deleting without squeezing repeats." else ""
    Job.misused name ("extra operand ".toList ++ Quoting.plain extra ++ reason.toList)
  | none =>
    let parsed (text : Octets) : Job (List Translation.Item) := do
      if (text.reverse.takeWhile (· == '\\')).length % 2 = 1 then
        Job.complain name "warning: an unescaped backslash at end of string is not portable".toList
      match Translation.parse text with
      | .ok items => pure items
      | .error problem => Job.fail name problem.message
    let first ← parsed (words.headD [])
    if first.any fun
        | .repeated _ _ => true
        | _ => false then
      Job.fail name "the [c*] repeat construct may not appear in string1".toList
    let second ← match words[1]? with
      | some text => some <$> parsed text
      | none => pure none
    let request ← Translation.request name given first second
    match ← Job.input ['-'] with
    | .error cause => Job.fail name (Job.refusal "read error".toList cause)
    | .ok text => Job.put name (request.apply text)

end ProgressActions.Programs
