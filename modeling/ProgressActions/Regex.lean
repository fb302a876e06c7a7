import ProgressActions.Octets
import ProgressActions.Text.Escape

/-!
# Regular expressions

A regular expression accepts stretches of a text. For a set of places to begin at, the places where
accepted stretches end are computed part by part; the longest stretch at the first place counts. What the
groups of an expression have accepted is then looked for along one way through the stretch.
-/

namespace ProgressActions

/-- A set of characters, by ranges; it may be meant to hold all others. -/
structure CharSet where
  isNegated : Bool := false
  ranges : List (Char × Char) := []
  deriving DecidableEq, Repr

inductive Regex where
  /-- Accepts the empty text. -/
  | empty
  | char (c : Char)
  /-- Any character. -/
  | any
  | among (set : CharSet)
  | lineStart
  | lineEnd
  /-- The end of a word and the beginning of the next are told by the two flags. -/
  | boundary (afterWord beforeWord : Bool)
  /-- Any place between a word and something else, or any other place. -/
  | edge (isEdge : Bool)
  | textStart
  | textEnd
  | both (first second : Regex)
  | either (first second : Regex)
  /-- Between so many and so many times, or without an upper limit. -/
  | times (body : Regex) (least : Nat) (most : Option Nat)
  /-- A group with a number, whose stretch is remembered. -/
  | group (number : Nat) (body : Regex)
  /-- The same text as a group has accepted. -/
  | again (number : Nat)
  deriving DecidableEq, Repr

namespace CharSet

def contains (s : CharSet) (c : Char) : Bool :=
  s.ranges.any (fun (low, high) ↦ low ≤ c && c ≤ high) != s.isNegated

end CharSet

namespace Regex

structure Reading where
  text : Array Char
  /-- Whether capitals and small letters count as the same. -/
  foldsCase : Bool := false
  /-- Whether line feeds part lines inside of the text. -/
  hasLines : Bool := false
  /-- Whether the start of the text is no start of a line. -/
  isContinued : Bool := false

def isWordChar (c : Char) : Bool := c.isAlphanum || c == '_'

namespace Reading

def holds (r : Reading) (place : Nat) (isWanted : Char → Bool) : Bool :=
  match r.text[place]? with
  | some c => isWanted c || (r.foldsCase && (isWanted c.toLower || isWanted c.toUpper))
  | none => false

def isAfterWord (r : Reading) (place : Nat) : Bool := place != 0 && r.holds (place - 1) isWordChar

/-- Whether a place is in front of a character of a word. -/
def isBeforeWord (r : Reading) (place : Nat) : Bool := r.holds place isWordChar

def startsLine (r : Reading) (place : Nat) : Bool :=
  (place == 0 && !r.isContinued) || (r.hasLines && place != 0 && r.text[place - 1]? == some '\n')

def endsLine (r : Reading) (place : Nat) : Bool :=
  place == r.text.size || (r.hasLines && r.text[place]? == some '\n')

end Reading

def groupCount : Regex → Nat
  | both a b => max a.groupCount b.groupCount
  | either a b => max a.groupCount b.groupCount
  | times a _ _ => a.groupCount
  | group n a => max n a.groupCount
  | _ => 0

/-- Whether an expression asks for a text again. -/
def hasAgain : Regex → Bool
  | both a b => a.hasAgain || b.hasAgain
  | either a b => a.hasAgain || b.hasAgain
  | times a _ _ => a.hasAgain
  | group _ a => a.hasAgain
  | again _ => true
  | _ => false

/-- Whether an expression only looks at where it stands. -/
def isAnchor : Regex → Bool
  | lineStart => true
  | lineEnd => true
  | boundary _ _ => true
  | edge _ => true
  | textStart => true
  | textEnd => true
  | _ => false

/-- An expression in which only line feeds themselves accept line feeds. -/
def withinLines : Regex → Regex
  | any => among { isNegated := true, ranges := [('\n', '\n')] }
  | among set =>
    among (if set.isNegated then { set with ranges := ('\n', '\n') :: set.ranges } else set)
  | both a b => both a.withinLines b.withinLines
  | either a b => either a.withinLines b.withinLines
  | times a least most => times a.withinLines least most
  | group n a => group n a.withinLines
  | x => x

/-! ## Places -/

/-- Two ascending lists of places put together in order, without doubles. -/
def merge : List Nat → List Nat → List Nat
  | [], ys => ys
  | x :: xs, ys => insert x (merge xs ys)
where
  insert (x : Nat) : List Nat → List Nat
    | [] => [x]
    | y :: ys => if x < y then x :: y :: ys else if x = y then y :: ys else y :: insert x ys

/-- The places that can be reached by steps, so many rounds of them. -/
def closure (step : List Nat → List Nat) : (rounds : Nat) → (reached frontier : List Nat) → List Nat
  | 0, reached, _ => reached
  | rounds + 1, reached, frontier =>
    let next := (step frontier).filter fun place ↦ !reached.contains place
    if next = [] then reached else closure step rounds (merge next reached) next

/-- The places that so many steps lead to. -/
def stepTimes (step : List Nat → List Nat) : (count : Nat) → List Nat → List Nat
  | 0, places => places
  | count + 1, places => if places = [] then [] else stepTimes step count (step places)

/-- The places that at most so many steps lead to. -/
def stepUpTo (step : List Nat → List Nat) : (count : Nat) → List Nat → List Nat
  | 0, places => places
  | count + 1, places => if places = [] then [] else merge places (stepUpTo step count (step places))

/-- The places where accepted stretches end that begin at one of some places. Texts that are asked for
again are not looked at. -/
def ends (r : Reading) : Regex → List Nat → List Nat
  | empty, places => places
  | char c, places => (places.filter fun p ↦ r.holds p (· == c)).map (· + 1)
  | any, places => (places.filter fun p ↦ r.holds p fun _ ↦ true).map (· + 1)
  | among set, places => (places.filter fun p ↦ r.holds p set.contains).map (· + 1)
  | lineStart, places => places.filter r.startsLine
  | lineEnd, places => places.filter r.endsLine
  | boundary afterWord beforeWord, places =>
    places.filter fun p ↦ r.isAfterWord p == afterWord && r.isBeforeWord p == beforeWord
  | edge isEdge, places => places.filter fun p ↦ (r.isAfterWord p != r.isBeforeWord p) == isEdge
  | textStart, places => places.filter (· == 0)
  | textEnd, places => places.filter (· == r.text.size)
  | both a b, places => ends r b (ends r a places)
  | either a b, places => merge (ends r a places) (ends r b places)
  | times a least most, places =>
    let start := stepTimes (ends r a) least places
    match most with
    | some n => stepUpTo (ends r a) (n - least) start
    | none => closure (ends r a) (r.text.size + 1) start start
  | group _ a, places => ends r a places
  | again _, places => places

/-! ## Groups -/

/-- The stretches of groups that have been found, the latest first. -/
abbrev Groups := List (Nat × Nat × Nat)

def stretch (r : Reading) (start stop : Nat) : Octets := (r.text.extract start stop).toList

/-- Looks for a way through an expression from a place on that something else accepts. Long ways come
first. -/
def walk (r : Reading) : (limit : Nat) → Regex → (place : Nat) → Groups →
    (next : Nat → Groups → Option Groups) → Option Groups
  | 0, _, _, _, _ => none
  | limit + 1, expression, place, groups, next =>
    match expression with
    | both a b => walk r limit a place groups fun middle found ↦ walk r limit b middle found next
    | either a b => (walk r limit a place groups next).or (walk r limit b place groups next)
    | group n a =>
      walk r limit a place groups fun stop found ↦ next stop ((n, place, stop) :: found)
    | again n =>
      match groups.lookup n with
      | none => none
      | some (start, stop) =>
        let text := stretch r start stop
        let length := text.length
        let there := stretch r place (place + length)
        let fold : Octets → Octets := fun t ↦ if r.foldsCase then t.map Char.toLower else t
        if fold text = fold there then next (place + length) groups else none
    | times a least most =>
      let more := match most with
        | some 0 => false
        | _ => true
      let once : Option Groups :=
        if more then
          walk r limit a place groups fun stop found ↦
            if stop = place ∧ least = 0 then none
            else walk r limit (times a (least - 1) (most.map (· - 1))) stop found next
        else none
      if least = 0 then once.or (next place groups) else once
    | simple => (ends r simple [place]).findSome? fun stop ↦ next stop groups

/-! ## Matching -/

/-- A match: where it begins and ends, and the stretches of its groups. -/
structure Match where
  start : Nat
  stop : Nat
  groups : Groups := []
  deriving DecidableEq, Repr

/-- How many steps a way through an expression may take. -/
def walkLimit (r : Reading) : Nat := 40 * (r.text.size + 20)

/-- The longest stretch that begins at a place. -/
def longestAt? (x : Regex) (r : Reading) (place : Nat) : Option Match :=
  if x.hasAgain then
    ((List.range (r.text.size + 1 - place)).reverse).findSome? fun length ↦
      (walk r (walkLimit r) x place [] fun stop found ↦
        if stop = place + length then some found else none).map fun groups ↦
          { start := place, stop := place + length, groups }
  else
    match (ends r x [place]).getLast? with
    | none => none
    | some stop =>
      let groups := if x.groupCount = 0 then [] else
        (walk r (walkLimit r) x place [] fun last found ↦
          if last = stop then some found else none).getD []
      some { start := place, stop, groups }

/-- The first and longest stretch that begins at a place or behind it. -/
def find? (x : Regex) (r : Reading) (start : Nat := 0) : Option Match :=
  if !x.hasAgain ∧ ends r x ((List.range (r.text.size + 1)).drop start) = [] then none
  else ((List.range (r.text.size + 1)).drop start).findSome? (x.longestAt? r ·)

/-- Whether any stretch of a text is accepted. -/
def isFound (x : Regex) (r : Reading) : Bool :=
  if x.hasAgain then (x.find? r).isSome
  else !(ends r x (List.range (r.text.size + 1))).isEmpty

/-- The text of a group of a match; zero stands for the whole of it. -/
def Match.text (m : Match) (r : Reading) (number : Nat) : Octets :=
  if number = 0 then stretch r m.start m.stop
  else
    match m.groups.lookup number with
    | some (start, stop) => stretch r start stop
    | none => []

/-- The empty expression accepts nothing but the empty stretch. -/
@[simp] theorem ends_empty (r : Reading) (places : List Nat) : ends r empty places = places := rfl

/-- A row of expressions is left where the second one ends that begins where the first one ends. -/
theorem ends_both (r : Reading) (a b : Regex) (places : List Nat) :
    ends r (both a b) places = ends r b (ends r a places) := rfl

end Regex

end ProgressActions
