import ProgressActions.Programs.Basic

/-!
# Sorting lines

`sort` puts lines in order. Keys are stretches of fields of a line, and each key may be compared in a way
of its own: as text, as numbers, as names of months, as versions, or without regard to some characters.
-/

namespace ProgressActions.Programs

namespace Sorted

/-! ## Ways to compare -/

structure Manner where
  isReverse : Bool := false
  skipsStartBlanks : Bool := false
  skipsEndBlanks : Bool := false
  foldsCase : Bool := false
  /-- Whether only blanks, letters and digits count. -/
  isDictionary : Bool := false
  /-- Whether only printable characters count. -/
  isPrintable : Bool := false
  isNumeric : Bool := false
  isGeneral : Bool := false
  isHuman : Bool := false
  isMonth : Bool := false
  isVersion : Bool := false
  isRandom : Bool := false
  deriving DecidableEq, Repr

/-- Characters that part fields by themselves. -/
def isBlank (c : Char) : Bool := c == ' ' || c == '\t' || c == '\n'

/-- A number as its sign, the digits in front of the point and those behind it. -/
structure Decimal where
  isNegative : Bool
  whole : Octets
  places : Octets

/-- The number in front of a text, and what follows it. -/
def decimal (text : Octets) : Decimal × Octets :=
  let start := text.dropWhile isBlank
  let (isNegative, body) := match start with
    | '-' :: rest => (true, rest)
    | _ => (false, start)
  let whole := body.takeWhile Char.isDigit
  let (places, rest) := match body.drop whole.length with
    | '.' :: more =>
      let found := more.takeWhile Char.isDigit
      (found, more.drop found.length)
    | other => ([], other)
  ({ isNegative, whole := whole.dropWhile (· == '0')
     places := (places.reverse.dropWhile (· == '0')).reverse }, rest)

def Decimal.compareMagnitude (a b : Decimal) : Ordering :=
  (compare a.whole.length b.whole.length).then
    ((compareText a.whole b.whole).then (compareText a.places b.places))
where
  compareText (x y : Octets) : Ordering :=
    if Octets.before x y then .lt else if x = y then .eq else .gt

def Decimal.compareWith (a b : Decimal) : Ordering :=
  let isZero (d : Decimal) : Bool := d.whole.isEmpty && d.places.isEmpty
  let sign (d : Decimal) : Int := if isZero d then 0 else if d.isNegative then -1 else 1
  (compare (sign a) (sign b)).then
    (if sign a = 1 then a.compareMagnitude b else if sign a = -1 then b.compareMagnitude a else .eq)

def unitRank : Octets → Nat
  | c :: _ => match "KMGTPEZY".toList.idxOf? (if c = 'k' then 'K' else c) with
    | some n => n + 1
    | none => 0
  | [] => 0

/-- The order of two numbers with letters for units. -/
def compareHuman (x y : Octets) : Ordering :=
  let (a, afterA) := decimal x
  let (b, afterB) := decimal y
  let isZero (d : Decimal) : Bool := d.whole.isEmpty && d.places.isEmpty
  let rank (d : Decimal) (rest : Octets) : Int :=
    let n : Int := unitRank rest
    if isZero d then 0 else if d.isNegative then -(n + 1) else n + 1
  (compare (rank a afterA) (rank b afterB)).then (a.compareWith b)

/-- The number of the month that a text begins with; anything else comes before all months. -/
def monthNumber (text : Octets) : Nat :=
  let name := ((text.dropWhile isBlank).take 3).map Char.toUpper
  let names := ["JAN", "FEB", "MAR", "APR", "MAY", "JUN", "JUL", "AUG", "SEP", "OCT", "NOV", "DEC"]
  match names.idxOf? (String.ofList name) with
  | some n => n + 1
  | none => 0

/-- The rank of a character in versions: a tilde comes before the end, letters before the rest. -/
def versionRank (c? : Option Char) : Int :=
  match c? with
  | none => 0
  | some c => if c = '~' then -1 else if c.isDigit then 0 else if c.isAlpha then c.toNat else c.toNat + 256

/-- The order of two versions: texts and numbers take turns. -/
def compareParts : (limit : Nat) → Octets → Octets → Ordering
  | 0, _, _ => .eq
  | _ + 1, [], [] => .eq
  | limit + 1, x, y =>
    let isText : Char → Bool := fun c ↦ !c.isDigit
    let a := x.takeWhile isText
    let b := y.takeWhile isText
    let count := max a.length b.length
    let texts := (List.range count).map fun n ↦ compare (versionRank a[n]?) (versionRank b[n]?)
    match texts.find? (· != .eq) with
    | some order => order
    | none =>
      let afterX := x.drop a.length
      let afterY := y.drop b.length
      let m := afterX.takeWhile Char.isDigit
      let n := afterY.takeWhile Char.isDigit
      (compare (Text.digitsValue m) (Text.digitsValue n)).then
        (compareParts limit (afterX.drop m.length) (afterY.drop n.length))

/-- A name without the endings that follow a point and a letter. -/
def withoutEndings (text : Octets) : Octets :=
  let isPart : Char → Bool := fun c ↦ c.isAlphanum || c == '~'
  let rec strip : (limit : Nat) → Octets → Octets
    | 0, reversed => reversed
    | limit + 1, reversed =>
      let part := reversed.takeWhile isPart
      match reversed.drop part.length with
      | '.' :: more =>
        if part.getLast?.any (fun c ↦ c.isAlpha || c == '~') ∧ more ≠ [] then strip limit more
        else reversed
      | _ => reversed
  (strip text.length text.reverse).reverse

def compareVersions (x y : Octets) : Ordering :=
  let isDots (t : Octets) : Bool := t == ['.'] || t == ['.', '.']
  let hidden (t : Octets) : Bool := t.head? == some '.'
  if x = y then .eq
  else if x = [] then .lt
  else if y = [] then .gt
  else if isDots x ∨ isDots y then
    (if isDots x ∧ isDots y then compare x.length y.length else if isDots x then .lt else .gt)
  else if hidden x != hidden y then (if hidden x then .lt else .gt)
  else
    let limit := x.length + y.length + 2
    match compareParts limit (withoutEndings x) (withoutEndings y) with
    | .eq => compareParts limit x y
    | order => order

def compareOctets (x y : Octets) : Ordering :=
  if Octets.before x y then .lt else if x = y then .eq else .gt

/-- The rank and the value of a floating number: what is none comes first, then what is not comparable. -/
def generalRank (text : Octets) : Nat × Rat :=
  match generalValue? text with
  | none => (0, 0)
  | some value => value
where
  generalValue? (text : Octets) : Option (Nat × Rat) :=
    let start := text.dropWhile isBlank
    let (negative, body) := match start with
      | '-' :: rest => (true, rest)
      | '+' :: rest => (false, rest)
      | _ => (false, start)
    let lower := body.map Char.toLower
    if "nan".toList.isPrefixOf lower then some (1, 0)
    else if "inf".toList.isPrefixOf lower then some (if negative then 2 else 4, 0)
    else
      let whole := body.takeWhile Char.isDigit
      let (places, rest) := match body.drop whole.length with
        | '.' :: more =>
          let found := more.takeWhile Char.isDigit
          (found, more.drop found.length)
        | other => ([], other)
      if whole = [] ∧ places = [] then none
      else
        let n : Rat := (Text.digitsValue (whole ++ places) : Rat) / (Nat.pow 10 places.length : Rat)
        let shift : Int := match rest with
          | e :: more =>
            if e = 'e' ∨ e = 'E' then
              let (down, digits) := match more with
                | '-' :: tail => (true, tail.takeWhile Char.isDigit)
                | '+' :: tail => (false, tail.takeWhile Char.isDigit)
                | _ => (false, more.takeWhile Char.isDigit)
              let k : Int := min (Text.digitsValue (digits.take 6)) 5000
              if down then -k else k
            else 0
          | [] => 0
        let scaled : Rat := if 0 ≤ shift then n * (Nat.pow 10 shift.toNat : Rat)
          else n / (Nat.pow 10 (-shift).toNat : Rat)
        some (3, if negative then -scaled else scaled)

def Manner.filtered (m : Manner) (text : Octets) : Octets :=
  let kept := if m.isDictionary then text.filter fun c ↦ isBlank c || c.isAlphanum
    else if m.isPrintable then text.filter Quoting.isPrintable
    else text
  if m.foldsCase then kept.map Char.toUpper else kept

/-- The order of two texts in a manner, without regard to reversal. -/
def Manner.compareForward (m : Manner) (x y : Octets) : Ordering :=
  if m.isNumeric then (decimal x).1.compareWith (decimal y).1
  else if m.isGeneral then
    let (a, p) := generalRank x
    let (b, q) := generalRank y
    (compare a b).then (if p < q then .lt else if p = q then .eq else .gt)
  else if m.isHuman then compareHuman x y
  else if m.isMonth then compare (monthNumber x) (monthNumber y)
  else if m.isVersion then compareVersions (m.filtered x) (m.filtered y)
  else compareOctets (m.filtered x) (m.filtered y)

def Manner.compareWith (m : Manner) (x y : Octets) : Ordering :=
  if m.isReverse then (m.compareForward x y).swap else m.compareForward x y

/-! ## Keys -/

/-- A place in a line: a field and a character in it, both counted from zero. -/
structure Spot where
  field : Nat
  char : Nat
  deriving DecidableEq, Repr

/-- A stretch of a line, and how it is compared. Without an end it reaches to the end of the line; an end
at character zero is the end of the field. -/
structure Key where
  start : Spot
  stop : Option Spot := none
  manner : Manner := {}
  /-- Whether the key has ways to compare of its own. -/
  isOwn : Bool := false
  deriving DecidableEq, Repr

/-- A line behind so many fields. A field that blanks begin includes them. -/
def afterFields (separator : Option Char) : (count : Nat) → Octets → Octets
  | 0, line => line
  | count + 1, line =>
    match separator with
    | some c => afterFields separator count ((line.dropWhile (· != c)).drop 1)
    | none => afterFields separator count ((line.dropWhile isBlank).dropWhile (!isBlank ·))

/-- How much of a line is in front of the end of a stretch. -/
def stopOf (separator : Option Char) (skipsBlanks : Bool) (s : Spot) (line : Octets) : Nat :=
  if s.char = 0 then
    let rest := afterFields separator s.field line
    let stop := match separator with
      | some c => rest.dropWhile (· != c)
      | none => (rest.dropWhile isBlank).dropWhile (!isBlank ·)
    line.length - stop.length
  else
    let rest := afterFields separator s.field line
    let start := if skipsBlanks then rest.dropWhile isBlank else rest
    min line.length (line.length - start.length + s.char)

def Key.of (k : Key) (separator : Option Char) (line : Octets) : Octets :=
  let rest := afterFields separator k.start.field line
  let start := if k.manner.skipsStartBlanks then rest.dropWhile isBlank else rest
  let begin := min line.length (line.length - start.length + k.start.char)
  match k.stop with
  | none => line.drop begin
  | some s => (line.take (stopOf separator k.manner.skipsEndBlanks s line)).drop begin

/-! ## Requests -/

structure Request where
  manner : Manner := {}
  keys : List Key := []
  separator : Option Char := none
  isUnique : Bool := false
  isStable : Bool := false
  mark : Char := '\n'

/-- The order of two lines by the keys; without keys the whole lines count. -/
def Request.compareKeys (r : Request) (x y : Octets) : Ordering :=
  if r.keys = [] then
    let trim : Octets → Octets := fun t ↦ if r.manner.skipsStartBlanks then t.dropWhile isBlank else t
    r.manner.compareWith (trim x) (trim y)
  else
    (r.keys.map fun k ↦ k.manner.compareWith (k.of r.separator x) (k.of r.separator y)).foldl
      Ordering.then .eq

/-- The order of two lines. Lines with equal keys are told apart by all of their text, if that is asked
for. -/
def Request.compareLines (r : Request) (x y : Octets) : Ordering :=
  match r.compareKeys x y with
  | .eq =>
    if r.isUnique ∨ r.isStable then .eq
    else if r.manner.isReverse then (compareOctets x y).swap else compareOctets x y
  | order => order

/-- Lines without those that are equal to the one in front. -/
def Request.distinct (r : Request) (lines : List Octets) : List Octets :=
  (lines.foldl (fun kept line ↦ match kept with
    | last :: _ => if r.compareKeys last line = .eq then kept else line :: kept
    | [] => [line]) []).reverse

def Request.sorted (r : Request) (lines : List Octets) : List Octets :=
  let inOrder := lines.mergeSort fun x y ↦ r.compareLines x y != .gt
  if r.isUnique then r.distinct inOrder else inOrder

/-- Sorting loses nothing and adds nothing. -/
theorem Request.perm_sorted {r : Request} (h : r.isUnique = false) (lines : List Octets) :
    (r.sorted lines).Perm lines := by
  simp only [Request.sorted, h, Bool.false_eq_true, if_false]
  exact List.mergeSort_perm _ _

/-- The first line that comes too late, and its number. -/
def Request.disorder? (r : Request) : (number : Nat) → List Octets → Option (Nat × Octets)
  | number, first :: second :: rest =>
    let order := r.compareLines first second
    if order = .gt ∨ (r.isUnique ∧ order = .eq) then some (number + 1, second)
    else r.disorder? (number + 1) (second :: rest)
  | _, _ => none

/-! ## Words -/

def mannerLetters : List Char := "bdfghiMnRrV".toList

def withLetter (m : Manner) (atStart atEnd : Bool) : Char → Manner
  | 'b' => { m with
      skipsStartBlanks := m.skipsStartBlanks || atStart, skipsEndBlanks := m.skipsEndBlanks || atEnd }
  | 'd' => { m with isDictionary := true }
  | 'f' => { m with foldsCase := true }
  | 'g' => { m with isGeneral := true }
  | 'h' => { m with isHuman := true }
  | 'i' => { m with isPrintable := true }
  | 'M' => { m with isMonth := true }
  | 'n' => { m with isNumeric := true }
  | 'R' => { m with isRandom := true }
  | 'r' => { m with isReverse := true }
  | 'V' => { m with isVersion := true }
  | _ => m

/-- A position of a key: a field, perhaps a character, and letters. -/
def position? (text : Octets) : Option (Nat × Option Nat × Octets × Octets) :=
  let field := text.takeWhile Char.isDigit
  if field = [] then none
  else
    let rest := text.drop field.length
    let (char, after) := match rest with
      | '.' :: more =>
        let digits := more.takeWhile Char.isDigit
        (some digits, more.drop digits.length)
      | _ => (none, rest)
    if char = some [] then none
    else
      let letters := after.takeWhile mannerLetters.contains
      some (Text.digitsValue field, char.map Text.digitsValue, letters, after.drop letters.length)

def key (text : Octets) : Except Octets Key := do
  let quotedText := Quoting.plain text
  match position? text with
  | none =>
    if text.head?.any Char.isDigit then
      throw ("invalid number after '.': invalid count at start of ".toList ++
        Quoting.plain (((text.dropWhile Char.isDigit)).drop 1))
    else throw ("invalid number at field start: invalid count at start of ".toList ++ quotedText)
  | some (field, char, letters, rest) =>
    if field = 0 then throw ("field number is zero: invalid field specification ".toList ++ quotedText)
    if char = some 0 then throw ("character offset is zero: invalid field specification ".toList ++ quotedText)
    let start : Spot := ⟨field - 1, (char.getD 1) - 1⟩
    let first := letters.foldl (fun m c ↦ withLetter m true false c) {}
    match rest with
    | [] => pure { start, manner := first, isOwn := letters ≠ [] }
    | ',' :: more =>
      match position? more with
      | none => throw ("invalid number after ',': invalid count at start of ".toList ++ Quoting.plain more)
      | some (last, lastChar, lastLetters, tail) =>
        if tail ≠ [] then throw ("stray character in field spec: invalid field specification ".toList ++ quotedText)
        if last = 0 then throw ("field number is zero: invalid field specification ".toList ++ quotedText)
        let manner := lastLetters.foldl (fun m c ↦ withLetter m false true c) first
        let stop : Spot := match lastChar with
          | some n => ⟨last - 1, n⟩
          | none => ⟨last - 1, 0⟩
        pure { start, stop := some stop, manner, isOwn := letters ≠ [] || lastLetters ≠ [] }
    | _ => throw ("stray character in field spec: invalid field specification ".toList ++ quotedText)

def usage : Usage :=
  { failure := 2
    choices :=
      [{ key := "b", names := ["ignore-leading-blanks"] }, { key := "d", names := ["dictionary-order"] },
       { key := "f", names := ["ignore-case"] }, { key := "g", names := ["general-numeric-sort"] },
       { key := "h", names := ["human-numeric-sort"] }, { key := "i", names := ["ignore-nonprinting"] },
       { key := "M", names := ["month-sort"] }, { key := "n", names := ["numeric-sort"] },
       { key := "R", names := ["random-sort"] }, { key := "r", names := ["reverse"] },
       { key := "V", names := ["version-sort"] }, { key := "c" }, { key := "C" },
       { key := "check", demand := .attached }, { key := "k", names := ["key"], demand := .value },
       { key := "m", names := ["merge"] }, { key := "o", names := ["output"], demand := .value },
       { key := "s", names := ["stable"] }, { key := "u", names := ["unique"] },
       { key := "t", names := ["field-separator"], demand := .value },
       { key := "z", names := ["zero-terminated"] }, { key := "sort", demand := .value },
       { key := "S", names := ["buffer-size"], demand := .value },
       { key := "T", names := ["temporary-directory"], demand := .value },
       { key := "parallel", demand := .value }, { key := "batch-size", demand := .value },
       { key := "debug" }] }

/-- The character between fields that an option asks for. -/
def separator (text : Octets) : Except Octets Char :=
  match text with
  | [] => .error "empty tab".toList
  | [c] => .ok c
  | _ =>
    if text = "\\0".toList then .ok '\x00'
    else .error ("multi-character tab ".toList ++ Quoting.plain text)

def request (g : Given) : Except Octets Request := do
  let letters : List Char := g.options.filterMap fun (key, value) ↦
    match key.toList with
    | [c] => if mannerLetters.contains c then some c else none
    | _ =>
      if key = "sort" then
        match String.ofList (value.getD []) with
        | "general-numeric" => some 'g'
        | "human-numeric" => some 'h'
        | "month" => some 'M'
        | "numeric" => some 'n'
        | "random" => some 'R'
        | "version" => some 'V'
        | _ => none
      else none
  let manner := letters.foldl (fun m c ↦ withLetter m true true c) {}
  let keys ← (g.values "k").mapM key
  let separators ← (g.values "t").mapM separator
  pure
    { manner
      keys := keys.map fun k ↦ if k.isOwn then k else { k with manner }
      separator := separators.getLast?
      isUnique := g.has "u"
      isStable := g.has "s"
      mark := if g.has "z" then '\x00' else '\n' }

end Sorted

def sort : Program := fun name arguments ↦ do
  let given ← Job.understand Sorted.usage name arguments
  let r ← match Sorted.request given with
    | .ok r => pure r
    | .error text => Job.fail name text 2
  let files := Job.inputs given.words
  let checks := given.has "c" || given.has "C" || given.has "check"
  if checks then
    match files with
    | _ :: extra :: _ =>
      Job.misused name ("extra operand ".toList ++ Quoting.plain extra ++ " not allowed with -c".toList) 2
    | [file] =>
      match ← Job.input file with
      | .error cause =>
        Job.fail name (Job.refusal ("cannot read: ".toList ++ Quoting.needed file) cause) 2
      | .ok text =>
        match r.disorder? 1 (Octets.records r.mark text) with
        | none => pure ()
        | some (number, line) =>
          let isQuiet := given.has "C" || given.value? "check" == some "quiet".toList ||
            given.value? "check" == some "silent".toList
          if !isQuiet then
            Job.complain name (Quoting.needed file ++ ":".toList ++ Text.numeral number ++
              ": disorder: ".toList ++ line)
          Job.exit 1
    | [] => pure ()
  else
    let mut lines : List Octets := []
    for file in files do
      match ← Job.input file with
      | .ok text => lines := lines ++ Octets.records r.mark text
      | .error cause =>
        let verb := if cause = .isDirectory then "read failed: " else "cannot read: "
        Job.fail name (Job.refusal (verb.toList ++ Quoting.needed file) cause) 2
    let text := Octets.ended r.mark (r.sorted lines)
    match given.value? "o" with
    | none => Job.put name text 2
    | some file =>
      match ← liftM (Process.openFile file .replacing) with
      | .error cause => Job.fail name (Job.refusal ("open failed: ".toList ++ Quoting.needed file) cause) 2
      | .ok sink => discard (liftM (Process.writeOpen sink text) : Job _)

end ProgressActions.Programs
