import ProgressActions.Octets
import ProgressActions.Text.Escape

/-!
# Permissions

The permissions of a file are twelve bits. They are changed by an octal number, or by clauses with letters
for whom they hold and for what they allow.
-/

namespace ProgressActions.Permissions

/-- The bits of a class of users: the user, the group or the others. -/
def classBits : Char → Nat
  | 'u' => 0o4700
  | 'g' => 0o2070
  | 'o' => 0o1007
  | _ => 0o7777

/-- The bits that a letter allows, for everybody. -/
def letterBits (isDirectory : Bool) (current : Nat) : Char → Option Nat
  | 'r' => some 0o444
  | 'w' => some 0o222
  | 'x' => some 0o111
  | 'X' => some (if isDirectory || current &&& 0o111 != 0 then 0o111 else 0)
  | 's' => some 0o6000
  | 't' => some 0o1000
  | _ => none

/-- What a class of users is allowed, for everybody. -/
def copied (current : Nat) : Char → Option Nat
  | 'u' => some ((current / 64 % 8) * 0o111)
  | 'g' => some ((current / 8 % 8) * 0o111)
  | 'o' => some ((current % 8) * 0o111)
  | _ => none

def allBits (isDirectory : Bool) (current : Nat) (letters : Octets) : Option Nat :=
  match letters with
  | [c] => (copied current c).or (letterBits isDirectory current c)
  | _ => letters.foldl (fun bits? c ↦ do pure ((← bits?) ||| (← letterBits isDirectory current c))) (some 0)

def without (bits others : Nat) : Nat := bits - (bits &&& others)

def operate (mask : Nat) (isDirectory : Bool) (classes : Octets) : (limit : Nat) → (current : Nat) →
    Octets → Option Nat
  | 0, _, _ => none
  | _ + 1, current, [] => some current
  | limit + 1, current, operator :: rest =>
    if "+-=".toList.contains operator then
      let isOperator : Char → Bool := fun c ↦ "+-=".toList.contains c
      let letters := rest.takeWhile (!isOperator ·)
      let reach := if classes = [] then without 0o7777 mask
        else (classes.map classBits).foldl (· ||| ·) 0
      match allBits isDirectory current letters with
      | none => none
      | some bits =>
        let chosen := bits &&& reach
        let next := match operator with
          | '+' => current ||| chosen
          | '-' => without current chosen
          | _ =>
            let kept := if classes = [] then 0o7777 else reach
            without current (kept &&& (if isDirectory then 0o1777 else 0o7777)) ||| chosen
        operate mask isDirectory classes limit next (rest.drop letters.length)
    else none

def change? (mask : Nat) (isDirectory : Bool) (current : Nat) (text : Octets) : Option Nat :=
  if text ≠ [] ∧ text.all Text.isOctalDigit then
    let n := Text.octalValue text
    if n ≤ 0o7777 then some n else none
  else
    (Octets.splitAt ',' text).foldl (fun bits? clause ↦ do
      let bits ← bits?
      let classes := clause.takeWhile fun c ↦ "ugoa".toList.contains c
      let rest := clause.drop classes.length
      if rest = [] then none else operate mask isDirectory classes (rest.length + 1) bits rest)
      (some current)

/-- Nine letters that tell who may do what. -/
def letters (bits : Nat) : Octets :=
  let three : Nat → Bool → Char → Octets := fun n isSpecial special ↦
    let x := n &&& 1 != 0
    [if n &&& 4 != 0 then 'r' else '-', if n &&& 2 != 0 then 'w' else '-',
     if isSpecial then (if x then special else special.toUpper) else if x then 'x' else '-']
  three (bits / 64 % 8) (bits &&& 0o4000 != 0) 's' ++ three (bits / 8 % 8) (bits &&& 0o2000 != 0) 's' ++
    three (bits % 8) (bits &&& 0o1000 != 0) 't'

theorem length_letters (bits : Nat) : (letters bits).length = 9 := rfl

end ProgressActions.Permissions
