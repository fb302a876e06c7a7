import ProgressActions.Programs.Sed.Script

/-!
# Substitutions in a text

The places where an expression is found are counted from the left. An empty one right behind another one
does not count.
-/

namespace ProgressActions.Programs.Sed

namespace Segment

/-- A text in the casing of a segment; its first character may have a casing of its own. -/
def cased (s : Segment) (first? : Option Casing) : Octets → Octets
  | [] => []
  | c :: rest => (first?.getD s.casing).apply c :: rest.map s.casing.apply

/-- What segments stand for at a place that has been found. A casing of a first character may be carried
over from an empty group. -/
def expand (found : Regex.Match) (r : Regex.Reading) : (carried? : Option Casing) → List Segment → Octets
  | _, [] => []
  | carried?, s :: rest =>
    let first? := s.first?.or carried?
    let left? := if s.text = [] then first? else none
    let group := match s.group? with
      | some n => found.text r n
      | none => []
    let isCarried := s.group?.isSome && group.isEmpty && s.first?.isSome
    s.cased first? s.text ++ s.cased left? group ++ expand found r (if isCarried then left? else none) rest

end Segment

namespace Substitution

/-- How far a substitution has come: where the text that is left starts, how many places have been found,
where the last one ended, and the pieces of the result, the last one first. -/
structure Progress where
  start : Nat := 0
  found : Nat := 0
  last? : Option Nat := none
  isReplaced : Bool := false
  pieces : List Octets := []

def advance (s : Substitution) (x : Regex) (r : Regex.Reading) : (limit : Nat) → Progress → Progress
  | 0, p => p
  | limit + 1, p =>
    match if r.text.size < p.start then none else x.find? r p.start with
    | none => p
    | some found =>
      let front := Regex.stretch r p.start found.start
      let isEmpty := found.stop == found.start
      let skipped := if isEmpty then Regex.stretch r found.start (found.start + 1) else []
      let start := if isEmpty then found.stop + 1 else found.stop
      if isEmpty ∧ p.last? = some found.start then
        advance s x r limit { p with start, pieces := skipped :: front :: p.pieces }
      else
        let count := p.found + 1
        if count < s.number then
          let kept := Regex.stretch r found.start found.stop
          advance s x r limit
            { p with start, found := count, last? := some found.stop
                     pieces := skipped :: kept :: front :: p.pieces }
        else
          let written := Segment.expand found r none s.replacement
          let next : Progress :=
            { start, found := count, last? := some found.stop, isReplaced := true
              pieces := skipped :: written :: front :: p.pieces }
          if s.everywhere then advance s x r limit next else next

/-- The text after a substitution, if anything was found to be replaced. -/
def apply (s : Substitution) (x : Regex) (r : Regex.Reading) : Option Octets :=
  let last := s.advance x r (r.text.size + 2) {}
  if last.isReplaced then
    some (last.pieces.reverse.flatten ++ Regex.stretch r last.start r.text.size)
  else none

end Substitution

end ProgressActions.Programs.Sed
