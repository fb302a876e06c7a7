import ProgressActions.Template.Argument

/-!
# Pieces of a template

A template is read from left to right into pieces. A percent sign introduces a directive, with an
argument in braces if one follows at once. An opening brace that is never closed, and a percent
sign at the very end, are pieces of their own.
-/

namespace ProgressActions.Template

inductive Piece where
  /-- A character that stands for itself. -/
  | literal (c : Char)
  /-- A percent sign and an opening brace without a closing one. -/
  | unclosed
  /-- A directive letter with its argument. -/
  | directive (letter : Char) (argument : Option Argument)
  /-- A percent sign, and perhaps an argument, with no letter after it. -/
  | dangling (argument : Option Argument)
  deriving DecidableEq, Repr

def pieces : List Char → List Piece
  | [] => []
  | '%' :: '{' :: rest =>
    match h : Argument.capture? rest with
    | none => .unclosed :: pieces rest
    | some (a, []) => [.dangling (some a)]
    | some (a, letter :: after) =>
      have : after.length < rest.length := by
        have hlength := Argument.length_of_capture? h
        simp only [List.length_cons] at hlength
        omega
      .directive letter (some a) :: pieces after
  | ['%'] => [.dangling none]
  | '%' :: letter :: rest => .directive letter none :: pieces rest
  | c :: rest => .literal c :: pieces rest
termination_by template => template.length

@[simp] theorem pieces_nil : pieces [] = [] := by
  rw [pieces]

theorem pieces_literal {c : Char} (h : c ≠ '%') (rest : List Char) :
    pieces (c :: rest) = .literal c :: pieces rest := by
  rw [pieces]
  · intro tail hc
    exact absurd hc h
  · intro hc
    exact absurd hc h
  · intro letter tail hc
    exact absurd hc h

theorem pieces_percent : pieces ['%'] = [.dangling none] := by
  rw [pieces]

theorem pieces_directive {letter : Char} (h : letter ≠ '{') (rest : List Char) :
    pieces ('%' :: letter :: rest) = .directive letter none :: pieces rest := by
  rw [pieces]
  intro hc
  exact absurd hc h

theorem pieces_unclosed {rest : List Char} (h : Argument.capture? rest = none) :
    pieces ('%' :: '{' :: rest) = .unclosed :: pieces rest := by
  rw [pieces]
  split <;> simp_all

theorem pieces_argument {rest after : List Char} {letter : Char} {a : Argument}
    (h : Argument.capture? rest = some (a, letter :: after)) :
    pieces ('%' :: '{' :: rest) = .directive letter (some a) :: pieces after := by
  rw [pieces]
  split <;> simp_all

theorem pieces_dangling {rest : List Char} {a : Argument}
    (h : Argument.capture? rest = some (a, [])) :
    pieces ('%' :: '{' :: rest) = [.dangling (some a)] := by
  rw [pieces]
  split <;> simp_all

end ProgressActions.Template
