/-!
# Arguments of directives

A directive may carry an argument in braces. It ends at the first closing brace that no backslash
escapes; the value of the argument is what remains when the escapes of braces and of backslashes
are resolved.
-/

namespace ProgressActions.Template

structure Argument where
  /-- The text with its escapes resolved. -/
  value : List Char
  /-- The text as it was written. -/
  raw : List Char
  deriving DecidableEq, Repr

namespace Argument

def empty : Argument := ⟨[], []⟩

/-- The argument with a character in front. -/
def cons (c : Char) (a : Argument) : Argument := ⟨c :: a.value, c :: a.raw⟩

/-- The argument with a backslash and a character in front. Only a brace and a backslash lose it. -/
def consEscape (c : Char) (a : Argument) : Argument :=
  ⟨if c = '}' ∨ c = '\\' then c :: a.value else '\\' :: c :: a.value, '\\' :: c :: a.raw⟩

/-- Captures an argument from the text after its opening brace, together with what follows it. -/
def capture? : List Char → Option (Argument × List Char)
  | [] => none
  | '}' :: rest => some (empty, rest)
  | '\\' :: c :: rest => (capture? rest).map fun (a, after) ↦ (a.consEscape c, after)
  | c :: rest => (capture? rest).map fun (a, after) ↦ (a.cons c, after)

@[simp] theorem capture?_nil : capture? [] = none := by
  simp [capture?]

@[simp] theorem capture?_close (rest : List Char) : capture? ('}' :: rest) = some (empty, rest) := by
  simp [capture?]

/-- The text is the raw argument, the brace that closes it, and the rest. -/
theorem capture?_eq_some {text after : List Char} {a : Argument}
    (h : capture? text = some (a, after)) : text = a.raw ++ '}' :: after := by
  fun_induction capture? text generalizing a after with
  | case1 => cases h
  | case2 rest =>
    cases h
    rfl
  | case3 c rest ih =>
    obtain ⟨⟨inner, tail⟩, hinner, heq⟩ := Option.map_eq_some_iff.1 h
    cases heq
    simp [consEscape, ih hinner]
  | case4 c rest _ _ ih =>
    obtain ⟨⟨inner, tail⟩, hinner, heq⟩ := Option.map_eq_some_iff.1 h
    cases heq
    simp [cons, ih hinner]

theorem length_of_capture? {text after : List Char} {a : Argument}
    (h : capture? text = some (a, after)) : after.length < text.length := by
  rw [capture?_eq_some h]
  simp
  omega

end Argument

end ProgressActions.Template
