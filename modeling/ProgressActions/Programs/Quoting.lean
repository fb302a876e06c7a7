import ProgressActions.Octets
import ProgressActions.Text.Escape

/-!
# Names in messages

A name in a message is quoted as a shell would read it, either always or only if it holds something
special; or it stands plainly between quotation marks.
-/

namespace ProgressActions.Programs

namespace Quoting

def isPlain (c : Char) : Bool := c.isAlphanum || "%+,-./:]@_".toList.contains c

/-- Characters that are no trouble between double quotation marks. -/
def isMild (c : Char) : Bool := isPlain c || " '#~\x7b\x7d".toList.contains c

def isPrintable (c : Char) : Bool := ' ' ≤ c && c ≤ '~'

def controlLetter? : Char → Option Char
  | '\x07' => some 'a'
  | '\x08' => some 'b'
  | '\t' => some 't'
  | '\n' => some 'n'
  | '\x0b' => some 'v'
  | '\x0c' => some 'f'
  | '\x0d' => some 'r'
  | _ => none

def threeDigits (n : Nat) : Octets :=
  [n / 64 % 8, n / 8 % 8, n % 8].map fun digit ↦ Char.ofNat (48 + digit)

def escape (c : Char) : Octets :=
  match controlLetter? c with
  | some letter => ['\\', letter]
  | none => '\\' :: threeDigits c.toNat

/-- Whether a name holds something that a shell would take for something else. -/
def isSpecial (name : Octets) : Bool :=
  name.isEmpty || name == ['\x7b'] || name == ['\x7d'] ||
    name.head?.any (fun c ↦ c == '#' || c == '~') ||
    name.any fun c ↦ !isPlain c && !"#~\x7b\x7d\\".toList.contains c

/-- The inside of single quotation marks, which are left for single quotation marks and for characters
that cannot be printed. -/
def inside : (escaping : Bool) → Octets → Octets
  | escaping, [] => if escaping then ['\''] else []
  | escaping, c :: rest =>
    if isPrintable c then
      let back := if escaping then "''".toList else []
      if c = '\'' then back ++ "'\\''".toList ++ inside false rest else back ++ c :: inside false rest
    else (if escaping then [] else "'$'".toList) ++ escape c ++ inside true rest

/-- A name in single quotation marks, or in double ones if that is simpler. -/
def always (name : Octets) : Octets :=
  if name.contains '\'' ∧ name.all isMild then ['"'] ++ name ++ ['"']
  else
    let body := inside false name
    let endsEscaping := name.getLast?.any (!isPrintable ·)
    ['\''] ++ (if endsEscaping then body else body ++ ['\''])

def needed (name : Octets) : Octets := if isSpecial name then always name else name

/-- A text between single quotation marks, with backslashes before what does not stand for itself. -/
def plain (text : Octets) : Octets :=
  let shown : Octets := text.flatMap fun c ↦
    if c = '\'' ∨ c = '\\' then ['\\', c] else if isPrintable c then [c] else escape c
  ['\''] ++ shown ++ ['\'']

/-- A name of plain characters is left as it is. -/
theorem needed_of_all_isPlain {name : Octets} (hne : name ≠ []) (h : ∀ c ∈ name, isPlain c = true) :
    needed name = name := by
  have hspecial : isSpecial name = false := by
    obtain ⟨c, rest, rfl⟩ := List.exists_cons_of_ne_nil hne
    have hc : isPlain c = true := h c (by simp)
    have hmarks : ∀ d ∈ ['#', '~', '\x7b', '\x7d'], isPlain d = false := by
      intro d hd
      simp only [List.mem_cons, List.not_mem_nil, or_false] at hd
      rcases hd with rfl | rfl | rfl | rfl <;> decide
    have hclear : ∀ d ∈ ['#', '~', '\x7b', '\x7d'], c ≠ d := by
      intro d hd heq
      have hplain := hmarks d hd
      rw [← heq, hc] at hplain
      exact Bool.noConfusion hplain
    have hall : (c :: rest).any (fun d ↦ !isPlain d && !"#~\x7b\x7d\\".toList.contains d) = false := by
      rw [List.any_eq_false]
      intro d hd
      simp [h d hd]
    simp only [isSpecial, hall, Bool.or_false]
    have h1 : c ≠ '#' := hclear _ (by decide)
    have h2 : c ≠ '~' := hclear _ (by decide)
    have h3 : c ≠ '\x7b' := hclear _ (by decide)
    have h4 : c ≠ '\x7d' := hclear _ (by decide)
    simp [h1, h2, h3, h4]
  simp [needed, hspecial]

end Quoting

end ProgressActions.Programs
