import ProgressActions.Duration
import ProgressActions.Text.Numeral

/-!
# Byte counts for people

A count is scaled to a binary unit and rounded up: with one decimal while it is below ten, whole
otherwise. A figure joins a label, the exact count, the scaled count and the rate.
-/

namespace ProgressActions.Size

open Number

/-- The names of the units, each 1024 times the one before. -/
def unitNames : List String := ["", "Ki", "Mi", "Gi", "Ti", "Pi", "Ei", "Zi", "Yi"]

/-- A value divided by 1024 until it is below 1024 or no greater unit is left. -/
def climb (value : Double) (unit : Nat) : (room : Nat) → Double × Nat
  | 0 => (value, unit)
  | room + 1 =>
    if value.atLeast 1024 then climb (value.scale (1 / 1024)) (unit + 1) room else (value, unit)

/-- The count in the unit that keeps it below 1024, and the index of that unit. -/
def scaled (count : Double) : Double × Nat :=
  climb count.clampNonneg 0 (unitNames.length - 1)

/-- A scaled count, rounded up: tenths below ten, otherwise whole. -/
def mantissa (value : Double) (unit : Nat) : List Char :=
  let tenths := (value.scale 10).ceil.scale (1 / 10)
  if 0 < unit ∧ value.atLeast 10 = false ∧ tenths.atLeast 10 = false then tenths.fixed 1
  else value.ceil.fixed 0

/-- A byte count in binary units, such as `1.5KiB`. -/
def human (count : Double) : List Char :=
  let (value, unit) := scaled count
  mantissa value unit ++ (unitNames.getD unit "").toList ++ ['B']

/-- Bytes in a second, or a question mark when no time has passed. -/
def rate (count : Nat) (elapsed : Duration) : List Char :=
  if elapsed.nanoseconds = 0 then ['?']
  else human ((Double.ofNat count).div elapsed.toDouble)

/-- A label and a colon in front of a text; an empty label adds nothing. -/
def labelled (label text : List Char) : List Char :=
  if label = [] then text else label ++ ": ".toList ++ text

/-- The figure of bytes that were moved: exact count, size and rate. -/
def figure (label : List Char) (count : Nat) (elapsed : Duration) : List Char :=
  labelled label
    (Text.numeral count ++ " (".toList ++ human (.ofNat count) ++ ", ".toList ++
      rate count elapsed ++ "/s)".toList)

/-- The figure of bytes that were dropped: only the exact count, and nothing without a label. -/
def plainFigure (label : List Char) (count : Nat) : List Char :=
  if label = [] then [] else labelled label (Text.numeral count)

end ProgressActions.Size
