import ProgressActions.Number.Double

/-!
# Spans of time

A span is a whole number of nanoseconds. Its length in seconds is a double: the whole seconds and
the rest are converted apart and then added, each step rounded.
-/

namespace ProgressActions

/-- A span of time. -/
structure Duration where
  nanoseconds : Nat
  deriving DecidableEq, Repr, Inhabited

namespace Duration

/-- Nanoseconds in a second. -/
def perSecond : Nat := 1000000000

/-- A whole number of seconds and a number of nanoseconds. -/
def ofParts (seconds nanoseconds : Nat) : Duration := ⟨seconds * perSecond + nanoseconds⟩

def ofSeconds (seconds : Nat) : Duration := ofParts seconds 0

def ofMilliseconds (milliseconds : Nat) : Duration := ⟨milliseconds * 1000000⟩

def zero : Duration := ⟨0⟩

/-- Whole seconds. -/
def seconds (d : Duration) : Nat := d.nanoseconds / perSecond

/-- What is left after the whole seconds. -/
def subsecond (d : Duration) : Nat := d.nanoseconds % perSecond

/-- The longest span: seconds of 64 bits, and one nanosecond short of another second. -/
def longest : Duration := ofParts (Nat.pow 2 64 - 1) (perSecond - 1)

/-- The sum, cut off at the longest span. -/
def saturatingAdd (first second : Duration) : Duration :=
  ⟨min (first.nanoseconds + second.nanoseconds) longest.nanoseconds⟩

/-- Length in seconds. -/
def toDouble (d : Duration) : Number.Double :=
  .add (.ofNat d.seconds) (.div (.ofNat d.subsecond) (.finite perSecond))

@[simp] theorem seconds_ofParts {seconds nanoseconds : Nat} (h : nanoseconds < perSecond) :
    (ofParts seconds nanoseconds).seconds = seconds := by
  simp only [ofParts, Duration.seconds, perSecond] at *
  omega

@[simp] theorem subsecond_ofParts {seconds nanoseconds : Nat} (h : nanoseconds < perSecond) :
    (ofParts seconds nanoseconds).subsecond = nanoseconds := by
  simp only [ofParts, subsecond, perSecond] at *
  omega

end Duration

end ProgressActions
