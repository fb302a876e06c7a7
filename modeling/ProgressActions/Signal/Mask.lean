import ProgressActions.Signal

/-!
# The signals that a program waits for

Signals are collected first and blocked together later, once. A blocked signal stays pending until
a wait consumes it, so one that arrives early is not lost.
-/

namespace ProgressActions.Signal

/-- The collected signals, and whether they have been blocked. -/
structure Mask where
  members : List Signal := []
  blocked : Bool := false
  deriving DecidableEq, Repr

namespace Mask

def empty : Mask := {}

def contains (m : Mask) (s : Signal) : Bool := m.members.contains s

/-- Adding a signal a second time changes nothing. -/
def add (m : Mask) (s : Signal) : Mask :=
  if m.contains s then m else { m with members := m.members ++ [s] }

/-- The collected signals in the order of their numbers. -/
def toList (m : Mask) : List Signal := Signal.all.filter m.contains

def isEmpty (m : Mask) : Bool := m.members.isEmpty

def block (m : Mask) : Mask := { m with blocked := true }

/-- A wait returns with the pending signal of the lowest number. -/
def lowest? (m : Mask) : Option Signal := m.toList.head?

@[simp] theorem contains_empty (s : Signal) : empty.contains s = false := rfl

@[simp] theorem contains_add (m : Mask) (s t : Signal) :
    (m.add s).contains t = (m.contains t || t == s) := by
  unfold add
  split
  · rename_i h
    by_cases hts : t = s
    · subst hts
      simp [h]
    · simp [hts]
  · by_cases hts : t = s
    · subst hts
      simp [contains]
    · have hst : ¬s = t := fun h ↦ hts h.symm
      simp [contains, hts]

@[simp] theorem blocked_add (m : Mask) (s : Signal) : (m.add s).blocked = m.blocked := by
  unfold add
  split <;> rfl

@[simp] theorem contains_block (m : Mask) (s : Signal) : m.block.contains s = m.contains s := rfl

@[simp] theorem blocked_block (m : Mask) : m.block.blocked = true := rfl

@[simp] theorem mem_toList {m : Mask} {s : Signal} : s ∈ m.toList ↔ m.contains s = true := by
  simp [toList, mem_all]

theorem isEmpty_iff (m : Mask) : m.isEmpty = true ↔ ∀ s, m.contains s = false := by
  constructor
  · intro h s
    simp [isEmpty] at h
    simp [contains, h]
  · intro h
    cases hm : m.members with
    | nil => simp [isEmpty, hm]
    | cons s rest =>
      have hs := h s
      simp [contains, hm] at hs

end Mask

end ProgressActions.Signal
