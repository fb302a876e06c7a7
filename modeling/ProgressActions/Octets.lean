import ProgressActions.Text.Numeral

/-!
# Texts of octets

What processes read and write are rows of octets. Each octet is held as the character with its code, so
that texts of octets are taken apart like other texts.
-/

namespace ProgressActions

/-- A text of octets. -/
abbrev Octets := List Char

namespace Octets

/-- Whether a character leaves a gap: a blank, a tab, or the end of a line or of a page. -/
def isSpace (c : Char) : Bool := c == ' ' || ('\t' ≤ c && c ≤ '\x0d')

def ofBytes (content : List UInt8) : Octets := content.map fun b ↦ Char.ofNat b.toNat

def toBytes (text : Octets) : List UInt8 := text.map fun c ↦ UInt8.ofNat c.toNat

theorem toNat_ofNat_byte (b : UInt8) : (Char.ofNat b.toNat).toNat = b.toNat := by
  have hvalid : b.toNat.isValidChar := by
    have hlt := b.toNat_lt
    exact Or.inl (by omega)
  rw [Char.ofNat, dif_pos hvalid]
  rfl

@[simp] theorem toBytes_ofBytes (content : List UInt8) : toBytes (ofBytes content) = content := by
  have hround : (fun c ↦ UInt8.ofNat c.toNat) ∘ (fun b : UInt8 ↦ Char.ofNat b.toNat) = id := by
    funext b
    simp only [Function.comp_apply, toNat_ofNat_byte, UInt8.ofNat_toNat, id_eq]
  simp only [toBytes, ofBytes, List.map_map, hround, List.map_id]

/-- The bytes of octets in one piece. -/
def toByteArray (text : Octets) : ByteArray := ⟨(toBytes text).toArray⟩

/-- The octets of a piece of bytes. -/
def ofByteArray (content : ByteArray) : Octets := ofBytes content.data.toList

@[simp] theorem ofByteArray_empty : ofByteArray ByteArray.empty = [] := rfl

/-- Words with single spaces between them. -/
def spaced (words : List Octets) : Octets := [' '].intercalate words

/-- The numeral of a whole number with its sign. -/
def ofInt (n : Int) : Octets :=
  if n < 0 then '-' :: Text.numeral n.natAbs else Text.numeral n.natAbs

/-- Whether one text comes before another, octet by octet. -/
def before : Octets → Octets → Bool
  | _, [] => false
  | [], _ :: _ => true
  | a :: rest, b :: more => a < b || (a == b && before rest more)

/-- Whether one text comes before another or is the same. -/
def upTo (first second : Octets) : Bool := !before second first

theorem before_irrefl (text : Octets) : before text text = false := by
  induction text with
  | nil => rfl
  | cons c rest ih => simp [before, ih]

/-- A text one character longer at the front of its first part; the separator begins a new part. -/
def extendParts (separator c : Char) (parts : List Octets) : List Octets :=
  if c = separator then [] :: parts
  else
    match parts with
    | first :: more => (c :: first) :: more
    | [] => [[c]]

/-- The parts of a text between the places of a character. -/
def splitAt (separator : Char) (text : Octets) : List Octets := text.foldr (extendParts separator) [[]]

theorem splitAt_cons (separator c : Char) (rest : Octets) :
    splitAt separator (c :: rest) = extendParts separator c (splitAt separator rest) := rfl

theorem splitAt_ne_nil (separator : Char) (text : Octets) : splitAt separator text ≠ [] := by
  cases text with
  | nil => simp [splitAt]
  | cons c rest =>
    rw [splitAt_cons]
    unfold extendParts
    split
    · simp
    · split <;> simp

/-- A text is put together from its parts again. -/
theorem intercalate_splitAt (separator : Char) (text : Octets) :
    [separator].intercalate (splitAt separator text) = text := by
  induction text with
  | nil => rfl
  | cons c rest ih =>
    rw [splitAt_cons]
    unfold extendParts
    obtain ⟨first, more, h⟩ := List.exists_cons_of_ne_nil (splitAt_ne_nil separator rest)
    rw [h] at ih ⊢
    split
    · rename_i hc
      rw [List.intercalate_cons_cons, ih, hc]
      rfl
    · cases more with
      | nil => simpa using ih
      | cons second others =>
        simp only [List.intercalate_cons_cons, List.cons_append] at ih ⊢
        rw [ih]

/-! ## Lines -/

/-- Lines one character longer at the front, each of which ends with a mark. -/
def extendLines (mark c : Char) (later : List Octets) : List Octets :=
  if c = mark then [c] :: later
  else
    match later with
    | line :: more => (c :: line) :: more
    | [] => [[c]]

/-- The lines of a text, each with its mark, which may be missing from the last one. -/
def linesBy (mark : Char) (text : Octets) : List Octets := text.foldr (extendLines mark) []

theorem linesBy_cons (mark c : Char) (rest : Octets) :
    linesBy mark (c :: rest) = extendLines mark c (linesBy mark rest) := rfl

theorem flatten_linesBy (mark : Char) (text : Octets) : (linesBy mark text).flatten = text := by
  induction text with
  | nil => rfl
  | cons c rest ih =>
    rw [linesBy_cons]
    unfold extendLines
    split
    · simp [ih]
    · split
      · rename_i line later h
        rw [h] at ih
        simpa using ih
      · rename_i h
        rw [h] at ih
        simpa using ih

/-- The lines of a text, each with its line feed, which may be missing from the last one. -/
def lines (text : Octets) : List Octets := linesBy '\n' text

/-- The records of a text, each of which is ended by a mark; the last mark may be missing. -/
def records (mark : Char) (text : Octets) : List Octets :=
  let parts := splitAt mark text
  if parts.getLast? = some [] then parts.dropLast else parts

/-- Records with a mark behind each. -/
def ended (mark : Char) (records : List Octets) : Octets := records.flatMap (· ++ [mark])

def withoutFeed (line : Octets) : Octets := if line.getLast? = some '\n' then line.dropLast else line

end Octets

end ProgressActions
