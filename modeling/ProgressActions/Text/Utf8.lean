/-!
# Bytes of a text

Streams carry bytes. A text is written to them in UTF-8, character by character, so the bytes of a
text are the bytes of its parts in order.
-/

namespace ProgressActions.Text

def bytes (text : List Char) : List UInt8 :=
  text.flatMap String.utf8EncodeChar

@[simp] theorem bytes_nil : bytes [] = [] := rfl

@[simp] theorem bytes_cons (c : Char) (text : List Char) :
    bytes (c :: text) = String.utf8EncodeChar c ++ bytes text := rfl

@[simp] theorem bytes_append (first second : List Char) :
    bytes (first ++ second) = bytes first ++ bytes second := by
  simp [bytes]

/-- The text that bytes spell, when they are UTF-8. -/
def ofBytes? (content : List UInt8) : Option (List Char) :=
  (String.fromUTF8? ⟨content.toArray⟩).map String.toList

end ProgressActions.Text
