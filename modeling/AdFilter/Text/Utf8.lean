/-!
# UTF-8

The bytes of a text, and the text that bytes write. `decode?_encode` says that the two agree.
-/

namespace AdFilter.Text.Utf8

/-- The bytes that write a text. -/
def encode (cs : List Char) : List UInt8 := cs.flatMap String.utf8EncodeChar

/-- The text that some bytes write, if they write one. -/
def decode? (bytes : List UInt8) : Option (List Char) :=
  bytes.toByteArray.utf8Decode?.map Array.toList

theorem decode?_encode (cs : List Char) : decode? (encode cs) = some cs := by
  have h : (encode cs).toByteArray = cs.utf8Encode := rfl
  rw [decode?, h, List.utf8Decode?_utf8Encode]
  rfl

end AdFilter.Text.Utf8
