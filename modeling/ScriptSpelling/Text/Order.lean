import Std.Data.TreeSet

/-!
# The order of texts

Texts are ordered by their bytes in UTF-8, from left to right, and a text comes before every longer
one that it starts.
-/

namespace ScriptSpelling.Text

def bytes (s : String) : List UInt8 := s.toByteArray.data.toList

/-- How a text stands to another in the order of their bytes. -/
def compareBytes : String → String → Ordering := compareOn bytes

/-- The texts of a list in ascending order, each of them once. -/
def ascending (texts : List String) : List String :=
  (Std.TreeSet.ofList texts compareBytes).toList

end ScriptSpelling.Text
