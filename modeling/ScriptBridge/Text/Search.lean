/-!
# Text before a marker

`beforeFirst marker text` is what stands before the first occurrence of the marker, and the whole
text when the marker does not occur.
-/

namespace ScriptBridge

/-- The characters before the first occurrence of a marker. -/
def beforeFirstChars (marker : List Char) : List Char → List Char
  | [] => []
  | c :: rest =>
    if marker.isPrefixOf (c :: rest) then [] else c :: beforeFirstChars marker rest

/-- The text before the first occurrence of a marker. -/
def beforeFirst (marker text : String) : String :=
  String.ofList (beforeFirstChars marker.toList text.toList)

end ScriptBridge
