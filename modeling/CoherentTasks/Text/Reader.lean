/-!
# Readers

A reader takes something off the front of a text. It fails where the text is
malformed.
-/

namespace CoherentTasks.Text

/-- Takes a value off the front of a text and leaves the rest. -/
abbrev Reader (Result : Type) := List Char → Option (Result × List Char)

end CoherentTasks.Text
