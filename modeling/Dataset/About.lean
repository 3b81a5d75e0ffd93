/-!
# The program

Its name and its version, as they show in answers and in messages.
-/

namespace Dataset

/-- The name of the program. -/
def programName : String := "rowgate"

/-- The version of the program. -/
def version : String := "0.1.0"

end Dataset
