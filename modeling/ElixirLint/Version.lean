/-!
# The version

The version that the program tells of itself, to editors and on the command line.
-/

namespace ElixirLint

/-- The version of the program. -/
def version : String := "0.1.0"

end ElixirLint
