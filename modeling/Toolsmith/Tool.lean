/-!
# The tool

What the tool says of itself, in its messages and in everything that it generates.
-/

namespace Toolsmith.Tool

/-- The name of the tool, which is also that of its log and of the package in an artifact. -/
def name : String := "schemacli"

def version : String := "0.4.0"

end Toolsmith.Tool
