/-!
# Names and version of the release

The parts of the release and their common version, as they introduce themselves.
-/

namespace QubitRotation.Release

/-- The version of all parts. -/
def version : String := "0.1.0"

/-- The part that holds gates, circuits and their notation. -/
def foundation : String := "rotq_core"

/-- The part that optimises circuits. -/
def optimizer : String := "ROTQ Engine"

/-- The command. -/
def command : String := "rotq"

/-- How the command introduces itself. -/
def banner : String := s!"{command} {version}"

end QubitRotation.Release
