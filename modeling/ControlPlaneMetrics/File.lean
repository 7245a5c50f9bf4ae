import ControlPlaneMetrics.Text.Encoding

/-!
Why a file cannot be used. What the system says of a path is given from outside; whoever opens a
file says what follows.
-/
namespace ControlPlaneMetrics

inductive FileFault where
  /-- The system refuses the file, in its own words: there is a directory, say, or no access. -/
  | refused (words : Text)
  /-- What the file holds is no text. -/
  | notText (fault : EncodingFault)
  /-- There can be no file at the path. -/
  | notPath (words : Text)
  deriving DecidableEq

namespace FileFault

/-- Whether the fault is about a value that cannot be accepted, and not about the system. -/
def isValueFault : FileFault → Bool
  | refused _ => false
  | notText _ => true
  | notPath _ => true

def message : FileFault → Text
  | refused words => words
  | notText fault => fault.message
  | notPath words => words

end FileFault

end ControlPlaneMetrics
