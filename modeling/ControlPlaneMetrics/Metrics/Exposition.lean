import ControlPlaneMetrics.Metrics.Gauge
import ControlPlaneMetrics.Text.Encoding

/-!
The gauge as text to be scraped: two header lines and one line for each series. In a
label's value the backslash, the quotation mark and the line end are escaped. A text
with half of a surrogate pair in it cannot be sent.
-/
namespace ControlPlaneMetrics.Metrics.Exposition

def escape : CodePoint → Text
  | .char '\\' => Text.ofString "\\\\"
  | .char '\n' => Text.ofString "\\n"
  | .char '"' => Text.ofString "\\\""
  | c => [c]

def label (name value : Text) : Text :=
  name ++ Text.ofString "=\"" ++ value.flatMap escape ++ [.char '"']

/-- The line of a series, without its end. -/
def line (labels : Labels) (value : Binary64) : Text :=
  Gauge.metricName ++ .char '\x7b' :: label Gauge.clusterIdLabel labels.clusterId ++
    .char ',' :: label Gauge.instanceTypeLabel labels.instanceType ++ Text.ofString "\x7d " ++
    value.toText

def header : List Text :=
  [Text.ofString "# HELP " ++ Gauge.metricName ++ .char ' ' :: Gauge.metricHelp,
    Text.ofString "# TYPE " ++ Gauge.metricName ++ Text.ofString " gauge"]

/-- Every line of the text. -/
def lines (g : Gauge) : List Text := header ++ g.map fun (labels, value) => line labels value

/-- The whole text, in which each line has its end. -/
def text (g : Gauge) : Text := (lines g).flatMap (· ++ [.char '\n'])

/-- The text as it is sent. -/
def render (g : Gauge) : Except UnpairedFault Text :=
  match UnpairedFault.find? (text g) with
  | some fault => .error fault
  | none => .ok (text g)

end ControlPlaneMetrics.Metrics.Exposition
