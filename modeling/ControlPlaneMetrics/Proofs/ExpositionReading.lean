import ControlPlaneMetrics.Number.Reading
import ControlPlaneMetrics.Proofs.Renderability

/-!
The text of the gauge, read again. It is split at its line ends, and a line is taken apart at the names
of its labels and the first quotation mark after each that no backslash escapes. That gives back
every series, whatever its labels spell: no label can imitate what stands around it.
-/
namespace ControlPlaneMetrics

open Metrics

namespace Metrics.Exposition

/-! ## The reader -/

/-- What a code point after a backslash stands for. -/
def escaped? : CodePoint → Option CodePoint
  | .char '\\' => some (.char '\\')
  | .char 'n' => some (.char '\n')
  | .char '"' => some (.char '"')
  | _ => none

/-- A text up to the quotation mark that closes it, with its escapes undone, and what follows. -/
def readQuoted? : Text → Option (Text × Text)
  | [] => none
  | .char '"' :: rest => some ([], rest)
  | .char '\\' :: c :: rest => do
    let d ← escaped? c
    let (t, rest) ← readQuoted? rest
    some (d :: t, rest)
  | c :: rest => do
    let (t, rest) ← readQuoted? rest
    some (c :: t, rest)

/-- The value of a label with that name, and what follows. -/
def readLabel? (name t : Text) : Option (Text × Text) :=
  (Text.dropStart? (name ++ Text.ofString "=\"") t).bind readQuoted?

/-- The labels that a line begins with, and the text of its value. -/
def readLabels? (t : Text) : Option (Labels × Text) := do
  let t ← Text.dropStart? (Gauge.metricName ++ [.char '\x7b']) t
  let (clusterId, t) ← readLabel? Gauge.clusterIdLabel t
  let t ← Text.dropStart? [.char ','] t
  let (instanceType, t) ← readLabel? Gauge.instanceTypeLabel t
  let t ← Text.dropStart? (Text.ofString "\x7d ") t
  some (⟨clusterId, instanceType⟩, t)

/-- The series of a line. -/
def readLine? (t : Text) : Option (Labels × Binary64) := do
  let (labels, t) ← readLabels? t
  let value ← readDouble? t
  some (labels, value)

/-! ## What it gives back -/

theorem readQuoted?_escape (t rest : Text) :
    readQuoted? (t.flatMap escape ++ .char '"' :: rest) = some (t, rest) := by
  induction t with
  | nil => rfl
  | cons c t ih =>
    rw [List.flatMap_cons, List.append_assoc]
    by_cases backslash : c = .char '\\'
    · subst backslash
      simp [escape, Text.ofString, readQuoted?, escaped?, ih]
    by_cases lineEnd : c = .char '\n'
    · subst lineEnd
      simp [escape, Text.ofString, readQuoted?, escaped?, ih]
    by_cases mark : c = .char '"'
    · subst mark
      simp [escape, Text.ofString, readQuoted?, escaped?, ih]
    have plain : escape c = [c] := by
      unfold escape
      split <;> first | contradiction | rfl
    rw [plain, List.singleton_append, readQuoted?, ih]
    · rfl
    · exact mark
    · rintro _ _ rfl
      exact absurd rfl backslash

theorem readLabel?_label (name value rest : Text) :
    readLabel? name (label name value ++ rest) = some (value, rest) := by
  have parts : label name value ++ rest =
      (name ++ Text.ofString "=\"") ++ (value.flatMap escape ++ .char '"' :: rest) := by
    simp [label]
  rw [readLabel?, parts, Text.dropStart?_append, Option.bind_some, readQuoted?_escape]

theorem readLabels?_line (labels : Labels) (x : Binary64) :
    readLabels? (line labels x) = some (labels, x.toText) := by
  have parts : line labels x = (Gauge.metricName ++ [.char '\x7b']) ++
      (label Gauge.clusterIdLabel labels.clusterId ++ ([.char ','] ++
        (label Gauge.instanceTypeLabel labels.instanceType ++
          (Text.ofString "\x7d " ++ x.toText)))) := by
    simp [line]
  simp only [readLabels?, parts, Text.dropStart?_append, readLabel?_label, Option.bind_eq_bind,
    Option.bind_some]

/-- Lines are different if their labels are, whatever the values. -/
theorem labels_eq_of_line_eq {labels other : Labels} {x y : Binary64}
    (same : line labels x = line other y) : labels = other := by
  have read := readLabels?_line labels x
  rw [same, readLabels?_line other y] at read
  exact (Prod.mk.inj (Option.some.inj read)).1.symm

theorem level_read {x : Binary64} (level : x = .one ∨ x = .zero) :
    readDouble? x.toText = some x ∧ .char '\n' ∉ x.toText := by
  rcases level with rfl | rfl <;> decide +kernel

theorem readLine?_line (labels : Labels) {x : Binary64} (level : x = .one ∨ x = .zero) :
    readLine? (line labels x) = some (labels, x) := by
  simp only [readLine?, readLabels?_line, (level_read level).1, Option.bind_eq_bind,
    Option.bind_some]

theorem lineEnd_notMem_label {name : Text} (plain : .char '\n' ∉ name) (value : Text) :
    .char '\n' ∉ label name value := by
  have escaped (c : CodePoint) : .char '\n' ∉ escape c := by
    unfold escape
    split
    · decide
    · decide
    · decide
    · next lineEnd _ => simpa using Ne.symm lineEnd
  simp [label, Text.ofString, plain, escaped]

/-- A line ends where it is said to, whatever its labels spell. -/
theorem lineEnd_notMem_line (labels : Labels) {x : Binary64} (level : x = .one ∨ x = .zero) :
    .char '\n' ∉ line labels x := by
  have name : .char '\n' ∉ Gauge.metricName := by decide
  have first : .char '\n' ∉ Gauge.clusterIdLabel := by decide
  have second : .char '\n' ∉ Gauge.instanceTypeLabel := by decide
  simp [line, Text.ofString, name, lineEnd_notMem_label first, lineEnd_notMem_label second,
    (level_read level).2]

theorem split_text {g : Gauge} (valid : g.Valid) : (text g).splitOnMark (.char '\n') =
    header ++ (g.map fun (labels, value) => line labels value) ++ [[]] := by
  refine Text.splitOnMark_flatMap (List.forall_mem_append.mpr ⟨by decide, ?_⟩)
  rw [List.forall_mem_map]
  intro series member
  exact lineEnd_notMem_line series.1 (valid.values series member)

theorem read_lines {g : Gauge} (valid : g.Valid) :
    (g.map fun (labels, value) => line labels value).map readLine? = g.map some := by
  rw [List.map_map]
  refine List.map_congr_left fun series member => ?_
  exact readLine?_line series.1 (valid.values series member)

theorem nodup_lines {g : Gauge} (valid : g.Valid) :
    (g.map fun (labels, value) => line labels value).Nodup := by
  have apart := valid.nodup
  rw [List.Nodup, List.pairwise_map] at apart ⊢
  exact apart.imp fun unlike same => unlike (labels_eq_of_line_eq same)

end Metrics.Exposition

namespace Session

/-- For every session from an empty store and gauge in which no store that is flushed has received a
label with an unpaired surrogate. A scrape gives a text. Split at its line ends, it has the two lines
of the header and one line for each series, in order, in which the series is read. No two of them
are the same line, and those of different labels never are. -/
theorem exposition_determines_gauge (s : Session) (clusterId : Text)
    (identified : s.setting.target.clusterId = .text clusterId)
    (fresh : s.exporter.metrics = ⟨[], []⟩) (steps : List Step)
    (labelled : ∀ step ∈ steps, step.Labelled)
    (sendable : ∀ before after, steps = before ++ .aggregate :: after →
      Metrics.Sendable (s.received [] before)) :
    let gauge := (s.runSteps steps).exporter.metrics.gauge
    (∃ t lines, ((s.runSteps steps).step .exposition).1 = .ok (.text t) ∧
      t.splitOnMark (.char '\n') = Exposition.header ++ lines ++ [[]] ∧
      lines.map Exposition.readLine? = gauge.map some ∧ lines.Nodup) ∧
    ∀ (labels other : Labels) (x y : Binary64),
      Exposition.line labels x = Exposition.line other y → labels = other := by
  intro gauge
  have valid : gauge.Valid := s.runSteps_valid (valid_of_fresh fresh) steps fun step member =>
    (labelled step member).single
  have sent : (s.runSteps steps).Sendable :=
    (sendable_of_fresh identified fresh steps labelled).mpr sendable
  have rendered : Exposition.render gauge = .ok (Exposition.text gauge) := by
    have whole := (UnpairedFault.find?_eq_none_iff _).mpr
      ((Exposition.text_hasSurrogate valid).mpr sent)
    rw [Exposition.render, whole]
  refine ⟨⟨Exposition.text gauge, _, ?_, Exposition.split_text valid, Exposition.read_lines valid,
    Exposition.nodup_lines valid⟩, fun labels other x y => Exposition.labels_eq_of_line_eq⟩
  rw [exposition_eq, rendered]

/-- A series whose instance type looks like the end of its line and most of another. -/
def imitating : Labels :=
  ⟨Text.ofString "east", Text.ofString "m5\"\x7d 1.0\ncpms_enabled\x7b_id=\"west\\"⟩

/-- One series is switched on and one off, and then there is a flush. -/
def switched (on off : Labels) : List Step :=
  [.set on.key (.int 1), .set off.key (.int 0), .aggregate]

/-- It is read as what it is. -/
theorem exposition_shows_imitating :
    let other : Labels := ⟨Text.ofString "west", []⟩
    let steps := switched imitating other
    east.setting.target.clusterId = .text (Text.ofString "east") ∧
    east.exporter.metrics = ⟨[], []⟩ ∧ (∀ step ∈ steps, step.Labelled) ∧
    (∀ before after, steps = before ++ .aggregate :: after →
      Metrics.Sendable (east.received [] before)) ∧
    ∃ t lines, ((east.runSteps steps).step .exposition).1 = .ok (.text t) ∧
      t.splitOnMark (.char '\n') = Exposition.header ++ lines ++ [[]] ∧
      lines.map Exposition.readLine? = [some (imitating, .one), some (other, .zero)] := by
  intro other steps
  have labelled : ∀ step ∈ steps, step.Labelled := by
    simp only [steps, switched, List.forall_mem_cons, Step.Labelled, Step.Single]
    exact ⟨⟨imitating, rfl⟩, ⟨other, rfl⟩, trivial, by simp⟩
  have sendable : ∀ before after, steps = before ++ .aggregate :: after →
      Metrics.Sendable (east.received [] before) := by
    intro before after split
    change switched _ _ = before ++ .aggregate :: after at split
    rcases before with _ | ⟨first, _ | ⟨second, _ | ⟨third, rest⟩⟩⟩
    · cases split
    · cases split
    · cases split
      rintro labels ⟨w, member, own⟩
      have either : w ∈ [(imitating.key, Value.int 1), (other.key, .int 0)] := member
      rcases List.mem_cons.mp either with rfl | later
      · exact Labels.key_injective own ▸ ⟨by decide, by decide⟩
      · obtain rfl := List.mem_singleton.mp later
        exact Labels.key_injective own ▸ ⟨by decide, by decide⟩
    · simp [switched] at split
  obtain ⟨⟨t, lines, rendered, split, read, _⟩, _⟩ :=
    east.exposition_determines_gauge (Text.ofString "east") rfl rfl steps labelled sendable
  exact ⟨rfl, rfl, labelled, sendable, t, lines, rendered, split, read⟩

end Session

end ControlPlaneMetrics
