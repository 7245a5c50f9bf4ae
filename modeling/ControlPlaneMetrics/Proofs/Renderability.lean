import ControlPlaneMetrics.Proofs.Publication

/-!
Whether the gauge can be scraped, over a whole session. The labels of a series are sent as they are,
and one half of a surrogate pair cannot be. No series is ever taken away, so that a single instance
type with such a half in it, accepted from whatever blob and flushed, ends all scrapes.
-/
namespace ControlPlaneMetrics

open Metrics

namespace Metrics

/-- No label has an unpaired surrogate. -/
def Labels.Sendable (labels : Labels) : Prop :=
  labels.clusterId.hasSurrogate = false ∧ labels.instanceType.hasSurrogate = false

namespace Exposition

theorem escape_hasSurrogate (c : CodePoint) : (escape c).hasSurrogate = c.isSurrogate := by
  unfold escape
  split <;> simp [Text.ofString, Text.hasSurrogate, CodePoint.isSurrogate]

theorem label_hasSurrogate {name : Text} (plain : name.hasSurrogate = false) (value : Text) :
    (label name value).hasSurrogate = value.hasSurrogate := by
  have body : Text.hasSurrogate (value.flatMap escape) = value.hasSurrogate := by
    rw [Text.hasSurrogate, List.any_flatMap]
    exact congrArg (List.any value) (funext escape_hasSurrogate)
  simp only [label, Text.hasSurrogate_append, plain, body, Text.ofString, Text.hasSurrogate_chars,
    Text.hasSurrogate_cons, Bool.false_or]
  exact Bool.or_false _

theorem line_hasSurrogate (labels : Labels) {x : Binary64} (plain : x.toText.hasSurrogate = false) :
    (line labels x).hasSurrogate = false ↔ labels.Sendable := by
  have name : Gauge.metricName.hasSurrogate = false := rfl
  have first : Gauge.clusterIdLabel.hasSurrogate = false := rfl
  have second : Gauge.instanceTypeLabel.hasSurrogate = false := rfl
  simp only [line, Text.hasSurrogate_append, Text.hasSurrogate_cons, label_hasSurrogate first,
    label_hasSurrogate second, name, plain, Text.ofString, Text.hasSurrogate_chars, Bool.false_or,
    Bool.or_false, Bool.or_eq_false_iff]
  exact Iff.rfl

theorem text_hasSurrogate {g : Gauge} (valid : g.Valid) :
    (text g).hasSurrogate = false ↔ ∀ labels ∈ g.map (·.1), labels.Sendable := by
  have number {series : Labels × Binary64} (member : series ∈ g) :
      series.2.toText.hasSurrogate = false := by
    rcases valid.values series member with one | zero
    · rw [one]
      decide +kernel
    · rw [zero]
      decide +kernel
  have ended (t : Text) : Text.hasSurrogate (t ++ [.char '\n']) = t.hasSurrogate := by
    rw [Text.hasSurrogate_append]
    exact Bool.or_false _
  have headed : ∀ t ∈ header, Text.hasSurrogate t = false := by decide +kernel
  have lined : (text g).hasSurrogate = false ↔ ∀ t ∈ lines g, Text.hasSurrogate t = false := by
    rw [text, Text.hasSurrogate, List.any_flatMap, List.any_eq_false]
    exact forall₂_congr fun t _ => by rw [Bool.not_eq_true, ← ended t]; rfl
  rw [lined, lines, List.forall_mem_append, List.forall_mem_map, List.forall_mem_map]
  constructor
  · rintro ⟨_, sent⟩ series member
    exact (line_hasSurrogate _ (number member)).mp (sent series member)
  · intro sendable
    exact ⟨headed, fun series member =>
      (line_hasSurrogate _ (number member)).mpr (sendable series member)⟩

/-- The text can be sent unless a label has an unpaired surrogate. -/
theorem render_isOk_iff {g : Gauge} (valid : g.Valid) :
    (∃ t, render g = .ok t) ↔ ∀ labels ∈ g.map (·.1), labels.Sendable := by
  rw [← text_hasSurrogate valid, ← UnpairedFault.find?_eq_none_iff, render]
  cases UnpairedFault.find? (text g) <;> simp

end Exposition

/-- No write is to a series whose labels cannot be sent. -/
def Sendable (writes : List Write) : Prop :=
  ∀ labels : Labels, (∃ w ∈ writes, w.1 = labels.key) → labels.Sendable

end Metrics

theorem Step.Reconciling.labelled {step : Step} (reconciling : step.Reconciling) :
    step.Labelled := by
  cases step with
  | set => exact reconciling.elim
  | _ => exact reconciling.single

/-- A machine set on AWS with a blob, as it is answered. -/
def MachineSet.holding (blob : Value) : Value :=
  Resource.describe Resource.wireNames
    { apiVersion := Text.ofString "machine.openshift.io/v1"
      kind := Text.ofString "ControlPlaneMachineSet"
      metadata := ⟨Text.ofString "cluster", none, none⟩
      spec :=
        { state := some (Text.ofString "Active")
          replicas := some 3
          template :=
            { machineType := machineSectionName
              machine := some
                { spec := ⟨⟨blob⟩⟩
                  failureDomains := some ⟨some Provider.aws⟩ } } } }

namespace Session

theorem Made.written_iff {s : Session} (made : s.Made known) (labels : Labels) :
    (Store.state? labels.key s.exporter.metrics.store).isSome ↔ ∃ w ∈ known, w.1 = labels.key := by
  rw [made.state?, lastWrite?_isSome_iff made.own]

/-- Every series has labels that can be sent. -/
def Sendable (s : Session) : Prop :=
  ∀ labels ∈ s.exporter.metrics.gauge.map (·.1), labels.Sendable

theorem sendable_aggregate {s : Session} (made : s.Made known) :
    (s.step .aggregate).2.Sendable ↔ s.Sendable ∧ Metrics.Sendable known := by
  have published (labels : Labels) :
      labels ∈ (s.step .aggregate).2.exporter.metrics.gauge.map (·.1) ↔
        (∃ w ∈ known, w.1 = labels.key) ∨ labels ∈ s.exporter.metrics.gauge.map (·.1) := by
    rw [aggregate_gauge, ← lookup?_isSome_iff, ← lookup?_isSome_iff,
      Gauge.lookup?_publish _ made.keyed made.distinct, Option.isSome_or, Option.isSome_map,
      Bool.or_eq_true, made.written_iff]
  simp only [Sendable, published]
  constructor
  · intro sent
    exact ⟨fun labels shown => sent labels (.inr shown),
      fun labels written => sent labels (.inl written)⟩
  · rintro ⟨shown, written⟩ labels (new | old)
    · exact written labels new
    · exact shown labels old

/-- What the gauge shows can be sent if it could be before, and if every flush found a store whose
series can be. -/
theorem sendable_runSteps {s : Session} (made : s.Made known) (steps : List Step)
    (labelled : ∀ step ∈ steps, step.Labelled) :
    (s.runSteps steps).Sendable ↔ s.Sendable ∧ ∀ before after,
      steps = before ++ .aggregate :: after → Metrics.Sendable (s.received known before) := by
  induction steps generalizing s known with
  | nil => simp [runSteps]
  | cons step rest ih =>
    obtain ⟨first, others⟩ := List.forall_mem_cons.mp labelled
    rw [runSteps, ih (made.step step first) others]
    by_cases flushes : step = .aggregate
    · subst flushes
      have kept : s.receive known .aggregate = known := by
        change known ++ (s.fetched .aggregate).filterMap s.setting.target.settle? = known
        rw [fetched_eq s .aggregate trivial]
        exact List.append_nil known
      rw [sendable_aggregate made, kept, and_assoc]
      refine and_congr_right fun _ => ⟨?_, fun sent => ⟨?_, ?_⟩⟩
      · rintro ⟨now, later⟩ (_ | ⟨_, before⟩) after split
        · exact now
        · cases split
          rw [received, kept]
          exact later before after rfl
      · exact sent [] rest rfl
      · intro before after split
        have found := sent (.aggregate :: before) after (by rw [split]; rfl)
        rwa [received, kept] at found
    · rw [Sendable, s.step_gauge step first.single flushes, ← Sendable]
      refine and_congr_right fun _ => ⟨?_, ?_⟩
      · rintro later (_ | ⟨_, before⟩) after split
        · cases split
          exact absurd rfl flushes
        · cases split
          exact later before after rfl
      · intro sent before after split
        exact sent (step :: before) after (by rw [split]; rfl)

theorem sendable_of_fresh {s : Session} {clusterId : Text}
    (identified : s.setting.target.clusterId = .text clusterId)
    (fresh : s.exporter.metrics = ⟨[], []⟩) (steps : List Step)
    (labelled : ∀ step ∈ steps, step.Labelled) :
    (s.runSteps steps).Sendable ↔ ∀ before after, steps = before ++ .aggregate :: after →
      Metrics.Sendable (s.received [] before) := by
  have empty : s.Sendable := by
    rw [Sendable, fresh]
    exact nofun
  rw [sendable_runSteps (.of_fresh identified fresh) steps labelled, and_iff_right empty]

/-- The object is accepted, and declares an instance type. -/
def Accepts (v : Value) (size : Text) : Prop :=
  ∃ o, observe v = .ok o ∧ o.instanceType = .text size

theorem sendable_received (s : Session) {clusterId : Text}
    (identified : s.setting.target.clusterId = .text clusterId)
    (whole : clusterId.hasSurrogate = false) (steps : List Step)
    (reconciling : ∀ step ∈ steps, step.Reconciling) :
    Metrics.Sendable (s.received [] steps) ↔
      ∀ v size, .ok v ∈ s.answers steps → Accepts v size → size.hasSurrogate = false := by
  rw [s.received_of_reconciling [] steps reconciling, List.nil_append]
  constructor
  · rintro sent v size answered ⟨o, observed, sized⟩
    have usable := s.setting.target.key_misuse? clusterId size identified o sized
    have settled : (s.setting.target.key o, .bool o.enabled) ∈
        (s.answers steps).filterMap s.setting.target.settle? :=
      List.mem_filterMap.mpr ⟨_, answered,
        (Target.settle?_eq_some_iff ..).mpr ⟨v, o, rfl, observed, usable, rfl⟩⟩
    have own : s.setting.target.key o = (⟨clusterId, size⟩ : Labels).key := by
      rw [Target.key, identified, sized, Labels.key]
    exact (sent ⟨clusterId, size⟩ ⟨_, settled, own⟩).2
  · rintro sound labels ⟨w, settled, own⟩
    obtain ⟨answer, answered, one⟩ := List.mem_filterMap.mp settled
    obtain ⟨v, o, rfl, observed, _, rfl⟩ := (Target.settle?_eq_some_iff ..).mp one
    obtain ⟨size, sized⟩ := observe_text observed
    rw [Target.key, identified, sized, Labels.key, Key.typed.injEq, Value.text.injEq,
      Value.text.injEq] at own
    obtain ⟨sameCluster, sameSize⟩ := own
    exact ⟨sameCluster ▸ whole, sameSize ▸ sound v size answered ⟨o, observed, sized⟩⟩

/-- A scrape gives a text. -/
def Renders (s : Session) : Prop := ∃ t, (s.step .exposition).1 = .ok (.text t)

theorem exposition_eq (s : Session) : (s.step .exposition).1 =
    match Exposition.render s.exporter.metrics.gauge with
    | .ok t => .ok (.text t)
    | .error fault => .error (.unpaired fault) := by
  unfold Session.step
  rfl

theorem renders_or_unpaired (s : Session) :
    s.Renders ∨ ∃ fault, (s.step .exposition).1 = .error (.unpaired fault) := by
  rw [Renders, exposition_eq]
  cases Exposition.render s.exporter.metrics.gauge with
  | ok t => exact .inl ⟨t, rfl⟩
  | error fault => exact .inr ⟨fault, rfl⟩

theorem renders_iff {s : Session} (valid : s.exporter.metrics.gauge.Valid) :
    s.Renders ↔ s.Sendable := by
  rw [Sendable, ← Exposition.render_isOk_iff valid, Renders, exposition_eq]
  cases Exposition.render s.exporter.metrics.gauge <;> simp

theorem renders_runSteps (s : Session) {clusterId : Text}
    (identified : s.setting.target.clusterId = .text clusterId)
    (whole : clusterId.hasSurrogate = false) (fresh : s.exporter.metrics = ⟨[], []⟩)
    (steps : List Step) (reconciling : ∀ step ∈ steps, step.Reconciling) :
    (s.runSteps steps).Renders ↔ ∀ before after, steps = before ++ .aggregate :: after →
      ∀ v size, .ok v ∈ s.answers before → Accepts v size → size.hasSurrogate = false := by
  have labelled : ∀ step ∈ steps, step.Labelled := fun step member =>
    (reconciling step member).labelled
  have valid := s.runSteps_valid (valid_of_fresh fresh) steps fun step member =>
    (labelled step member).single
  rw [renders_iff valid, sendable_of_fresh identified fresh steps labelled]
  refine forall₂_congr fun before after => forall_congr' fun split => ?_
  exact s.sendable_received identified whole before fun step member =>
    reconciling step (by simp [split, member])

/-- For every session whose writes come from reconciliations, under an identifier without unpaired
surrogates. A scrape gives a text unless an instance type with such a surrogate in it was accepted
before a flush. If it gives none, there is never one again. -/
theorem accepted_types_decide_exposition (s : Session) (clusterId : Text)
    (identified : s.setting.target.clusterId = .text clusterId)
    (whole : clusterId.hasSurrogate = false) (fresh : s.exporter.metrics = ⟨[], []⟩)
    (steps : List Step) (reconciling : ∀ step ∈ steps, step.Reconciling) :
    ((s.runSteps steps).Renders ↔ ∀ before after, steps = before ++ .aggregate :: after →
      ∀ v size, .ok v ∈ s.answers before → Accepts v size → size.hasSurrogate = false) ∧
    (¬(s.runSteps steps).Renders → ∀ more, (∀ step ∈ more, step.Reconciling) →
      ∃ fault, ((s.runSteps (steps ++ more)).step .exposition).1 = .error (.unpaired fault)) := by
  have renders := s.renders_runSteps identified whole fresh
  refine ⟨renders steps reconciling, fun stopped more reconciling' => ?_⟩
  rcases (s.runSteps (steps ++ more)).renders_or_unpaired with later | failed
  · have sound := (renders (steps ++ more) fun step member =>
      (List.mem_append.mp member).elim (reconciling step) (reconciling' step)).mp later
    refine absurd ((renders steps reconciling).mpr fun before after split => ?_) stopped
    exact sound before (after ++ more) (by rw [split, List.append_assoc, List.cons_append])
  · exact failed

/-- A machine set on AWS is put, fetched and flushed. -/
def published (blob : Value) : List Step :=
  [.put (Text.ofString "machines") (Text.ofString "cluster") (.ok (MachineSet.holding blob)),
    .reconcile (.text (Text.ofString "machines")) (.text (Text.ofString "cluster")), .aggregate]

theorem published_reconciling (blob : Value) : ∀ step ∈ published blob, step.Reconciling := by
  simp [published, Step.Reconciling, Step.Single]

/-- The series of a usual instance type is scraped. -/
theorem exposition_renders_usual_type :
    let steps := published
      (.object [(Text.ofString "instanceType", .text (Text.ofString "m5.xlarge"))])
    (∀ step ∈ steps, step.Reconciling) ∧ (east.runSteps steps).Renders := by
  intro steps
  have reconciling := published_reconciling
    (.object [(Text.ofString "instanceType", .text (Text.ofString "m5.xlarge"))])
  obtain ⟨renders, _⟩ := east.accepted_types_decide_exposition (Text.ofString "east") rfl rfl rfl
    steps reconciling
  refine ⟨reconciling, renders.mpr fun before after split v size answered accepted => ?_⟩
  change published _ = before ++ .aggregate :: after at split
  rcases before with _ | ⟨first, _ | ⟨second, _ | ⟨third, rest⟩⟩⟩
  · cases split
  · cases split
  · cases split
    obtain rfl : v = _ := Except.ok.inj (List.mem_singleton.mp answered)
    obtain ⟨o, observed, sized⟩ := accepted
    cases observed
    cases sized
    decide
  · simp [published] at split

/-- A type that is one half of a surrogate pair is accepted, and there is nothing to be scraped. -/
theorem accepted_half_stops_exposition :
    let steps := published (.text (Text.ofString "\x7b\"instanceType\": \"\\ud800\"\x7d"))
    (∀ step ∈ steps, step.Reconciling) ∧
    (east.runSteps steps).exporter.metrics.store.length = 1 ∧
    ∃ fault, ((east.runSteps steps).step .exposition).1 = .error (.unpaired fault) := by
  intro steps
  have unrendered : ((east.runSteps steps).step .exposition).1.toOption.isSome = false := by
    decide +kernel
  refine ⟨published_reconciling _, by decide +kernel, ?_⟩
  rcases (east.runSteps steps).renders_or_unpaired with ⟨t, renders⟩ | unpaired
  · rw [renders] at unrendered
    cases unrendered
  · exact unpaired

end Session

end ControlPlaneMetrics
