import ControlPlaneMetrics.Proofs.History

/-!
What the gauge shows, over a whole session. A flush gives a series the state that the store has at
that moment, and nothing else touches it: neither later writes nor another store.
-/
namespace ControlPlaneMetrics

open Metrics

namespace Metrics

/-- The key of a series. -/
def Labels.key (labels : Labels) : Key := .typed (.text labels.clusterId) (.text labels.instanceType)

theorem Labels.key_misuse? (labels : Labels) : labels.key.misuse? = none := by
  simp [key, Key.misuse?, Value.isKey]

theorem Labels.faithful_key : Key.Faithful Labels.key where
  refl labels := by
    rw [key, Key.same_typed_iff]
    exact ⟨_, _, rfl, (Value.text_same_iff ..).mpr rfl, (Value.text_same_iff ..).mpr rfl⟩
  left {a b k} first second := by
    obtain ⟨x, y, shape, hx, hy⟩ := (Key.same_typed_iff ..).mp first
    obtain ⟨x', y', shape', hx', hy'⟩ := (Key.same_typed_iff ..).mp second
    rw [Value.same_text_iff] at hx hy hx' hy'
    cases a
    cases b
    simp_all
  right {a b k} first second := by
    obtain ⟨x, y, shape, hx, hy⟩ := (Key.typed_same_iff ..).mp first
    obtain ⟨x', y', shape', hx', hy'⟩ := (Key.typed_same_iff ..).mp second
    rw [Value.text_same_iff] at hx hy hx' hy'
    cases a
    cases b
    simp_all

theorem Labels.key_injective {labels other : Labels} (same : labels.key = other.key) :
    labels = other :=
  (Labels.faithful_key.same_iff labels other).mp (same ▸ Labels.faithful_key.refl labels)

theorem lastWrite?_isSome_iff {writes : List Write}
    (own : ∀ w ∈ writes, ∃ labels : Labels, w.1 = labels.key) (labels : Labels) :
    (lastWrite? labels.key writes).isSome ↔ ∃ w ∈ writes, w.1 = labels.key := by
  rw [lastWrite?, Option.isSome_map, List.find?_isSome]
  constructor
  · rintro ⟨w, member, same⟩
    have old : w ∈ writes := List.mem_reverse.mp member
    obtain ⟨other, own⟩ := own w old
    rw [own, Labels.faithful_key.same_iff] at same
    exact ⟨w, old, own.trans (congrArg Labels.key same)⟩
  · rintro ⟨w, member, own⟩
    exact ⟨w, List.mem_reverse.mpr member, own ▸ Labels.faithful_key.refl labels⟩

namespace Gauge

/-- One series for each combination of labels, and no value but those of the two states. -/
structure Valid (g : Gauge) : Prop where
  nodup : (g.map (·.1)).Nodup
  values : ∀ series ∈ g, series.2 = .one ∨ series.2 = .zero

theorem level_cases (enabled : Value) : level enabled = .one ∨ level enabled = .zero := by
  cases truthy : enabled.isTruthy <;> simp [level, truthy]

theorem Valid.write {g : Gauge} (valid : Valid g) (labels : Labels) (enabled : Value) :
    Valid (ControlPlaneMetrics.write labels (level enabled) g) where
  nodup := nodup_write labels _ valid.nodup
  values series member := by
    rcases mem_write member with rfl | old
    · exact level_cases enabled
    · exact valid.values series old

theorem Valid.publish {g : Gauge} (valid : Valid g) (s : Store) : Valid (g.publish s).1 := by
  induction s generalizing g with
  | nil => exact valid
  | cons e rest ih =>
    cases shape : e.key with
    | typed clusterId instanceType =>
      simpa [Gauge.publish, publishEntry, shape] using ih (valid.write _ _)
    | plain parts => simpa [Gauge.publish, publishEntry, shape] using valid

/-- A series is what the store has under its key, or what it was. -/
theorem lookup?_publish (g : Gauge) {s : Store} (keyed : Store.Keyed Labels.key s)
    (distinct : Store.Distinct s) (labels : Labels) :
    lookup? labels (g.publish s).1 =
      ((Store.state? labels.key s).map level).or (lookup? labels g) := by
  induction s generalizing g with
  | nil => rfl
  | cons e rest ih =>
    obtain ⟨own, same⟩ := keyed e (by simp)
    have others : Store.Keyed Labels.key rest := fun d member => keyed d (by simp [member])
    obtain ⟨apart, distinct⟩ := List.pairwise_cons.mp (show List.Pairwise _ (e.key :: _) from distinct)
    have published : g.publishEntry e = .ok (write own (level e.enabled) g) := by
      simp [publishEntry, same, Labels.key, Value.display]
    have later := ih (write own (level e.enabled) g) others distinct
    by_cases hit : own = labels
    · subst hit
      have absent : Store.state? own.key rest = none := by
        rw [Store.state?, Option.map_eq_none_iff, List.find?_eq_none]
        intro d member clash
        have missed := apart d.key (List.mem_map_of_mem member)
        obtain ⟨other, same'⟩ := others d member
        rw [same', Labels.faithful_key.same_iff] at clash
        rw [same, same', clash, Labels.faithful_key.refl] at missed
        cases missed
      simp [publish, published, later, lookup?_write, absent, Store.state?_cons, same,
        Labels.faithful_key.refl]
    · simp [publish, published, later, lookup?_write, hit, Store.state?_cons, same,
        Labels.faithful_key.same_iff]

end Gauge

end Metrics

/-- As `Single`, and a key that is written directly is a pair of texts. -/
def Step.Labelled : Step → Prop
  | .set key _ => ∃ labels : Labels, key = labels.key
  | step => step.Single

theorem Step.Labelled.single {step : Step} (labelled : step.Labelled) : step.Single := by
  cases step with
  | set => trivial
  | _ => exact labelled

namespace Session

/-- The store is made of the writes, each of which is to the key of a series, and so will the
next be. -/
structure Made (s : Session) (known : List Write) : Prop where
  identified : ∃ clusterId, s.setting.target.clusterId = .text clusterId
  store : s.exporter.metrics.store = Store.putAll known []
  own : ∀ w ∈ known, ∃ labels : Labels, w.1 = labels.key

theorem Made.keyed {s : Session} (made : s.Made known) :
    Store.Keyed Labels.key s.exporter.metrics.store := by
  have none : Store.Keyed Labels.key [] := nofun
  exact made.store ▸ none.putAll known made.own

theorem Made.distinct {s : Session} (made : s.Made known) :
    Store.Distinct s.exporter.metrics.store := by
  have none : Store.Distinct [] := .nil
  exact made.store ▸ none.putAll known

theorem Made.state? {s : Session} (made : s.Made known) (labels : Labels) :
    Store.state? labels.key s.exporter.metrics.store = lastWrite? labels.key known := by
  rw [made.store, Store.state?_putAll Labels.faithful_key known [] made.own]
  simp

theorem writes_own (s : Session) (clusterId : Text)
    (identified : s.setting.target.clusterId = .text clusterId) (step : Step)
    (labelled : step.Labelled) {w : Write} (member : w ∈ s.writes step) :
    ∃ labels : Labels, w.1 = labels.key := by
  cases step with
  | set key enabled =>
    obtain ⟨labels, rfl⟩ := labelled
    simp only [writes, Labels.key_misuse?, Option.isSome_none, Bool.false_eq_true, if_false,
      List.mem_singleton] at member
    exact ⟨labels, by rw [member]⟩
  | _ =>
    obtain ⟨size, own⟩ := Target.settle?_key member
    exact ⟨⟨clusterId, size⟩, by rw [own, identified, Labels.key]⟩

theorem Made.step {s : Session} (made : s.Made known) (step : Step) (labelled : step.Labelled) :
    (s.step step).2.Made (s.receive known step) := by
  obtain ⟨clusterId, identified⟩ := made.identified
  refine ⟨?_, s.step_store known step labelled.single made.store, fun w member => ?_⟩
  · rw [(s.step_eq step labelled.single).1]
    exact ⟨clusterId, identified⟩
  · have either : w ∈ known ∨ w ∈ s.writes step := by
      cases step with
      | newStore => cases member
      | _ => exact List.mem_append.mp member
    rcases either with old | new
    · exact made.own w old
    · exact s.writes_own clusterId identified step labelled new

theorem Made.runSteps {s : Session} (made : s.Made known) (steps : List Step)
    (labelled : ∀ step ∈ steps, step.Labelled) :
    (s.runSteps steps).Made (s.received known steps) := by
  induction steps generalizing s known with
  | nil => simpa [Session.runSteps, received] using made
  | cons step rest ih =>
    obtain ⟨first, later⟩ := List.forall_mem_cons.mp labelled
    have next := made.step step first
    rw [Session.runSteps, received]
    exact ih next later

/-- The gauge changes with a flush and with nothing else. -/
theorem step_gauge (s : Session) (step : Step) (single : step.Single) (quiet : step ≠ .aggregate) :
    (s.step step).2.exporter.metrics.gauge = s.exporter.metrics.gauge := by
  rw [(s.step_eq step single).2.2.2]
  cases step with
  | aggregate => exact absurd rfl quiet
  | set key enabled => cases misused : key.misuse? <;> simp [Step.metricsAfter, misused]
  | _ => rfl

theorem aggregate_gauge (s : Session) :
    (s.step .aggregate).2.exporter.metrics.gauge =
      (s.exporter.metrics.gauge.publish s.exporter.metrics.store).1 := by
  rw [(s.step_eq .aggregate trivial).2.2.2]
  rfl

theorem runSteps_valid (s : Session) (valid : s.exporter.metrics.gauge.Valid) (steps : List Step)
    (single : ∀ step ∈ steps, step.Single) : (s.runSteps steps).exporter.metrics.gauge.Valid := by
  induction steps generalizing s with
  | nil => simpa [Session.runSteps] using valid
  | cons step rest ih =>
    obtain ⟨first, later⟩ := List.forall_mem_cons.mp single
    have next : (s.step step).2.exporter.metrics.gauge.Valid := by
      by_cases flushes : step = .aggregate
      · rw [flushes, aggregate_gauge]
        exact valid.publish _
      · rw [s.step_gauge step first flushes]
        exact valid
    rw [Session.runSteps]
    exact ih _ next later

theorem Made.of_fresh {s : Session} {clusterId : Text}
    (identified : s.setting.target.clusterId = .text clusterId)
    (fresh : s.exporter.metrics = ⟨[], []⟩) : s.Made [] :=
  ⟨⟨clusterId, identified⟩, by rw [fresh]; rfl, nofun⟩

theorem valid_of_fresh {s : Session} (fresh : s.exporter.metrics = ⟨[], []⟩) :
    s.exporter.metrics.gauge.Valid := by
  rw [fresh]
  exact ⟨by simp, by simp⟩

/-- What the store has under the key of a series after the steps. -/
def stored (s : Session) (steps : List Step) (labels : Labels) : Option Value :=
  Store.state? labels.key (s.runSteps steps).exporter.metrics.store

/-- The value of a series. -/
def shown (s : Session) (labels : Labels) : Option Binary64 :=
  lookup? labels s.exporter.metrics.gauge

theorem shown_aggregate {s : Session} (made : s.Made known) (labels : Labels) :
    (s.step .aggregate).2.shown labels =
      ((s.stored [] labels).map Gauge.level).or (s.shown labels) := by
  simp only [shown, stored, aggregate_gauge, Session.runSteps]
  exact Gauge.lookup?_publish _ made.keyed made.distinct labels

/-- A series is never taken away. -/
theorem shown_runSteps {s : Session} (made : s.Made known) (steps : List Step)
    (labelled : ∀ step ∈ steps, step.Labelled) (labels : Labels)
    (present : (s.shown labels).isSome) : ((s.runSteps steps).shown labels).isSome := by
  induction steps generalizing s known with
  | nil => simpa [Session.runSteps] using present
  | cons step rest ih =>
    obtain ⟨first, later⟩ := List.forall_mem_cons.mp labelled
    have next : ((s.step step).2.shown labels).isSome := by
      by_cases flushes : step = .aggregate
      · rw [flushes, shown_aggregate made]
        simp [present]
      · rwa [shown, s.step_gauge step first.single flushes]
    rw [Session.runSteps]
    exact ih (made.step step first) later next

/-- A series keeps its value until the next flush of its key. -/
theorem shown_of_unpublished {s : Session} (made : s.Made known) (steps : List Step)
    (labelled : ∀ step ∈ steps, step.Labelled) (labels : Labels)
    (unpublished : ∀ before after, steps = before ++ .aggregate :: after →
      s.stored before labels = none) : (s.runSteps steps).shown labels = s.shown labels := by
  induction steps generalizing s known with
  | nil => simp [Session.runSteps]
  | cons step rest ih =>
    obtain ⟨first, others⟩ := List.forall_mem_cons.mp labelled
    have same : (s.step step).2.shown labels = s.shown labels := by
      by_cases flushes : step = .aggregate
      · have absent := unpublished [] rest (by simp [flushes])
        rw [flushes, shown_aggregate made, absent]
        simp
      · rw [shown, s.step_gauge step first.single flushes, shown]
    have later := ih (made.step step first) others fun before after split => by
      have absent := unpublished (step :: before) after (by simp [split])
      simpa [stored, Session.runSteps] using absent
    rw [Session.runSteps, later, same]

/-- After any steps from the beginning, there is a series for exactly those keys that the store had
at some flush, and its value is the state that the store had for it at the last such flush: that of
the last write which this store had received by then. -/
theorem gauge_shows_last_flush (s : Session) (clusterId : Text)
    (identified : s.setting.target.clusterId = .text clusterId)
    (fresh : s.exporter.metrics = ⟨[], []⟩) (steps : List Step)
    (labelled : ∀ step ∈ steps, step.Labelled) :
    (∀ labels : Labels, labels ∈ (s.runSteps steps).exporter.metrics.gauge.map (·.1) ↔
      ∃ before after, steps = before ++ .aggregate :: after ∧ (s.stored before labels).isSome) ∧
    (∀ (labels : Labels) before after, steps = before ++ .aggregate :: after →
      (s.stored before labels).isSome →
      (∀ between later, after = between ++ .aggregate :: later →
        s.stored (before ++ .aggregate :: between) labels = none) →
      ∃ enabled, lastWrite? labels.key (s.received [] before) = some enabled ∧
        (s.runSteps steps).shown labels = some (if enabled.isTruthy then .one else .zero)) ∧
    (∀ series ∈ (s.runSteps steps).exporter.metrics.gauge, series.2 = .one ∨ series.2 = .zero) ∧
    ((s.runSteps steps).exporter.metrics.gauge.map (·.1)).Nodup := by
  have made : s.Made [] := ⟨⟨clusterId, identified⟩, by rw [fresh]; rfl, nofun⟩
  have valid : s.exporter.metrics.gauge.Valid := by
    rw [fresh]
    exact ⟨by simp, by simp⟩
  obtain ⟨nodup, values⟩ := s.runSteps_valid valid steps fun step member =>
    (labelled step member).single
  -- the flush in the middle, with what the steps before and after it keep
  have flushed (labels : Labels) (before after : List Step)
      (split : steps = before ++ .aggregate :: after) :
      (s.runSteps before).Made (s.received [] before) ∧
      (∀ step ∈ after, step.Labelled) ∧
      s.runSteps steps = ((s.runSteps before).step .aggregate).2.runSteps after := by
    refine ⟨made.runSteps before fun step member => labelled step (by simp [split, member]),
      fun step member => labelled step (by simp [split, member]), ?_⟩
    rw [split, runSteps_append, Session.runSteps]
  refine ⟨fun labels => ⟨fun present => ?_, ?_⟩, fun labels before after split there last => ?_,
    values, nodup⟩
  · refine Classical.byContradiction fun never => ?_
    have unpublished := shown_of_unpublished made steps labelled labels fun before after split => by
      cases there : s.stored before labels with
      | none => rfl
      | some enabled => exact absurd ⟨before, after, split, by simp [there]⟩ never
    rw [← lookup?_isSome_iff, ← shown, unpublished, shown, fresh] at present
    cases present
  · rintro ⟨before, after, split, there⟩
    obtain ⟨halfway, rest, run⟩ := flushed labels before after split
    have next : (((s.runSteps before).step .aggregate).2.shown labels).isSome := by
      rw [shown_aggregate halfway]
      have there : ((s.runSteps before).stored [] labels).isSome := by
        simpa [stored, Session.runSteps] using there
      simp [there]
    rw [← lookup?_isSome_iff, ← shown, run]
    exact shown_runSteps (halfway.step .aggregate trivial) after rest labels next
  · obtain ⟨halfway, rest, run⟩ := flushed labels before after split
    obtain ⟨enabled, state⟩ := Option.isSome_iff_exists.mp there
    have kept := shown_of_unpublished (halfway.step .aggregate trivial) after rest labels
      fun between later split => by
        have absent := last between later split
        simpa [stored, runSteps_append, Session.runSteps] using absent
    refine ⟨enabled, ?_, ?_⟩
    · rw [← halfway.state? labels, ← stored, state]
    · have there : (s.runSteps before).stored [] labels = some enabled := by
        simpa [stored, Session.runSteps] using state
      rw [run, kept, shown_aggregate halfway, there]
      rfl

/-- A state that is written is flushed, then written again in a store that is dropped. -/
def droppedWrite (labels : Labels) : List Step :=
  [.set labels.key (.int 1), .aggregate, .set labels.key (.int 0), .newStore, .aggregate]

/-- The series keeps the state that was flushed. -/
theorem gauge_shows_state_before_dropped_write :
    let labels : Labels := ⟨Text.ofString "east", Text.ofString "m5.xlarge"⟩
    east.setting.target.clusterId = .text (Text.ofString "east") ∧
    east.exporter.metrics = ⟨[], []⟩ ∧
    (∀ step ∈ droppedWrite labels, step.Labelled) ∧
    (east.runSteps (droppedWrite labels)).shown labels = some .one := by
  intro labels
  have labelled : ∀ step ∈ droppedWrite labels, step.Labelled := by
    have own : ∃ other : Labels, labels.key = other.key := ⟨labels, rfl⟩
    simp only [droppedWrite, List.forall_mem_cons, Step.Labelled, Step.Single]
    exact ⟨own, trivial, own, trivial, trivial, by simp⟩
  obtain ⟨_, last, _⟩ := east.gauge_shows_last_flush (Text.ofString "east") rfl rfl
    (droppedWrite labels) labelled
  obtain ⟨enabled, written, shown⟩ := last labels [.set labels.key (.int 1)] _ rfl rfl <| by
    intro between later split
    rcases between with _ | ⟨first, _ | ⟨second, _ | ⟨third, rest⟩⟩⟩
    · cases split
    · cases split
    · cases split
      rfl
    · simp at split
  have one : enabled = .int 1 := Option.some.inj (written.symm.trans rfl)
  rw [one] at shown
  exact ⟨rfl, rfl, labelled, shown⟩

end Session

end ControlPlaneMetrics
