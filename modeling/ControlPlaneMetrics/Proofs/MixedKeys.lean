import ControlPlaneMetrics.Proofs.FlushLoop
import ControlPlaneMetrics.Proofs.Moments

/-!
Keys in two forms. A plain row of two texts is equal to the typed pair of them, and of equal keys
the form that came first stays in the store. A flush ends at the first plain row, so a pair that was
first written as one holds back all that came after it, until the store is replaced.
-/
namespace ControlPlaneMetrics

open Metrics

namespace Metrics

namespace Key

/-- The labels that a key is made of, if it is a pair of texts in either form. -/
def pair? (key : Key) : Option Labels :=
  match key.parts with
  | [.text clusterId, .text instanceType] => some ⟨clusterId, instanceType⟩
  | _ => none

variable {a b key : Key} {labels : Labels}

theorem pair?_eq_some_iff : key.pair? = some labels ↔ key.parts = labels.key.parts := by
  obtain ⟨clusterId, instanceType⟩ := labels
  unfold pair?
  split
  · next shape => simp [shape, Labels.key]
  · next other =>
    constructor
    · intro found
      cases found
    · intro shape
      exact absurd shape (other clusterId instanceType)

theorem pair?_key (labels : Labels) : labels.key.pair? = some labels :=
  pair?_eq_some_iff.mpr rfl

/-- Equal to a pair of texts are the two forms of that pair. -/
theorem same_iff_pair? (own : b.pair? = some labels) : a.same b = true ↔ a.pair? = some labels := by
  have form : a.same b = a.same labels.key := by rw [same, same, pair?_eq_some_iff.mp own]
  rw [form, Labels.key, same_typed_iff, pair?_eq_some_iff]
  constructor
  · rintro ⟨x, y, shape, first, second⟩
    rw [shape, (Value.same_text_iff ..).mp first, (Value.same_text_iff ..).mp second]
    rfl
  · intro shape
    exact ⟨_, _, shape, (Value.same_text_iff ..).mpr rfl, (Value.same_text_iff ..).mpr rfl⟩

theorem eq_of_typed (typed : key.Typed) (own : key.pair? = some labels) : key = labels.key := by
  have shape := pair?_eq_some_iff.mp own
  cases key with
  | plain parts => exact typed.elim
  | typed clusterId instanceType =>
    simp only [parts, Labels.key, List.cons.injEq, and_true] at shape
    rw [shape.1, shape.2, Labels.key]

end Key

/-- The first of the writes to a pair, in whatever form. -/
def firstTo? (labels : Labels) (writes : List Write) : Option Write :=
  writes.find? fun w => w.1.pair? = some labels

/-- The last of the writes to a pair, in whatever form. -/
def lastTo? (labels : Labels) (writes : List Write) : Option Write :=
  firstTo? labels writes.reverse

variable {writes known : List Write} {w : Write} {labels : Labels}

theorem firstTo?_append (first second : List Write) : firstTo? labels (first ++ second) =
    (firstTo? labels first).or (firstTo? labels second) :=
  List.find?_append

theorem firstTo?_one (w : Write) :
    firstTo? labels [w] = if w.1.pair? = some labels then some w else none := by
  by_cases own : w.1.pair? = some labels <;> simp [firstTo?, own]

theorem lastTo?_append_one (writes : List Write) (w : Write) : lastTo? labels (writes ++ [w]) =
    if w.1.pair? = some labels then some w else lastTo? labels writes := by
  rw [lastTo?, List.reverse_append, List.reverse_singleton, firstTo?_append, firstTo?_one,
    ← lastTo?]
  split <;> rfl

theorem firstTo?_eq_none (unwritten : some labels ∉ writes.map (·.1.pair?)) :
    firstTo? labels writes = none := by
  rw [firstTo?, List.find?_eq_none]
  intro w member own
  exact unwritten (List.mem_map.mpr ⟨w, member, by simpa using own⟩)

namespace Store

variable {s before after : Store} {e : Entry}

/-! ## What the writes leave -/

/-- The store has an entry for each pair that was written, in the order of their first writes, under
the key of the first write to the pair and with the state of the last. -/
structure Recorded (writes : List Write) (s : Store) : Prop where
  distinct : Distinct s
  pairs : s.map (·.key.pair?) = (writes.map (·.1.pair?)).eraseDups
  written : ∀ e ∈ s, ∃ labels first last, e.key.pair? = some labels ∧
    firstTo? labels writes = some first ∧ lastTo? labels writes = some last ∧
    e.key = first.1 ∧ e.enabled = last.2

theorem Recorded.nil : Recorded [] [] where
  distinct := .nil
  pairs := rfl
  written _ member := by cases member

/-- A write to a pair that is there changes its state, and no key. -/
theorem Recorded.overwrite (recorded : Recorded writes (before ++ e :: after))
    (own : w.1.pair? = some labels) (hit : e.key.pair? = some labels) :
    Recorded (writes ++ [w]) (before ++ { e with enabled := w.2 } :: after) := by
  have present : some labels ∈ writes.map (·.1.pair?) := by
    rw [← List.mem_eraseDups, ← recorded.pairs, ← hit]
    exact List.mem_map_of_mem (by simp)
  have apart : ∀ d ∈ before ++ after, d.key.pair? ≠ some labels := by
    intro d member clash
    have distinct := recorded.distinct
    simp only [Distinct, List.map_append, List.map_cons, List.pairwise_append, List.pairwise_cons,
      List.mem_map, List.mem_cons] at distinct
    obtain ⟨-, ⟨later, -⟩, earlier⟩ := distinct
    have same : d.key.same e.key = true := (Key.same_iff_pair? hit).mpr clash
    have same' : e.key.same d.key = true := (Key.same_iff_pair? clash).mpr hit
    rcases List.mem_append.mp member with old | new
    · rw [earlier d.key ⟨d, old, rfl⟩ e.key (.inl rfl)] at same
      cases same
    · rw [later d.key ⟨d, new, rfl⟩] at same'
      cases same'
  refine ⟨?_, ?_, fun d member => ?_⟩
  · simpa [Distinct] using recorded.distinct
  · have known : List.removeAll [some labels] (writes.map (·.1.pair?)) = [] := by
      simpa [List.removeAll] using present
    have same : (before ++ { e with enabled := w.2 } :: after).map (·.key.pair?) =
        (before ++ e :: after).map (·.key.pair?) := by simp
    rw [same, recorded.pairs, List.map_append, List.eraseDups_append]
    simp only [List.map_cons, List.map_nil, own, known, List.eraseDups_nil, List.append_nil]
  · rcases List.mem_cons.mp (List.perm_middle.mem_iff.mp member) with rfl | other
    · obtain ⟨labels', first, _, pair, begun, -, form, -⟩ := recorded.written e (by simp)
      obtain rfl : labels' = labels := Option.some.inj (pair.symm.trans hit)
      refine ⟨labels', first, w, pair, ?_, ?_, form, rfl⟩
      · rw [firstTo?_append, begun]
        rfl
      · rw [lastTo?_append_one, if_pos own]
    · have old : d ∈ before ++ e :: after :=
        List.perm_middle.mem_iff.mpr (List.mem_cons_of_mem e other)
      obtain ⟨labels', first, last, pair, begun, ended, form, state⟩ := recorded.written d old
      have missed : ¬w.1.pair? = some labels' := fun same =>
        apart d other (pair.trans (same.symm.trans own))
      refine ⟨labels', first, last, pair, ?_, ?_, form, state⟩
      · rw [firstTo?_append, begun]
        rfl
      · rw [lastTo?_append_one, if_neg missed, ended]

/-- The first write to a pair puts its key at the end, in the form in which it comes. -/
theorem Recorded.append (recorded : Recorded writes s) (own : w.1.pair? = some labels)
    (absent : ∀ e ∈ s, e.key.pair? ≠ some labels) :
    Recorded (writes ++ [w]) (s ++ [⟨w.1, w.2⟩]) := by
  have unwritten : some labels ∉ writes.map (·.1.pair?) := by
    rw [← List.mem_eraseDups, ← recorded.pairs]
    intro present
    obtain ⟨e, member, same⟩ := List.mem_map.mp present
    exact absent e member same
  refine ⟨?_, ?_, fun d member => ?_⟩
  · rw [Distinct, List.map_append, List.pairwise_append]
    refine ⟨recorded.distinct, by simp, fun k old k' new => ?_⟩
    obtain ⟨e, member, rfl⟩ := List.mem_map.mp old
    obtain rfl : k' = w.1 := by simpa using new
    rw [Bool.eq_false_iff, ne_eq, Key.same_iff_pair? own]
    exact absent e member
  · have new : List.removeAll [some labels] (writes.map (·.1.pair?)) = [some labels] := by
      simpa [List.removeAll] using unwritten
    rw [List.map_append, List.map_append, recorded.pairs, List.eraseDups_append]
    simp only [List.map_cons, List.map_nil, own, new]
    rfl
  · rcases List.mem_append.mp member with old | here
    · obtain ⟨labels', first, last, pair, begun, ended, form, state⟩ := recorded.written d old
      have missed : ¬w.1.pair? = some labels' := fun same =>
        absent d old (pair.trans (same.symm.trans own))
      refine ⟨labels', first, last, pair, ?_, ?_, form, state⟩
      · rw [firstTo?_append, begun]
        rfl
      · rw [lastTo?_append_one, if_neg missed, ended]
    · obtain rfl := List.mem_singleton.mp here
      refine ⟨labels, w, w, own, ?_, ?_, rfl, rfl⟩
      · rw [firstTo?_append, firstTo?_eq_none unwritten, firstTo?_one, if_pos own]
        rfl
      · rw [lastTo?_append_one, if_pos own]

theorem Recorded.put (recorded : Recorded writes s) (own : w.1.pair? = some labels) :
    Recorded (writes ++ [w]) (Store.put w.1 w.2 s) := by
  rcases put_written w.1 w.2 s with ⟨before, e, after, rfl, -, same, result⟩ | ⟨apart, result⟩
  · rw [result]
    exact recorded.overwrite own ((Key.same_iff_pair? own).mp same)
  · rw [result]
    refine recorded.append own fun e member clash => ?_
    have missed := apart e member
    rw [(Key.same_iff_pair? own).mpr clash] at missed
    cases missed

theorem Recorded.putAll (recorded : Recorded known s)
    (paired : ∀ w ∈ writes, ∃ labels, w.1.pair? = some labels) :
    Recorded (known ++ writes) (Store.putAll writes s) := by
  induction writes generalizing known s with
  | nil => simpa using recorded
  | cons w rest ih =>
    obtain ⟨⟨labels, own⟩, others⟩ := List.forall_mem_cons.mp paired
    have next := ih (recorded.put own) others
    rwa [List.append_assoc, List.singleton_append] at next

/-- Where every key is typed, they are keys of series. -/
theorem Recorded.keyed (recorded : Recorded writes (before ++ after)) (typed : before.Typed) :
    Keyed Labels.key before := by
  intro e member
  obtain ⟨labels, _, _, own, -⟩ := recorded.written e (List.mem_append_left _ member)
  exact ⟨labels, Key.eq_of_typed (typed e member) own⟩

/-! ## What a flush reaches -/

theorem mem_series_iff (keyed : Keyed Labels.key s) (labels : Labels) :
    labels ∈ s.series.map (·.1) ↔ some labels ∈ s.map (·.key.pair?) := by
  induction s with
  | nil => simp [series]
  | cons e rest ih =>
    obtain ⟨⟨own, same⟩, others⟩ := List.forall_mem_cons.mp keyed
    have here : series (e :: rest) = (own, Gauge.level e.enabled) :: series rest := by
      simp [series, same, Labels.key, Value.display]
    rw [here, List.map_cons, List.map_cons, List.mem_cons, List.mem_cons, ih others, same,
      Key.pair?_key, Option.some.injEq]

/-- A plain row keeps all entries after it from being flushed. -/
theorem series_of_broken (after : Store) (typed : before.Typed) (plain : ¬e.key.Typed) :
    series (before ++ e :: after) = series before := by
  induction before with
  | nil =>
    cases shape : e.key with
    | typed clusterId instanceType => simp [shape, Key.Typed] at plain
    | plain parts => simp [series, shape]
  | cons d rest ih =>
    obtain ⟨here, others⟩ := List.forall_mem_cons.mp typed
    cases shape : d.key with
    | plain parts => simp [shape, Key.Typed] at here
    | typed clusterId instanceType => simp [series, shape, ih others]

/-- However the store has grown since, and whatever states it has now, a flush reaches the series
that come before the plain row, and no others. -/
theorem series_of_grown {s : Store} (typed : before.Typed) (plain : ¬e.key.Typed)
    (grown : (before ++ e :: after).map (·.key) <+: s.map (·.key)) :
    s.series.map (·.1) = before.series.map (·.1) := by
  obtain ⟨more, keys⟩ := grown
  rw [List.map_append, List.append_assoc] at keys
  obtain ⟨first, rest, rfl, same, there⟩ := List.map_eq_append_iff.mp keys.symm
  rw [List.map_cons, List.cons_append] at there
  obtain ⟨d, rest, rfl, here, -⟩ := List.map_eq_cons_iff.mp there
  have typed' : Typed first := by
    intro f member
    have old : f.key ∈ before.map (·.key) := same ▸ List.mem_map_of_mem member
    obtain ⟨d, member, form⟩ := List.mem_map.mp old
    exact form ▸ typed d member
  have plain' : ¬d.key.Typed := here ▸ plain
  have reached : (series first).map (·.1) <+: (series before).map (·.1) :=
    series_prefix (same ▸ List.prefix_refl _)
  have back : (series before).map (·.1) <+: (series first).map (·.1) :=
    series_prefix (same ▸ List.prefix_refl _)
  rw [series_of_broken rest typed' plain']
  exact reached.eq_of_length_le back.length_le

end Store

end Metrics

namespace Session

variable {before after : Store} {e : Entry}

/-! ## Flushes of keys in both forms -/

/-- The flush fails exactly if a plain row is stored. -/
theorem aggregate_fails_iff (s : Session) : (∃ failure, (s.step .aggregate).1 = .error failure) ↔
    ∃ e ∈ s.exporter.metrics.store, ¬e.key.Typed := by
  rcases s.exporter.metrics.store.typed_or_broken with
    typed | ⟨before, e, after, split, typed, plain⟩
  · have published := s.exporter.metrics.gauge.publish_of_typed typed
    have done : (s.step .aggregate).1 = .ok .done := by
      simp [step, Exporter.flush, flush, published]
    rw [done]
    apply iff_of_false
    · rintro ⟨failure, ⟨⟩⟩
    · rintro ⟨e, member, plain⟩
      exact plain (typed e member)
  · obtain ⟨misuse, published⟩ := s.exporter.metrics.gauge.publish_of_broken after typed plain
    rw [← split] at published
    have failed : (s.step .aggregate).1 = .error (.misuse misuse) := by
      simp [step, Exporter.flush, flush, published]
    exact iff_of_true ⟨_, failed⟩ ⟨e, by simp [split], plain⟩

/-- The entries that a flush publishes give their series their states. -/
theorem Publishes.shown {s next : Session} {entries : Store} (publishes : s.Publishes entries next)
    (keyed : Store.Keyed Labels.key entries) (distinct : Store.Distinct entries) (labels : Labels) :
    next.shown labels =
      ((entries.state? labels.key).map Gauge.level).or (s.shown labels) := by
  have looked := Gauge.lookup?_publish s.exporter.metrics.gauge keyed distinct labels
  rw [Gauge.publish_eq, ← publishes.gauge] at looked
  exact looked

theorem publishes_before (s : Session) (split : s.exporter.metrics.store = before ++ e :: after)
    (typed : before.Typed) (plain : ¬e.key.Typed) : s.Publishes before (s.step .aggregate).2 := by
  obtain ⟨misuse, published⟩ := s.exporter.metrics.gauge.publish_of_broken after typed plain
  exact s.aggregate_publishes (by rw [split, published])

/-- No step but a new store takes a key away. -/
theorem keys_prefix_step (s : Session) {step : Step} (single : step.Single)
    (kept : step ≠ .newStore) : s.exporter.metrics.store.map (·.key) <+:
      (s.step step).2.exporter.metrics.store.map (·.key) := by
  have grows (writes : List Write) (s : Store) :
      s.map (·.key) <+: (Store.putAll writes s).map (·.key) := by
    induction writes generalizing s with
    | nil => exact List.prefix_refl _
    | cons w rest ih => exact (Store.keys_prefix_put w.1 w.2 s).trans (ih _)
  rw [(s.step_eq step single).2.2.2]
  cases step with
  | newStore => exact absurd rfl kept
  | set key enabled =>
    rw [Step.metricsAfter]
    split
    · exact List.prefix_refl _
    · exact Store.keys_prefix_put ..
  | aggregate => exact List.prefix_refl _
  | _ => exact grows _ _

/-- What a plain row holds back is not published, whatever is done, until the store is replaced. -/
theorem Passes.shown_of_held_back {s t : Session} {moments : List Moment}
    (passes : Passes s moments t) (typed : before.Typed) (plain : ¬e.key.Typed)
    (grown : (before ++ e :: after).map (·.key) <+: s.exporter.metrics.store.map (·.key))
    {labels : Labels} (behind : labels ∉ before.series.map (·.1))
    (keeping : ∀ m ∈ moments, m.replaces = false) : t.shown labels = s.shown labels := by
  induction passes with
  | here => rfl
  | @aside s next t moments beside _ ih =>
    have same : next.shown labels = s.shown labels := by rw [shown, beside.metrics, shown]
    rw [← beside.metrics] at grown
    rw [ih grown keeping, same]
  | @step s t st moments elementary _ ih =>
    obtain ⟨kept, others⟩ := List.forall_mem_cons.mp keeping
    rcases Moment.single_or_refused ⟨s, st⟩ elementary kept with ⟨single, own⟩ | refused
    · have same : (s.step st).2.shown labels = s.shown labels := by
        by_cases flushes : st = .aggregate
        · have reached := Store.series_of_grown typed plain grown
          rw [flushes, shown, aggregate_gauge, Gauge.publish_eq, lookup?_writeAll_of_unwritten,
            shown]
          rwa [reached]
        · rw [shown, s.step_gauge st single flushes, shown]
      rw [ih (grown.trans (s.keys_prefix_step single own)) others, same]
    · rw [refused] at ih
      exact ih grown others

/-- Whatever steps they come with, if the writes that the store has received are to pairs of texts
in either form: it has one entry for each pair, in the order of their first writes, in the form of
the first write, and with the state of the last. A flush fails exactly if one of them is a plain row.
Then it has published the entries before the first such, given no other series a value, and left the
store as it was; and no pair but those is published by any later step until the store is replaced. A
flush that does not fail has published all. -/
theorem first_form_decides_flush (s : Session) (empty : s.exporter.metrics.store = [])
    (steps : List Step)
    (paired : ∀ w ∈ presentWrites (s.moments steps), ∃ labels, w.1.pair? = some labels) :
    let left := s.runSteps steps
    let store := left.exporter.metrics.store
    let writes := presentWrites (s.moments steps)
    let flushed := (left.step .aggregate).2
    store.map (·.key.pair?) = (writes.map (·.1.pair?)).eraseDups ∧
    (∀ e ∈ store, ∃ labels first last, e.key.pair? = some labels ∧
      firstTo? labels writes = some first ∧ lastTo? labels writes = some last ∧
      e.key = first.1 ∧ e.enabled = last.2) ∧
    ((∃ failure, (left.step .aggregate).1 = .error failure) ↔ ∃ e ∈ store, ¬e.key.Typed) ∧
    (store.Typed → left.Publishes store flushed ∧ ∀ labels, flushed.shown labels =
      ((store.state? labels.key).map Gauge.level).or (left.shown labels)) ∧
    ∀ before e after, store = before ++ e :: after → before.Typed → ¬e.key.Typed →
      left.Publishes before flushed ∧
      (∀ labels, flushed.shown labels =
        ((before.state? labels.key).map Gauge.level).or (left.shown labels)) ∧
      ∀ later, (∀ m ∈ left.moments later, m.replaces = false) → ∀ labels,
        some labels ∉ before.map (·.key.pair?) →
        (left.runSteps later).shown labels = left.shown labels := by
  intro left store writes flushed
  have received : store = Store.putAll writes [] := (s.passes_runSteps steps).store empty
  have recorded : Store.Recorded writes store := received ▸ Store.Recorded.nil.putAll paired
  refine ⟨recorded.pairs, recorded.written, left.aggregate_fails_iff, fun typed => ?_,
    fun before e after split typed plain => ?_⟩
  · have published := left.exporter.metrics.gauge.publish_of_typed typed
    have publishes : left.Publishes store flushed := left.aggregate_publishes (by rw [published])
    have whole : Store.Recorded writes (store ++ []) := by rwa [List.append_nil]
    have keyed : Store.Keyed Labels.key store := whole.keyed typed
    exact ⟨publishes, publishes.shown keyed recorded.distinct⟩
  · rw [split] at recorded
    have keyed := recorded.keyed typed
    have distinct : Store.Distinct before := by
      have whole := recorded.distinct
      rw [Store.Distinct, List.map_append, List.pairwise_append] at whole
      exact whole.1
    have publishes : left.Publishes before flushed := left.publishes_before split typed plain
    refine ⟨publishes, publishes.shown keyed distinct, fun later keeping labels behind => ?_⟩
    have start : (before ++ e :: after).map (·.key) <+: left.exporter.metrics.store.map (·.key) :=
      split ▸ List.prefix_refl _
    exact (left.passes_runSteps later).shown_of_held_back typed plain start
      (fun member => behind ((Store.mem_series_iff keyed labels).mp member)) keeping

/-- The plain row of the same two texts as the key of a series. -/
def row (labels : Labels) : Key := .plain [.text labels.clusterId, .text labels.instanceType]

/-- Of three pairs the second is first written as a plain row, and then as a typed pair. -/
def rowInBetween (first second third : Labels) : List Step :=
  [.set first.key (.int 1), .set (row second) (.int 1), .set third.key (.int 1),
    .set second.key (.int 0), .set (row first) (.int 0)]

/-- The row stays a row, and the third pair is not published until it is written to a new store. -/
theorem row_holds_third_pair_back :
    let labels (size : String) : Labels := ⟨Text.ofString "east", Text.ofString size⟩
    let steps := rowInBetween (labels "large") (labels "xlarge") (labels "small")
    let left := east.runSteps steps
    let later : List Step := [.aggregate, .loop [[.set (labels "small").key (.int 1)], []]]
    (∀ w ∈ presentWrites (east.moments steps), ∃ labels, w.1.pair? = some labels) ∧
    left.exporter.metrics.store =
      [⟨(labels "large").key, .int 0⟩, ⟨row (labels "xlarge"), .int 0⟩,
        ⟨(labels "small").key, .int 1⟩] ∧
    (∃ failure, (left.step .aggregate).1 = .error failure) ∧
    (left.step .aggregate).2.shown (labels "large") = some .zero ∧
    (left.runSteps later).shown (labels "small") = none ∧
    (left.runSteps [.newStore, .set (labels "small").key (.int 1), .aggregate]).shown
      (labels "small") = some .one := by
  intro labels steps left later
  have ofRow (labels : Labels) : (row labels).pair? = some labels := Key.pair?_eq_some_iff.mpr rfl
  have writes : presentWrites (east.moments steps) = [((labels "large").key, .int 1),
      (row (labels "xlarge"), .int 1), ((labels "small").key, .int 1),
      ((labels "xlarge").key, .int 0), (row (labels "large"), .int 0)] := rfl
  have paired : ∀ w ∈ presentWrites (east.moments steps), ∃ labels, w.1.pair? = some labels := by
    rw [writes]
    simp only [List.forall_mem_cons]
    exact ⟨⟨_, Key.pair?_key _⟩, ⟨_, ofRow _⟩, ⟨_, Key.pair?_key _⟩, ⟨_, Key.pair?_key _⟩,
      ⟨_, ofRow _⟩, by simp⟩
  have kept : (left.moments later).all (fun m => !m.replaces) = true := rfl
  have keeping : ∀ m ∈ left.moments later, m.replaces = false := by simpa using kept
  have store : left.exporter.metrics.store = [⟨(labels "large").key, .int 0⟩] ++
      ⟨row (labels "xlarge"), .int 0⟩ :: [⟨(labels "small").key, .int 1⟩] := rfl
  obtain ⟨-, -, fails, -, broken⟩ :=
    east.first_form_decides_flush rfl steps paired
  have typed : Store.Typed [⟨(labels "large").key, .int 0⟩] := by
    simp [Store.Typed, Key.Typed, Labels.key]
  have plain : ¬(row (labels "xlarge")).Typed := id
  obtain ⟨-, flushed, held⟩ := broken _ _ _ store typed plain
  refine ⟨paired, store, fails.mpr ⟨⟨row (labels "xlarge"), .int 0⟩, ?_, plain⟩, ?_, ?_, ?_⟩
  · exact store ▸ List.mem_append_right _ (.head _)
  · rw [flushed]
    rfl
  · exact (held later keeping (labels "small") (by decide)).trans rfl
  · rfl

end Session

end ControlPlaneMetrics
