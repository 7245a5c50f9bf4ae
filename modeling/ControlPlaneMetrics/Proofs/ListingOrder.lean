import ControlPlaneMetrics.Proofs.FailureContainment
import ControlPlaneMetrics.Proofs.Reordering

/-!
The order in which a listing names its objects does not matter, as long as objects that are
reconciled under one key agree on its state. Objects may fail, be named twice, and share keys. And a
listing that names no more than the one before it changes nothing in the store.
-/
namespace ControlPlaneMetrics

open Metrics

variable {target : Target} {api : Api} {items items' names : List Value} {e : Exporter}

namespace Target

/-- The writes of reconciling the objects of these names, in their order. -/
def writes (target : Target) (api : Api) (names : List Value) : List Write :=
  names.filterMap fun name => target.settle? (api.get target.ns name)

/-- Objects of these names that are reconciled under one key have one state. -/
def Agree (target : Target) (api : Api) (names : List Value) : Prop :=
  ∀ x ∈ names, ∀ y ∈ names, ∀ v w, target.settle? (api.get target.ns x) = some v →
    target.settle? (api.get target.ns y) = some w → v.1.same w.1 = true → v.2 = w.2

theorem Agree.writes (agree : target.Agree api names) : Store.Agree (target.writes api names) := by
  intro v first w second
  obtain ⟨x, named, settled⟩ := List.mem_filterMap.mp first
  obtain ⟨y, named', settled'⟩ := List.mem_filterMap.mp second
  exact agree x named y named' v w settled settled'

theorem writes_key {w : Write} (member : w ∈ target.writes api names) :
    ∃ size : Text, w.1 = .typed target.clusterId (.text size) := by
  obtain ⟨name, _, settled⟩ := List.mem_filterMap.mp member
  exact settle?_key (List.mem_filterMap.mpr ⟨_, List.mem_singleton_self _, settled⟩)

/-- A request that is answered with a request to exit is not kept back. -/
theorem exit?_of_not_ordinary {name : Value} (exits : ¬api.Ordinary target.ns name) :
    ∃ failure, target.exit? (api.get target.ns name) = some failure := by
  unfold Api.Ordinary at exits
  push Not at exits
  obtain ⟨failure, answered, exits⟩ := exits
  have present : failure.isAbsent = false := by
    cases failure with
    | api => exact absurd rfl exits
    | _ => rfl
  refine ⟨failure, ?_⟩
  rw [exit?, answered, refusal?, present, if_neg Bool.false_ne_true]
  simpa [Option.filter] using exits

end Target

namespace Exporter

/-! ## Listings in another order -/

/-- The API's next listing has these items, and this version unless it cannot be read. -/
def Answers (target : Target) (api : Api) (items : List Value) (version : Except Misuse Value) :
    Prop :=
  ∃ listing, (api.list target.ns).1 = .ok listing ∧ itemsOf listing = .ok items ∧
    versionOf listing = version

/-- The names of items in another order are the names in that order. -/
theorem names_perm (named : items.map itemName = names.map .ok) (perm : items'.Perm items) :
    ∃ names' : List Value, items'.map itemName = names'.map .ok ∧ names'.Perm names := by
  have all : ∀ item ∈ items', ∃ name, itemName item = .ok name := by
    intro item member
    have there : itemName item ∈ items.map itemName :=
      List.mem_map_of_mem (perm.mem_iff.mp member)
    rw [named] at there
    obtain ⟨name, -, same⟩ := List.mem_map.mp there
    exact ⟨name, same.symm⟩
  have own (l : List Value) (each : ∀ item ∈ l, ∃ name, itemName item = .ok name) :
      l.map itemName = (l.filterMap fun item => (itemName item).toOption).map .ok := by
    induction l with
    | nil => rfl
    | cons item rest ih =>
      obtain ⟨⟨name, this⟩, others⟩ := List.forall_mem_cons.mp each
      simp only [List.map_cons, List.filterMap_cons, this, Except.toOption, ih others]
  refine ⟨_, own items' all, ?_⟩
  have first : (items.filterMap fun item => (itemName item).toOption) = names := by
    have mapped := congrArg (List.filterMap Except.toOption) named
    rw [List.filterMap_map, List.filterMap_map] at mapped
    simpa [Function.comp_def, Except.toOption] using mapped
  exact first ▸ perm.filterMap _

/-- A listing among whose objects is one that asks to exit ends with that. -/
theorem reconcileItems_of_not_ordinary (named : items.map itemName = names.map .ok) {name : Value}
    (member : name ∈ names) (exits : ¬e.api.Ordinary target.ns name) :
    ∃ failure, (reconcileItems target items e).1 = .error failure ∧ failure.isExit = true := by
  induction names generalizing items e with
  | nil => cases member
  | cons first names ih =>
    cases items with
    | nil => cases named
    | cons item items =>
      obtain ⟨this, rest⟩ := List.cons.inj named
      obtain ⟨lines, attempted⟩ := e.attempt_eq target first
      cases exit : target.exit? (e.api.get target.ns first) with
      | some failure =>
        obtain ⟨-, asks⟩ := Option.filter_eq_some_iff.mp exit
        exact ⟨failure, by simp [reconcileItems, this, attempted, exit], asks⟩
      | none =>
        have later : name ∈ names := by
          rcases List.mem_cons.mp member with rfl | later
          · obtain ⟨failure, found⟩ := Target.exit?_of_not_ordinary exits
            rw [exit] at found
            cases found
          · exact later
        obtain ⟨failure, ended, asks⟩ := ih
          (e := e.asked target [.get target.ns first target.requestTimeout] lines) rest later exits
        exact ⟨failure, by simpa [reconcileItems, this, attempted, exit] using ended, asks⟩

/-- What a listing comes to, whatever its order, if none of its objects asks to exit. -/
theorem sync_of_answers {version : Except Misuse Value}
    (answers : Answers target e.api items version) (named : items.map itemName = names.map .ok)
    (ordinary : ∀ name ∈ names, e.api.Ordinary target.ns name) :
    (e.sync target).1 = (version.map fun _ => names.length).mapError .misuse ∧
    (e.sync target).2.version = version.toOption.getD e.version ∧
    (e.sync target).2.metrics.store =
      Store.putAll (target.writes e.api names) e.metrics.store := by
  obtain ⟨listing, answered, itemized, dated⟩ := answers
  let begun : Exporter :=
    { e.call (.list target.ns target.requestTimeout) with api := (e.api.list target.ns).2 }
  have same : ∀ name, begun.api.get target.ns name = e.api.get target.ns name :=
    Api.list_get e.api target.ns target.ns
  obtain ⟨lines, result, -⟩ := reconcileItems_of_ordinary (e := begun) named
    fun name member failure failed => ordinary name member failure (same name ▸ failed)
  have count : items.length = names.length := by simpa using congrArg List.length named
  have written : target.settled begun.api (names.map target.request) =
      target.writes e.api names := by
    simp only [Target.settled_requests, Target.writes, same]
  have store : (begun.asked target (names.map target.request) lines).metrics.store =
      Store.putAll (target.writes e.api names) e.metrics.store := by
    rw [← written]
    rfl
  simp only [begun, call] at result store
  cases readable : version with
  | error misuse =>
    rw [readable] at dated
    simp only [sync, call, answered, itemized, dated, result]
    exact ⟨rfl, rfl, store⟩
  | ok since =>
    rw [readable] at dated
    simp only [sync, call, answered, itemized, dated, result, count]
    exact ⟨rfl, rfl, store⟩

theorem sync_of_not_ordinary {version : Except Misuse Value}
    (answers : Answers target e.api items version) (named : items.map itemName = names.map .ok)
    {name : Value} (member : name ∈ names) (exits : ¬e.api.Ordinary target.ns name) :
    ∃ failure, (e.sync target).1 = .error failure ∧ failure.isExit = true := by
  obtain ⟨listing, answered, itemized, -⟩ := answers
  let begun : Exporter :=
    { e.call (.list target.ns target.requestTimeout) with api := (e.api.list target.ns).2 }
  have same : begun.api.get target.ns name = e.api.get target.ns name :=
    Api.list_get e.api target.ns target.ns name
  have exits' : ¬begun.api.Ordinary target.ns name := fun ordinary =>
    exits fun failure failed => ordinary failure (same.trans failed)
  obtain ⟨failure, ended, asks⟩ := reconcileItems_of_not_ordinary (e := begun) named member exits'
  refine ⟨failure, ?_, asks⟩
  simp only [begun, call] at ended
  simp only [sync, call, answered, itemized]
  rcases reconciled : reconcileItems target items _ with ⟨outcome, after⟩
  rw [reconciled] at ended
  obtain rfl : outcome = .error failure := ended
  rfl

/-! ## Listings once more -/

/-- Writes that have been made, and agree, change nothing when they are made again. -/
theorem putAll_writes_again (reflexive : target.clusterId.same target.clusterId = true)
    (agree : target.Agree api names) {again : List Value} (known : ∀ name ∈ again, name ∈ names)
    (s : Store) :
    Store.putAll (target.writes api again) (Store.putAll (target.writes api names) s) =
      Store.putAll (target.writes api names) s := by
  refine Store.putAll_of_state? fun w member => ?_
  have faithful := Key.faithful_typed target.clusterId reflexive
  obtain ⟨size, own⟩ := Target.writes_key member
  have there : w ∈ target.writes api names := by
    obtain ⟨name, listed, settled⟩ := List.mem_filterMap.mp member
    exact List.mem_filterMap.mpr ⟨name, known name listed, settled⟩
  have hit : w.1.same w.1 = true := by
    rw [own]
    exact faithful.refl size
  have last : lastWrite? w.1 (target.writes api names) = some w.2 :=
    lastWrite?_eq_some there hit fun v other same => agree.writes v other w there same
  have stored := Store.state?_putAll faithful (target.writes api names) s
    (fun _ written => Target.writes_key written) size
  rw [← own, last] at stored
  exact stored

/-- A listing of names that have been asked for already changes nothing in the store. -/
theorem sync_again (reflexive : target.clusterId.same target.clusterId = true)
    (agree : target.Agree api names) {again : Exporter} {s : Store}
    (kept : again.metrics.store = Store.putAll (target.writes api names) s)
    (objects : ∀ name, again.api.get target.ns name = api.get target.ns name)
    (listed : ∀ name ∈ synced target again.api, name ∈ names) :
    (again.sync target).2.metrics.store = again.metrics.store := by
  obtain ⟨_, _, _, result, -⟩ := again.sync_eq target
  have asked : (again.sync target).2.metrics.store =
      Store.putAll (target.writes again.api (synced target again.api)) again.metrics.store := by
    rw [result, Target.writes, ← Target.settled_requests]
    rfl
  have written : target.writes again.api (synced target again.api) =
      target.writes api (synced target again.api) := by
    simp only [Target.writes, objects]
  rw [asked, written, kept]
  exact putAll_writes_again reflexive agree listed s

/-- For every listing and every permutation of its items, whatever comes of the objects, as long as
those that are reconciled under one key have one state: from the same state before, both are
completed with the same count, or neither is; the same version is known afterwards; and unless an
object asks to exit, both end alike, with stores that map every key to the same state and differ at
most in the order of their entries. A listing after that which asks for no other names leaves the
store as it is. -/
theorem listing_order_does_not_show
    (reflexive : target.clusterId.same target.clusterId = true) {other : Exporter}
    {version : Except Misuse Value} (answers : Answers target e.api items version)
    (answers' : Answers target other.api items' version)
    (named : items.map itemName = names.map .ok) (perm : items'.Perm items)
    (objects : ∀ name, other.api.get target.ns name = e.api.get target.ns name)
    (stored : other.metrics.store = e.metrics.store) (known : other.version = e.version)
    (agree : target.Agree e.api names) :
    (∀ count, (other.sync target).1 = .ok count ↔ (e.sync target).1 = .ok count) ∧
    (other.sync target).2.version = (e.sync target).2.version ∧
    ((∀ failure, (e.sync target).1 = .error failure → failure.isExit = false) →
      (other.sync target).1 = (e.sync target).1 ∧
      (∀ key, (other.sync target).2.metrics.store.state? key =
        (e.sync target).2.metrics.store.state? key) ∧
      (other.sync target).2.metrics.store.Perm (e.sync target).2.metrics.store ∧
      ∀ again : Exporter, again.metrics.store = (e.sync target).2.metrics.store →
        (∀ name, again.api.get target.ns name = e.api.get target.ns name) →
        (∀ name ∈ synced target again.api, name ∈ names) →
        (again.sync target).2.metrics.store = again.metrics.store) := by
  obtain ⟨names', named', reordered⟩ := names_perm named perm
  by_cases ordinary : ∀ name ∈ names, e.api.Ordinary target.ns name
  · have ordinary' : ∀ name ∈ names', other.api.Ordinary target.ns name :=
      fun name member failure failed =>
        ordinary name (reordered.mem_iff.mp member) failure (objects name ▸ failed)
    obtain ⟨outcome, since, store⟩ := sync_of_answers answers named ordinary
    obtain ⟨outcome', since', store'⟩ := sync_of_answers answers' named' ordinary'
    have faithful := Key.faithful_typed target.clusterId reflexive
    have written : (target.writes other.api names').Perm (target.writes e.api names) := by
      simp only [Target.writes, objects]
      exact reordered.filterMap _
    have own : ∀ w ∈ target.writes e.api names,
        ∃ size : Text, w.1 = .typed target.clusterId (.text size) :=
      fun _ member => Target.writes_key member
    have begun := Store.Grown.self (fun size : Text => Key.typed target.clusterId (.text size))
      e.metrics.store
    have apart := Store.putAll_perm faithful written.symm own agree.writes begun
    have grown := begun.putAll faithful own
    have same : (other.sync target).1 = (e.sync target).1 := by
      rw [outcome, outcome', reordered.length_eq]
    refine ⟨fun count => by rw [same], by rw [since, since', known], fun _ => ⟨same, ?_, ?_, ?_⟩⟩
    · intro key
      rw [store, store', stored]
      exact (Store.state?_of_reordered faithful grown apart key).symm
    · rw [store, store', stored]
      exact apart.perm.symm
    · intro again kept objects listed
      exact sync_again reflexive agree (kept.trans store) objects listed
  · -- a request to exit breaks off both listings, and neither learns its version
    push Not at ordinary
    obtain ⟨name, member, exits⟩ := ordinary
    have exits' : ¬other.api.Ordinary target.ns name := fun ordinary =>
      exits fun failure failed => ordinary failure ((objects name).trans failed)
    obtain ⟨failure, ended, asks⟩ := sync_of_not_ordinary answers named member exits
    obtain ⟨failure', ended', -⟩ :=
      sync_of_not_ordinary answers' named' (reordered.mem_iff.mpr member) exits'
    obtain ⟨_, _, since, result, -, unlearned, -⟩ := e.sync_eq target
    obtain ⟨_, _, since', result', -, unlearned', -⟩ := other.sync_eq target
    have same : since = e.version := unlearned failure (by rw [← ended, result])
    have same' : since' = other.version := unlearned' failure' (by rw [← ended', result'])
    refine ⟨fun count => ?_, ?_, fun contained => ?_⟩
    · rw [ended, ended']
      exact iff_of_false (by rintro ⟨⟩) (by rintro ⟨⟩)
    · rw [result, result']
      exact same'.trans (known.trans same.symm)
    · rw [contained failure ended] at asks
      cases asks

/-- An exporter whose API has two machine sets of one size, one of another, and a value that is
none. The next listing has these names. -/
def sharing (names : List String) : Exporter :=
  let machineSet (name state size : String) : (Text × Text) × Answer :=
    ((Text.ofString "machines", Text.ofString name),
      .ok (MachineSet.onAws (Text.ofString name) (Text.ofString state) (Text.ofString size)))
  Exporter.initial
    { objects :=
        [machineSet "first" "Active" "m5.large",
          machineSet "second" "Active" "m5.large",
          machineSet "third" "Inactive" "m5.xlarge",
          ((Text.ofString "machines", Text.ofString "broken"), .ok .null)]
      listings := [.ok (listingOf names)]
      cluster := none }

/-- The sizes are stored in one order or the other, with the same states, and a second listing
changes nothing. -/
theorem sharing_sync_stores_both_sizes :
    let e := sharing ["first", "broken", "third", "second", "first"]
    let other := sharing ["third", "first", "first", "second", "broken"]
    let again := { (e.sync Target.east).2 with api := other.api }
    let key (size : String) := Key.typed Target.east.clusterId (.text (Text.ofString size))
    (e.sync Target.east).1 = .ok 5 ∧ (other.sync Target.east).1 = .ok 5 ∧
    (e.sync Target.east).2.metrics.store.map (·.key) = [key "m5.large", key "m5.xlarge"] ∧
    (other.sync Target.east).2.metrics.store.map (·.key) = [key "m5.xlarge", key "m5.large"] ∧
    (other.sync Target.east).2.metrics.store.state? (key "m5.large") = some (.bool true) ∧
    (other.sync Target.east).2.metrics.store.state? (key "m5.xlarge") = some (.bool false) ∧
    (again.sync Target.east).2.metrics.store = again.metrics.store := by
  intro e other again key
  let order := ["first", "broken", "third", "second", "first"]
  let names : List Value := order.map fun name => .text (Text.ofString name)
  have reordered : ["third", "first", "first", "second", "broken"].Perm order := by decide
  have settles : ∀ x ∈ names, ∀ v, Target.east.settle? (e.api.get Target.east.ns x) = some v →
      v = (key "m5.large", .bool true) ∨ v = (key "m5.xlarge", .bool false) := by
    simp only [names, order, List.map_cons, List.map_nil, List.forall_mem_cons]
    refine ⟨?_, ?_, ?_, ?_, ?_, by simp⟩ <;> rintro v ⟨⟩
    · exact .inl rfl
    · exact .inr rfl
    · exact .inl rfl
    · exact .inl rfl
  have agree : Target.east.Agree e.api names := by
    intro x first y second v w settled settled' same
    rcases settles x first v settled with rfl | rfl <;>
      rcases settles y second w settled' with rfl | rfl
    · rfl
    · cases same
    · cases same
    · rfl
  have named (items : List Value) (listed : itemsOf (listingOf order) = .ok items) :
      items.map itemName = names.map .ok := by
    cases listed
    rfl
  have answers : Answers Target.east e.api _ (.ok (.text (Text.ofString "7"))) :=
    ⟨_, rfl, rfl, rfl⟩
  have answers' : Answers Target.east other.api _ (.ok (.text (Text.ofString "7"))) :=
    ⟨_, rfl, rfl, rfl⟩
  obtain ⟨-, -, ended⟩ := listing_order_does_not_show rfl answers answers' (named _ rfl)
    (reordered.map _) (fun _ => rfl) rfl rfl agree
  have completed : (e.sync Target.east).1 = .ok 5 := rfl
  obtain ⟨outcome, states, -, repeated⟩ := ended fun failure failed => by
    rw [completed] at failed
    cases failed
  refine ⟨completed, outcome.trans completed, rfl, rfl, ?_, ?_, ?_⟩
  · rw [states]
    rfl
  · rw [states]
    rfl
  · refine repeated again rfl (fun _ => rfl) fun name asked => ?_
    have visits : synced Target.east again.api =
        ["third", "first", "first", "second", "broken"].map fun name =>
          .text (Text.ofString name) := rfl
    rw [visits] at asked
    exact (reordered.map _).mem_iff.mp asked

end Exporter

end ControlPlaneMetrics
