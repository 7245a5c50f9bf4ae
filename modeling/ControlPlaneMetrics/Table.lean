/-!
Tables: lists of keys with what each stands for, in the order in which the keys were
first written. Writing a key that is there keeps its place.
-/
namespace ControlPlaneMetrics

variable {κ : Type _} {α : Type _} [DecidableEq κ]

/-- What is stored under a key. -/
def lookup? (key : κ) : List (κ × α) → Option α
  | [] => none
  | (k, a) :: rest => if k = key then some a else lookup? key rest

/-- The table with one entry written: in place if the key is there, else at the end. -/
def write (key : κ) (a : α) : List (κ × α) → List (κ × α)
  | [] => [(key, a)]
  | (k, b) :: rest => if k = key then (k, a) :: rest else (k, b) :: write key a rest

/-- The table without a key. -/
def erase (key : κ) : List (κ × α) → List (κ × α)
  | [] => []
  | (k, a) :: rest => if k = key then rest else (k, a) :: erase key rest

theorem lookup?_write (key other : κ) (a : α) (table : List (κ × α)) :
    lookup? other (write key a table) = if key = other then some a else lookup? other table := by
  induction table with
  | nil => simp [write, lookup?]
  | cons entry rest ih =>
    obtain ⟨k, b⟩ := entry
    by_cases h : k = key
    · subst h
      by_cases g : k = other <;> simp [write, lookup?, g]
    · by_cases g : k = other
      · subst g
        have : ¬key = k := fun e => h e.symm
        simp [write, lookup?, h, this]
      · simp [write, lookup?, h, g, ih]

/-- Writing adds a key at the end if it is new, and keeps all keys otherwise. -/
theorem map_fst_write (key : κ) (a : α) (table : List (κ × α)) :
    (write key a table).map (·.1) =
      if key ∈ table.map (·.1) then table.map (·.1) else table.map (·.1) ++ [key] := by
  induction table with
  | nil => simp [write]
  | cons entry rest ih =>
    obtain ⟨k, b⟩ := entry
    by_cases h : k = key
    · simp [write, h]
    · have : ¬key = k := fun e => h e.symm
      simp only [write, h, if_false, List.map_cons, ih, List.mem_cons, this, false_or]
      split <;> simp

theorem lookup?_isSome_iff (key : κ) (table : List (κ × α)) :
    (lookup? key table).isSome ↔ key ∈ table.map (·.1) := by
  induction table with
  | nil => simp [lookup?]
  | cons entry rest ih =>
    obtain ⟨k, b⟩ := entry
    by_cases h : k = key
    · simp [lookup?, h]
    · have : ¬key = k := fun e => h e.symm
      simpa [lookup?, h, this] using ih

theorem lookup?_append (key : κ) (first second : List (κ × α)) :
    lookup? key (first ++ second) = (lookup? key first).or (lookup? key second) := by
  induction first with
  | nil => rfl
  | cons entry rest ih =>
    obtain ⟨k, b⟩ := entry
    by_cases h : k = key <;> simp [lookup?, h, ih]

theorem mem_of_lookup? {key : κ} {a : α} {table : List (κ × α)} (found : lookup? key table = some a) :
    (key, a) ∈ table := by
  induction table with
  | nil => cases found
  | cons entry rest ih =>
    obtain ⟨k, b⟩ := entry
    rw [lookup?] at found
    split at found
    · next same =>
      cases found
      exact same ▸ List.mem_cons_self
    · exact List.mem_cons_of_mem _ (ih found)

theorem erase_sublist (key : κ) (table : List (κ × α)) : (erase key table).Sublist table := by
  induction table with
  | nil => exact List.Sublist.slnil
  | cons entry rest ih =>
    rw [erase]
    split
    · exact List.sublist_cons_self ..
    · exact ih.cons_cons _

theorem mem_write {key : κ} {a : α} {table : List (κ × α)} {entry : κ × α}
    (member : entry ∈ write key a table) : entry = (key, a) ∨ entry ∈ table := by
  induction table with
  | nil => simpa [write] using member
  | cons first rest ih =>
    obtain ⟨k, b⟩ := first
    by_cases h : k = key
    · simp only [write, h, if_true, List.mem_cons] at member
      rcases member with member | member
      · exact .inl member
      · exact .inr (by simp [member])
    · simp only [write, h, if_false, List.mem_cons] at member
      rcases member with member | member
      · exact .inr (by simp [member])
      · rcases ih member with new | old
        · exact .inl new
        · exact .inr (by simp [old])

/-- Of two writes to one key the second counts. -/
theorem write_write (key : κ) (a b : α) (table : List (κ × α)) :
    write key b (write key a table) = write key b table := by
  induction table with
  | nil => simp [write]
  | cons entry rest ih =>
    obtain ⟨k, c⟩ := entry
    by_cases h : k = key <;> simp [write, h, ih]

/-- A write to a key that is there can as well come before a write to another key. -/
theorem write_comm {key other : κ} (apart : key ≠ other) (a b : α) {table : List (κ × α)}
    (present : key ∈ table.map (·.1)) :
    write key a (write other b table) = write other b (write key a table) := by
  induction table with
  | nil => cases present
  | cons entry rest ih =>
    obtain ⟨k, c⟩ := entry
    by_cases atKey : k = key
    · subst atKey
      simp [write, apart]
    · have later : key ∈ rest.map (·.1) := by
        rcases List.mem_cons.mp present with here | later
        · exact absurd here.symm atKey
        · exact later
      by_cases atOther : k = other
      · simp [write, atOther, Ne.symm apart]
      · simp [write, atKey, atOther, ih later]

/-- A key that is not there is written at the end. -/
theorem write_new {key : κ} (a : α) {table : List (κ × α)} (new : key ∉ table.map (·.1)) :
    write key a table = table ++ [(key, a)] := by
  induction table with
  | nil => rfl
  | cons entry rest ih =>
    obtain ⟨k, b⟩ := entry
    rw [List.map_cons, List.mem_cons, not_or] at new
    rw [write, if_neg (Ne.symm new.1), ih new.2, List.cons_append]

/-- A key that is there is written where it is first found. -/
theorem write_present {key : κ} {a : α} (b : α) {table : List (κ × α)}
    (found : lookup? key table = some a) : ∃ before after,
      table = before ++ (key, a) :: after ∧ write key b table = before ++ (key, b) :: after := by
  induction table with
  | nil => cases found
  | cons entry rest ih =>
    obtain ⟨k, c⟩ := entry
    by_cases h : k = key
    · subst h
      simp only [lookup?, if_true, Option.some.injEq] at found
      exact ⟨[], rest, by rw [found]; rfl, by simp [write]⟩
    · simp only [lookup?, h, if_false] at found
      obtain ⟨before, after, same, written⟩ := ih found
      exact ⟨(k, c) :: before, after, by rw [same]; rfl, by simp [write, h, written]⟩

theorem mem_keys_write {key other : κ} (a : α) {table : List (κ × α)}
    (present : key = other ∨ other ∈ table.map (·.1)) : other ∈ (write key a table).map (·.1) := by
  rw [map_fst_write]
  split
  · next known =>
    rcases present with rfl | old
    · exact known
    · exact old
  · rcases present with rfl | old
    · simp
    · exact List.mem_append_left _ old

theorem nodup_write (key : κ) (a : α) {table : List (κ × α)} (nodup : (table.map (·.1)).Nodup) :
    ((write key a table).map (·.1)).Nodup := by
  rw [map_fst_write]
  split
  · exact nodup
  · next absent => exact List.nodup_append.mpr ⟨nodup, by simp, by grind⟩

end ControlPlaneMetrics
