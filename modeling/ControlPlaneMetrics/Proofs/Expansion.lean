import ControlPlaneMetrics.Settings.Environment
import Mathlib.Data.List.Perm.Basic

/-!
The expansion of references against one pass over the text. The text is searched once for every
variable, and each search sees the values that earlier ones have put in. Where dollar signs only
begin references, and no value has one, a search finds no more and no less than the references of
its own variable that were there from the start.
-/
namespace ControlPlaneMetrics

/-- Entries can be in any order if no key is there twice. -/
theorem lookup?_perm {κ : Type _} {α : Type _} [DecidableEq κ] {first second : List (κ × α)}
    (perm : first.Perm second) (nodup : (first.map (·.1)).Nodup) (key : κ) :
    lookup? key first = lookup? key second := by
  induction perm with
  | nil => rfl
  | cons entry _ ih => simp only [lookup?, ih (List.nodup_cons.mp nodup).2]
  | swap a b rest =>
    have apart : b.1 ≠ a.1 := by
      rintro same
      simp [same] at nodup
    by_cases here : a.1 = key
    · simp [lookup?, here, here ▸ apart]
    · simp [lookup?, here]
  | trans early _ ih later =>
    have nodup' := (early.map (·.1)).nodup_iff.mp nodup
    exact (ih nodup).trans (later nodup')

namespace Settings

/-! ## One pass -/

/-- What stands for the reference to a variable: its value, or the reference as it is if the variable
is not set. -/
def substitute (env : Environment) (name : Text) : Text :=
  (lookup? name env).getD (reference name)

/-- One pass over a text, from left to right. It goes by what has been read of the name of a
reference, if it is inside of one, and never looks at a value. -/
def onePass (env : Environment) : (name? : Option Text) → Text → Text
  | none, [] => []
  | some name, [] => .char '$' :: .char '\x7b' :: name
  | some name, c :: t =>
    if c = .char '\x7d' then substitute env name ++ onePass env none t
    else onePass env (some (name ++ [c])) t
  | none, .char '$' :: .char '\x7b' :: t => onePass env (some []) t
  | none, c :: t => c :: onePass env none t

/-- Every dollar sign begins a reference, and the name in that has neither a dollar sign nor a closing
brace. -/
def Referring (t : Text) : Prop :=
  ∀ before after, t = before ++ .char '$' :: after → ∃ name rest,
    after = .char '\x7b' :: name ++ .char '\x7d' :: rest ∧ .char '$' ∉ name ∧ .char '\x7d' ∉ name

/-- Such a text as it is read: references, and code points that are no dollar sign. -/
inductive Spelled : Text → Prop where
  | nil : Spelled []
  | plain {c : CodePoint} {t : Text} : c ≠ .char '$' → Spelled t → Spelled (c :: t)
  | reference {name t : Text} : .char '$' ∉ name → .char '\x7d' ∉ name → Spelled t →
      Spelled (reference name ++ t)

theorem reference_append (name t : Text) :
    reference name ++ t = .char '$' :: (.char '\x7b' :: name ++ .char '\x7d' :: t) := by
  simp [reference]

theorem Referring.suffix {before t : Text} (referring : Referring (before ++ t)) : Referring t := by
  intro earlier after split
  exact referring (before ++ earlier) after (by rw [split, List.append_assoc])

theorem Referring.spelled {t : Text} (referring : Referring t) : Spelled t := by
  induction size : t.length using Nat.strongRecOn generalizing t with
  | ind n ih =>
    cases t with
    | nil => exact .nil
    | cons c t =>
      by_cases dollar : c = .char '$'
      · subst dollar
        obtain ⟨name, rest, rfl, clean, closed⟩ := referring [] t rfl
        rw [← reference_append] at referring size ⊢
        have shorter : rest.length < n := by
          simp only [reference, List.length_append, List.length_cons] at size
          omega
        exact .reference clean closed (ih _ shorter referring.suffix rfl)
      · have behind : Referring ([c] ++ t) := referring
        exact .plain dollar (ih t.length (by simp [← size]) behind.suffix rfl)

theorem Spelled.referring {t : Text} (spelled : Spelled t) : Referring t := by
  induction spelled with
  | nil =>
    intro before after split
    simp at split
  | @plain c t plain _ ih =>
    rintro (_ | ⟨b, before⟩) after split
    · exact absurd (List.cons.inj split).1 plain
    · exact ih before after (List.cons.inj split).2
  | @reference name t clean closed _ ih =>
    rw [reference_append]
    rintro (_ | ⟨b, before⟩) after split
    · exact ⟨name, t, (List.cons.inj split).2.symm, clean, closed⟩
    · -- the sign is not in the braces, and so it is in what follows them
      have split : .char '\x7b' :: name ++ .char '\x7d' :: t = before ++ .char '$' :: after :=
        (List.cons.inj split).2
      have inside : .char '$' ∉ (.char '\x7b' :: name ++ [.char '\x7d'] : Text) := by simp [clean]
      rw [List.append_cons, List.append_eq_append_iff] at split
      rcases split with ⟨middle, rfl, there⟩ | ⟨middle, here, there⟩
      · exact ih middle after there
      · cases middle with
        | nil => exact ih [] after (by simpa using there.symm)
        | cons d middle =>
          obtain ⟨rfl, _⟩ := List.cons.inj there
          exact absurd (here ▸ by simp) inside

theorem Spelled.append {s t : Text} (plain : .char '$' ∉ s) (spelled : Spelled t) :
    Spelled (s ++ t) := by
  induction s with
  | nil => exact spelled
  | cons c s ih =>
    rw [List.mem_cons, not_or] at plain
    exact .plain (Ne.symm plain.1) (ih plain.2)

section OnePass

variable (env : Environment)

theorem onePass_plain {c : CodePoint} (plain : c ≠ .char '$') (t : Text) :
    onePass env none (c :: t) = c :: onePass env none t := by
  rw [onePass]
  rintro t rfl
  exact absurd rfl plain

theorem onePass_append {s : Text} (plain : .char '$' ∉ s) (t : Text) :
    onePass env none (s ++ t) = s ++ onePass env none t := by
  induction s with
  | nil => rfl
  | cons c s ih =>
    rw [List.mem_cons, not_or] at plain
    rw [List.cons_append, onePass_plain env (Ne.symm plain.1), ih plain.2, List.cons_append]

theorem onePass_name {name : Text} (closed : .char '\x7d' ∉ name) (known t : Text) :
    onePass env (some known) (name ++ .char '\x7d' :: t) =
      substitute env (known ++ name) ++ onePass env none t := by
  induction name generalizing known with
  | nil => simp [onePass]
  | cons c name ih =>
    rw [List.mem_cons, not_or] at closed
    rw [List.cons_append, onePass, if_neg (Ne.symm closed.1), ih closed.2, List.append_assoc,
      List.singleton_append]

theorem onePass_reference {name : Text} (closed : .char '\x7d' ∉ name) (t : Text) :
    onePass env none (reference name ++ t) = substitute env name ++ onePass env none t := by
  rw [reference_append, List.cons_append, onePass, onePass_name env closed [] t, List.nil_append]

/-- A pass looks at the values of variables, and not at their order. -/
theorem onePass_congr {env other : Environment}
    (same : ∀ name, lookup? name other = lookup? name env) (name? : Option Text) (t : Text) :
    onePass other name? t = onePass env name? t := by
  fun_induction onePass env name? t with
  | case1 => rfl
  | case2 => rfl
  | case3 name t ih => simp [onePass, substitute, same, ih]
  | case4 name c t other ih => simp [onePass, other, ih]
  | case5 t ih => simp [onePass, ih]
  | case6 c t other ih => rw [onePass, ih]; exact other

/-- Where no variable is set, nothing is replaced. -/
theorem onePass_unset {t : Text} (spelled : Spelled t) : onePass [] none t = t := by
  induction spelled with
  | nil => rfl
  | plain plain _ ih => rw [onePass_plain [] plain, ih]
  | reference _ closed _ ih => rw [onePass_reference [] closed, ih, substitute, lookup?, Option.getD]

end OnePass

/-! ## The search for one variable -/

/-- As much fuel as the text is long is enough. -/
theorem replaceAll_fuel {old : Text} (some : old ≠ []) (new : Text) {fuel fuel' : Nat} {t : Text}
    (enough : t.length ≤ fuel) (enough' : t.length ≤ fuel') :
    replaceAll old new fuel t = replaceAll old new fuel' t := by
  induction fuel generalizing fuel' t with
  | zero =>
    obtain rfl := List.eq_nil_of_length_eq_zero (Nat.le_zero.mp enough)
    cases fuel' <;> rfl
  | succ fuel ih =>
    cases t with
    | nil => cases fuel' <;> rfl
    | cons c t =>
      cases fuel' with
      | zero => cases enough'
      | succ fuel' =>
        simp only [replaceAll]
        simp only [List.length_cons, Nat.add_le_add_iff_right] at enough enough'
        cases found : Text.dropStart? old (c :: t) with
        | none => simp only [ih enough enough']
        | some rest =>
          have split := congrArg List.length (Text.eq_append_of_dropStart? found)
          have : 0 < old.length := List.length_pos_iff.mpr some
          simp only [List.length_cons, List.length_append] at split
          have shorter : rest.length ≤ fuel ∧ rest.length ≤ fuel' := by omega
          simp only [ih shorter.1 shorter.2]

section Search

variable (name value : Text)

theorem expandOne_missed {c : CodePoint} {t : Text}
    (missed : Text.dropStart? (reference name) (c :: t) = none) :
    expandOne (c :: t) name value = c :: expandOne t name value := by
  simp only [expandOne, List.length_cons, replaceAll, missed]

theorem expandOne_plain {c : CodePoint} (plain : c ≠ .char '$') (t : Text) :
    expandOne (c :: t) name value = c :: expandOne t name value :=
  expandOne_missed name value (by simp [reference, Text.dropStart?, Ne.symm plain])

theorem expandOne_append {s : Text} (plain : .char '$' ∉ s) (t : Text) :
    expandOne (s ++ t) name value = s ++ expandOne t name value := by
  induction s with
  | nil => rfl
  | cons c s ih =>
    rw [List.mem_cons, not_or] at plain
    rw [List.cons_append, expandOne_plain name value (Ne.symm plain.1), ih plain.2,
      List.cons_append]

theorem expandOne_own (t : Text) :
    expandOne (reference name ++ t) name value = value ++ expandOne t name value := by
  have found := Text.dropStart?_append (reference name) t
  rw [reference_append] at found ⊢
  simp only [expandOne, List.length_cons, replaceAll, found]
  rw [replaceAll_fuel (by simp [reference]) value _ (Nat.le_refl t.length)]
  simp
  omega

/-- Names end where the brace is, so that none is found at the beginning of another. -/
theorem dropStart?_closed {name other : Text} (closed : .char '\x7d' ∉ name)
    (closed' : .char '\x7d' ∉ other) (apart : other ≠ name) (t : Text) :
    Text.dropStart? (name ++ [.char '\x7d']) (other ++ .char '\x7d' :: t) = none := by
  induction name generalizing other with
  | nil =>
    cases other with
    | nil => exact absurd rfl apart
    | cons d other =>
      rw [List.mem_cons, not_or] at closed'
      simp [Text.dropStart?, closed'.1]
  | cons c name ih =>
    rw [List.mem_cons, not_or] at closed
    cases other with
    | nil => simp [Text.dropStart?, Ne.symm closed.1]
    | cons d other =>
      rw [List.mem_cons, not_or] at closed'
      by_cases same : c = d
      · subst same
        simpa [Text.dropStart?] using ih closed.2 closed'.2 fun same => apart (by rw [same])
      · simp [Text.dropStart?, same]

theorem expandOne_other {name other : Text} (closed : .char '\x7d' ∉ name)
    (clean : .char '$' ∉ other) (closed' : .char '\x7d' ∉ other) (apart : other ≠ name)
    (value t : Text) :
    expandOne (reference other ++ t) name value = reference other ++ expandOne t name value := by
  have missed : Text.dropStart? (reference name) (reference other ++ t) = none := by
    rw [reference_append]
    simpa [reference, Text.dropStart?] using dropStart?_closed closed closed' apart t
  have inside : .char '$' ∉ (.char '\x7b' :: other ++ [.char '\x7d'] : Text) := by simp [clean]
  rw [reference_append] at missed ⊢
  rw [expandOne_missed name value missed, reference_append, List.append_cons,
    expandOne_append name value inside, ← List.append_cons]

end Search

/-- A search keeps the text to be one in which dollar signs only begin references, and is made up for
by a pass that knows the variable. -/
theorem expandOne_spelled (env : Environment) {name value t : Text} (spelled : Spelled t)
    (closed : .char '\x7d' ∉ name) (plain : .char '$' ∉ value) :
    Spelled (expandOne t name value) ∧
    onePass env none (expandOne t name value) = onePass ((name, value) :: env) none t := by
  induction spelled with
  | nil => exact ⟨.nil, rfl⟩
  | plain dollar _ ih =>
    rw [expandOne_plain name value dollar, onePass_plain _ dollar, onePass_plain _ dollar, ih.2]
    exact ⟨.plain dollar ih.1, rfl⟩
  | @reference other t clean closed' _ ih =>
    rw [onePass_reference _ closed', substitute, lookup?]
    by_cases own : other = name
    · subst own
      rw [expandOne_own, onePass_append _ plain, ih.2, if_pos rfl]
      exact ⟨ih.1.append plain, rfl⟩
    · rw [expandOne_other closed clean closed' own, onePass_reference _ closed', ih.2,
        if_neg (Ne.symm own)]
      exact ⟨.reference clean closed' ih.1, rfl⟩

theorem expand_eq_onePass {env : Environment} {t : Text} (spelled : Spelled t)
    (closed : ∀ set ∈ env, .char '\x7d' ∉ set.1) (plain : ∀ set ∈ env, .char '$' ∉ set.2) :
    expand env t = onePass env none t := by
  induction env generalizing t with
  | nil => exact (onePass_unset spelled).symm
  | cons first rest ih =>
    obtain ⟨name, value⟩ := first
    obtain ⟨closed, closed'⟩ := List.forall_mem_cons.mp closed
    obtain ⟨plain, plain'⟩ := List.forall_mem_cons.mp plain
    obtain ⟨searched, passed⟩ := expandOne_spelled rest spelled closed plain
    have later := ih searched closed' plain'
    exact later.trans passed

/-- For every text in which dollar signs only begin references, and every environment with no closing
brace in a name and no dollar sign in a value. The searches for one variable after the other come to
one pass: the references to variables that are set give way to their values, and all else stays.
It does not matter in which order the variables are. -/
theorem expansion_is_one_pass (env : Environment) (t : Text) (referring : Referring t)
    (closed : ∀ set ∈ env, .char '\x7d' ∉ set.1) (plain : ∀ set ∈ env, .char '$' ∉ set.2) :
    expand env t = onePass env none t ∧
    ∀ other, other.Perm env → (env.map (·.1)).Nodup → expand other t = expand env t := by
  have spelled := referring.spelled
  refine ⟨expand_eq_onePass spelled closed plain, fun other perm nodup => ?_⟩
  rw [expand_eq_onePass spelled closed plain, expand_eq_onePass spelled
    (fun set member => closed set (perm.mem_iff.mp member))
    (fun set member => plain set (perm.mem_iff.mp member))]
  exact onePass_congr (fun name => (lookup?_perm perm.symm nodup name).symm) none t

/-- A value that is the rest of a reference is put in as it is, in whatever order the variables are. -/
theorem expansion_keeps_value_in_braces :
    let env : Environment := [(Text.ofString "A", Text.ofString "\x7bB\x7d"),
      (Text.ofString "B", Text.ofString "x")]
    let t := reference (Text.ofString "A") ++ (Text.ofString "-" ++
      (reference (Text.ofString "C") ++ reference (Text.ofString "B")))
    let expanded := Text.ofString "\x7bB\x7d-$\x7bC\x7dx"
    Referring t ∧ (∀ set ∈ env, .char '\x7d' ∉ set.1) ∧ (∀ set ∈ env, .char '$' ∉ set.2) ∧
    env.reverse.Perm env ∧ (env.map (·.1)).Nodup ∧
    expand env t = expanded ∧ expand env.reverse t = expanded := by
  intro env t expanded
  have last : Spelled (reference (Text.ofString "B") ++ []) :=
    .reference (by decide) (by decide) .nil
  have spelled : Spelled t := by
    rw [List.append_nil] at last
    exact .reference (by decide) (by decide) (.plain (by decide)
      (.reference (by decide) (by decide) last))
  have closed : ∀ set ∈ env, .char '\x7d' ∉ set.1 := by decide
  have plain : ∀ set ∈ env, .char '$' ∉ set.2 := by decide
  have nodup : (env.map (·.1)).Nodup := by decide
  have perm : env.reverse.Perm env := List.reverse_perm env
  obtain ⟨passed, ordered⟩ := expansion_is_one_pass env t spelled.referring closed plain
  have result : expand env t = expanded := passed.trans (by decide)
  exact ⟨spelled.referring, closed, plain, perm, nodup, result,
    (ordered env.reverse perm nodup).trans result⟩

end Settings

end ControlPlaneMetrics
