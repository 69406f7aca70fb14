import Mathlib.Data.List.Forall2
import Mathlib.Data.List.Nodup
import TreeSmith.Registry.Basic

/-!
# Steps that may fail, and lists of their results

The checks of a registry are sequences of steps that stop at the first fault.
What such a sequence answers is read off step by step: it succeeds exactly when
every step does.

## Main results

* `bind_eq_ok`, `check_bind_eq_ok`, `guard_eq_ok`, `mapError_eq_ok` — a sequence
  succeeds when each step does.
* `mem_distinct`, `nodup_distinct` — `distinct` keeps the members and drops the
  repetitions.
* `find?_name_eq_some`, `find?_name_eq_none` — a name finds its item among different names,
  and nothing where no item has it.
* `exists_fuel` — a step of a reader with fuel.
* `exists_right_of_forall₂`, `exists_left_of_forall₂`, `exists_getElem?_of_forall₂`,
  `map_eq_map_of_forall₂` — partners in paired lists.
-/

namespace TreeSmith

section Fallible

variable {ε α β : Type}

/-- A step and what follows it succeed when the step does, and what follows
succeeds on its result. -/
theorem bind_eq_ok {x : Except ε α} {next : α → Except ε β} {b : β} :
    (x >>= next) = .ok b ↔ ∃ a, x = .ok a ∧ next a = .ok b := by
  cases x with
  | error e =>
    constructor
    · intro h; cases h
    · rintro ⟨a, h, -⟩; cases h
  | ok a =>
    constructor
    · intro h; exact ⟨a, rfl, h⟩
    · rintro ⟨a', h, hnext⟩; cases h; exact hnext

/-- A check and what follows it succeed when both do. -/
theorem check_bind_eq_ok {x : Except ε Unit} {next : Unit → Except ε β} {b : β} :
    (x >>= next) = .ok b ↔ x = .ok () ∧ next () = .ok b := by
  rw [bind_eq_ok]
  constructor
  · rintro ⟨⟨⟩, hx, hnext⟩; exact ⟨hx, hnext⟩
  · rintro ⟨hx, hnext⟩; exact ⟨(), hx, hnext⟩

/-- Nothing runs after a fault. -/
@[simp] theorem error_bind (e : ε) (next : α → Except ε β) :
    (Except.error e >>= next) = .error e := rfl

/-- A success hands its result on. -/
@[simp] theorem ok_bind (a : α) (next : α → Except ε β) :
    (Except.ok a >>= next) = next a := rfl

/-- A guarded fault lets a success through only when the guard is off. -/
theorem guard_eq_ok {c : Prop} [Decidable c] {e : ε} {x : Except ε β} {b : β} :
    (if c then .error e else x) = .ok b ↔ ¬ c ∧ x = .ok b := by
  by_cases hc : c <;> simp [hc]

/-- Another name for the fault lets the same successes through. -/
theorem mapError_eq_ok {ε' : Type} {x : Except ε α} {f : ε → ε'} {a : α} :
    x.mapError f = .ok a ↔ x = .ok a := by
  cases x <;> simp [Except.mapError]

theorem exists_of_isOk {x : Except ε α} (h : x.isOk = true) : ∃ a, x = .ok a := by
  cases x with
  | error e => cases h
  | ok a => exact ⟨a, rfl⟩

end Fallible

section Distinct

variable {α : Type} [DecidableEq α]

@[simp] theorem mem_distinct {a : α} {as : List α} : a ∈ distinct as ↔ a ∈ as := by
  induction as with
  | nil => simp [distinct]
  | cons b bs ih =>
    simp only [distinct, List.mem_cons, List.mem_filter, ih, ne_eq, decide_eq_true_eq]
    by_cases h : a = b <;> simp [h]

theorem nodup_distinct (as : List α) : (distinct as).Nodup := by
  induction as with
  | nil => exact List.nodup_nil
  | cons b bs ih =>
    refine List.nodup_cons.mpr ⟨?_, ih.filter _⟩
    simp [List.mem_filter]

/-- A filter that lets only one element of a list without repetitions through. -/
theorem filter_eq_singleton {as : List α} (hnodup : as.Nodup) {a : α} (ha : a ∈ as)
    {p : α → Bool} (hp : ∀ b ∈ as, p b = true ↔ b = a) : as.filter p = [a] := by
  have hcongr : as.filter p = as.filter (· == a) := by
    refine List.filter_congr fun b hb => ?_
    rw [Bool.eq_iff_iff, hp b hb, beq_iff_eq]
  rw [hcongr, List.filter_beq, List.count_eq_one_of_mem hnodup ha, List.replicate_one]

end Distinct

section Keyed

/-- Among items of different names, a name finds its item. -/
theorem find?_name_eq_some {β : Type} {key : β → String} {items : List β}
    (hnodup : (items.map key).Nodup) {b : β} (h : b ∈ items) :
    items.find? (fun c => key c == key b) = some b := by
  induction items with
  | nil => cases h
  | cons c items ih =>
    rw [List.map_cons, List.nodup_cons] at hnodup
    rcases List.mem_cons.1 h with rfl | hmem
    · simp
    · have hne : (key c == key b) = false := by
        apply beq_eq_false_iff_ne.2
        intro heq
        exact hnodup.1 (List.mem_map.2 ⟨b, hmem, heq.symm⟩)
      rw [List.find?_cons, hne]
      exact ih hnodup.2 hmem

/-- A name that no item has finds nothing. -/
theorem find?_name_eq_none {β : Type} {key : β → String} {items : List β} {name : String}
    (h : name ∉ items.map key) : items.find? (fun c => key c == name) = none := by
  rw [List.find?_eq_none]
  intro c hc heq
  exact h (List.mem_map.mpr ⟨c, hc, beq_iff_eq.mp heq⟩)

end Keyed

/-- A reader with fuel for more than so many steps can take one, and has enough left for
them. -/
theorem exists_fuel {n fuel : Nat} (h : n < fuel) : ∃ k, fuel = k + 1 ∧ n ≤ k :=
  ⟨fuel - 1, by omega, by omega⟩

section Paired

variable {α β : Type} {R : α → β → Prop} {as : List α} {bs : List β}

/-- In lists paired element by element, every element on the left has its partner. -/
theorem exists_right_of_forall₂ (h : List.Forall₂ R as bs) : ∀ a ∈ as, ∃ b ∈ bs, R a b := by
  induction h with
  | nil => simp
  | cons hab _ ih =>
    intro a ha
    rcases List.mem_cons.mp ha with rfl | ha
    · exact ⟨_, List.mem_cons_self, hab⟩
    · obtain ⟨b, hb, hr⟩ := ih a ha
      exact ⟨b, List.mem_cons_of_mem _ hb, hr⟩

/-- In lists paired element by element, every element on the right has its partner. -/
theorem exists_left_of_forall₂ (h : List.Forall₂ R as bs) : ∀ b ∈ bs, ∃ a ∈ as, R a b :=
  exists_right_of_forall₂ h.flip

/-- In lists paired element by element, partners have the same place. -/
theorem exists_getElem?_of_forall₂ (h : List.Forall₂ R as bs) {i : Nat} {a : α}
    (ha : as[i]? = some a) : ∃ b, bs[i]? = some b ∧ R a b := by
  induction h generalizing i with
  | nil => simp at ha
  | cons hab _ ih =>
    cases i with
    | zero =>
      obtain rfl := Option.some.inj ha
      exact ⟨_, rfl, hab⟩
    | succ i => exact ih ha

/-- Lists paired by what two functions make of the elements have the same images. -/
theorem map_eq_map_of_forall₂ {γ : Type} {f : α → γ} {g : β → γ}
    (h : List.Forall₂ (fun a b => g b = f a) as bs) : bs.map g = as.map f := by
  induction h with
  | nil => rfl
  | cons hab _ ih => rw [List.map_cons, List.map_cons, hab, ih]

end Paired

end TreeSmith
