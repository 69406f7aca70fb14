import TreeSmith.Diff.Compact
import TreeSmith.Diff.Shortest

/-!
# What an edit script leads from and to

A script is read in two ways: without the added items it is the first list, and without
the dropped ones the second.  Both are order-preserving interleavings, of the kept items
with the dropped ones and of the kept items with the added ones.  Neither the search for a
script nor its compaction may lose or repeat an item.

The search is correct for every point at which the middle of the lists is split, so
nothing is asked of that point.  A movement of a run keeps both readings as long as the
run is a change: a kept run that changed places with a dropped one would turn the first
list around.  `Cursor.Moves` says both, so that it can be repeated.

## Main definitions

* `Interleaved` — a list holds the items of two lists, each in their order.
* `Edit.SameEnds` — two scripts have the same two readings.
* `Cursor.Moves` — the run of a cursor has been moved.
* `Leads` — a script leads from one list to another.

## Main results

* `Edit.interleaved_source`, `Edit.interleaved_result` — the two readings of a script.
* `Cursor.moves_up?`, `Cursor.moves_down?` — one movement.
* `Leads.compact` — **compaction leads from and to the same lists.**
* `leads_shortestScript` — **the script between two lists leads from one to the other.**
* `shortestScript_self` — between a list and itself everything is kept.
-/

namespace TreeSmith

variable {α : Type}

/-! ### Interleavings -/

/-- The third list holds the items of the first two, each of these in its order. -/
inductive Interleaved : List α → List α → List α → Prop
  /-- Nothing is left. -/
  | nil : Interleaved [] [] []
  /-- The next item is one of the first list. -/
  | left {xs ys zs : List α} (a : α) (h : Interleaved xs ys zs) :
      Interleaved (a :: xs) ys (a :: zs)
  /-- The next item is one of the second list. -/
  | right {xs ys zs : List α} (b : α) (h : Interleaved xs ys zs) :
      Interleaved xs (b :: ys) (b :: zs)

namespace Interleaved

variable {xs ys zs : List α}

theorem append_left (as : List α) (h : Interleaved xs ys zs) :
    Interleaved (as ++ xs) ys (as ++ zs) := by
  induction as with
  | nil => exact h
  | cons a as ih => exact .left a ih

theorem append_right (bs : List α) (h : Interleaved xs ys zs) :
    Interleaved xs (bs ++ ys) (bs ++ zs) := by
  induction bs with
  | nil => exact h
  | cons b bs ih => exact .right b ih

theorem mem_of_mem_right (h : Interleaved xs ys zs) {b : α} (hb : b ∈ ys) : b ∈ zs := by
  induction h with
  | nil => exact hb
  | left a _ ih => exact List.mem_cons_of_mem a (ih hb)
  | right b' _ ih =>
    rcases List.mem_cons.mp hb with rfl | hb
    · exact List.mem_cons_self
    · exact List.mem_cons_of_mem b' (ih hb)

/-- An interleaving with nothing is the other list. -/
theorem eq_of_nil_right (h : Interleaved xs [] zs) : zs = xs := by
  generalize hys : ([] : List α) = ys at h
  induction h with
  | nil => rfl
  | left a _ ih => rw [ih hys]
  | right b _ _ => cases hys

end Interleaved

namespace Edit

/-! ### The two readings of a script -/

theorem interleaved_source (script : List (Edit α)) :
    Interleaved (kept script) (dropped script) (source script) := by
  induction script with
  | nil => exact .nil
  | cons e script ih =>
    cases e with
    | keep items => exact ih.append_left items
    | drop items => exact ih.append_right items
    | add items => exact ih

theorem interleaved_result (script : List (Edit α)) :
    Interleaved (kept script) (added script) (result script) := by
  induction script with
  | nil => exact .nil
  | cons e script ih =>
    cases e with
    | keep items => exact ih.append_left items
    | drop items => exact ih
    | add items => exact ih.append_right items

/-- The items of a run that are in the first list. -/
def old : Edit α → List α
  | .keep items => items
  | .drop items => items
  | .add _ => []

/-- The items of a run that are in the second list. -/
def new : Edit α → List α
  | .keep items => items
  | .drop _ => []
  | .add items => items

theorem old_keep (items : List α) : (Edit.keep items).old = items := rfl

theorem new_keep (items : List α) : (Edit.keep items).new = items := rfl

/-- The run is dropped or added. -/
def IsChange (e : Edit α) : Prop :=
  ∀ items, e ≠ .keep items

theorem source_eq_flatMap (script : List (Edit α)) : source script = script.flatMap old := by
  induction script with
  | nil => rfl
  | cons e script ih => cases e <;> simp [source, old, ih]

theorem result_eq_flatMap (script : List (Edit α)) : result script = script.flatMap new := by
  induction script with
  | nil => rfl
  | cons e script ih => cases e <;> simp [result, new, ih]

/-- The scripts lead from the same list to the same list. -/
structure SameEnds (s s' : List (Edit α)) : Prop where
  source : s'.flatMap old = s.flatMap old
  result : s'.flatMap new = s.flatMap new

namespace SameEnds

variable {s s' s'' : List (Edit α)}

theorem refl (s : List (Edit α)) : SameEnds s s := ⟨rfl, rfl⟩

theorem trans (h : SameEnds s s') (h' : SameEnds s' s'') : SameEnds s s'' :=
  ⟨h'.source.trans h.source, h'.result.trans h.result⟩

end SameEnds

end Edit

open Edit

/-! ### What two lists share at an end -/

section Shared

variable [DecidableEq α]

theorem sharedFront_self (xs : List α) : sharedFront xs xs = xs.length := by
  induction xs with
  | nil => rfl
  | cons a xs ih => simp [sharedFront, ih]

theorem take_sharedFront (xs ys : List α) :
    xs.take (sharedFront xs ys) = ys.take (sharedFront xs ys) := by
  induction xs generalizing ys with
  | nil => simp [sharedFront]
  | cons a xs ih =>
    cases ys with
    | nil => simp [sharedFront]
    | cons b ys =>
      by_cases h : a = b
      · simp [sharedFront, h, ih ys]
      · simp [sharedFront, h]

theorem drop_sharedBack (xs ys : List α) :
    xs.drop (xs.length - sharedBack xs ys) = ys.drop (ys.length - sharedBack xs ys) := by
  have h := congrArg List.reverse (take_sharedFront xs.reverse ys.reverse)
  rwa [List.reverse_take, List.reverse_take, List.reverse_reverse, List.reverse_reverse,
    List.length_reverse, List.length_reverse] at h

end Shared

namespace Diff

/-! ### Movements of a run -/

section Neighbours

-- what is kept stands in both lists, so the two readings of a kept run are the same
variable {side : Edit α → List α} (hside : ∀ items, side (.keep items) = items)
  (items : List α) (script : List (Edit α))

include hside

theorem flatMap_keepBefore :
    (keepBefore items script).flatMap side = items ++ script.flatMap side := by
  unfold keepBefore
  split <;> simp [hside]

theorem flatMap_reverse_keepAfter :
    (keepAfter items script).reverse.flatMap side = script.reverse.flatMap side ++ items := by
  unfold keepAfter
  split <;> simp [hside]

theorem flatMap_keepRest :
    (keepRest items script).flatMap side = items ++ script.flatMap side := by
  unfold keepRest
  cases items <;> simp [hside]

theorem flatMap_reverse_keepRest :
    (keepRest items script).reverse.flatMap side = script.reverse.flatMap side ++ items := by
  unfold keepRest
  cases items <;> simp [hside]

end Neighbours

namespace Cursor

/-- The run of a cursor has been moved: it is still dropped or added, and the script has
the same readings. -/
structure Moves (c c' : Cursor α) : Prop where
  ends : SameEnds c.script c'.script
  change : c'.current.IsChange

namespace Moves

variable {before after : List (Edit α)} {current : Edit α} {run : List α} {c c' c'' : Cursor α}

theorem refl (hc : c.current.IsChange) : Moves c c := ⟨.refl _, hc⟩

theorem trans (h : Moves c c') (h' : Moves c' c'') : Moves c c'' :=
  ⟨h.ends.trans h'.ends, h'.change⟩

/-- A kept run above that is empty is left out. -/
theorem skip_above (hc : current.IsChange)
    (h : (if run.isEmpty then some ⟨before, current, after⟩ else none) = some c') :
    Moves ⟨.keep run :: before, current, after⟩ c' := by
  split at h
  · next hrun =>
    cases h
    rw [List.isEmpty_iff] at hrun
    exact ⟨⟨by simp [script, old, hrun], by simp [script, new, hrun]⟩, hc⟩
  · cases h

/-- A kept run below that is empty is left out. -/
theorem skip_below (hc : current.IsChange)
    (h : (if run.isEmpty then some ⟨before, current, after⟩ else none) = some c') :
    Moves ⟨before, current, .keep run :: after⟩ c' := by
  split at h
  · next hrun =>
    cases h
    rw [List.isEmpty_iff] at hrun
    exact ⟨⟨by simp [script, old, hrun], by simp [script, new, hrun]⟩, hc⟩
  · cases h

variable (before after)

/-- An added run slides up over kept items that it ends with too. -/
theorem slide_above (a s b : List α) : Moves ⟨.keep (a ++ s) :: before, .add (b ++ s), after⟩
    ⟨keepRest a before, .add (s ++ b), keepBefore s after⟩ where
  ends.source := by
    simp [script, old, flatMap_keepBefore old_keep, flatMap_reverse_keepRest old_keep]
  ends.result := by
    simp [script, new, flatMap_keepBefore new_keep, flatMap_reverse_keepRest new_keep]
  change := nofun

/-- An added run slides down over kept items that it starts with too. -/
theorem slide_below (a s b : List α) : Moves ⟨before, .add (s ++ b), .keep (s ++ a) :: after⟩
    ⟨keepAfter s before, .add (b ++ s), keepRest a after⟩ where
  ends.source := by
    simp [script, old, flatMap_reverse_keepAfter old_keep, flatMap_keepRest old_keep]
  ends.result := by
    simp [script, new, flatMap_reverse_keepAfter new_keep, flatMap_keepRest new_keep]
  change := nofun

end Moves

variable [DecidableEq α] {c c' : Cursor α}

/-- **One movement up.** -/
theorem moves_up? (hc : c.current.IsChange) (h : c.up? = some c') : Moves c c' := by
  obtain ⟨before, current, after⟩ := c
  cases before with
  | nil => cases h
  | cons e before =>
    cases current with
    | keep items => exact absurd rfl (hc items)
    | drop items =>
      cases e with
      | keep run => exact .skip_above hc h
      | drop run | add run =>
        cases h
        exact ⟨⟨by simp [script, old], by simp [script, new]⟩, nofun⟩
    | add items =>
      cases e with
      | keep run =>
        simp only [up?] at h
        split at h
        · cases h
          have hitems : items.take (items.length - sharedBack run items) ++
              run.drop (run.length - sharedBack run items) = items := by
            rw [drop_sharedBack, List.take_append_drop]
          have hslide := Moves.slide_above before after
            (run.take (run.length - sharedBack run items))
            (run.drop (run.length - sharedBack run items))
            (items.take (items.length - sharedBack run items))
          rwa [List.take_append_drop, hitems] at hslide
        · exact .skip_above hc h
      | drop run | add run =>
        cases h
        exact ⟨⟨by simp [script, old], by simp [script, new]⟩, nofun⟩

/-- **One movement down.** -/
theorem moves_down? (hc : c.current.IsChange) (h : c.down? = some c') : Moves c c' := by
  obtain ⟨before, current, after⟩ := c
  cases after with
  | nil => cases h
  | cons e after =>
    cases current with
    | keep items => exact absurd rfl (hc items)
    | drop items =>
      cases e with
      | keep run => exact .skip_below hc h
      | drop run | add run =>
        cases h
        exact ⟨⟨by simp [script, old], by simp [script, new]⟩, nofun⟩
    | add items =>
      cases e with
      | keep run =>
        simp only [down?] at h
        split at h
        · cases h
          have hitems : run.take (sharedFront run items) ++ items.drop (sharedFront run items) =
              items := by
            rw [take_sharedFront, List.take_append_drop]
          have hslide := Moves.slide_below before after (run.drop (sharedFront run items))
            (run.take (sharedFront run items)) (items.drop (sharedFront run items))
          rwa [List.take_append_drop, hitems] at hslide
        · exact .skip_below hc h
      | drop run | add run =>
        cases h
        exact ⟨⟨by simp [script, old], by simp [script, new]⟩, nofun⟩

omit [DecidableEq α] in
/-- Any number of movements, each of which keeps the readings. -/
theorem moves_slide {move? : Cursor α → Option (Cursor α)}
    (hmove : ∀ {c c' : Cursor α}, c.current.IsChange → move? c = some c' → Moves c c')
    (fuel : Nat) (hc : c.current.IsChange) : Moves c (slide move? fuel c) := by
  induction fuel generalizing c with
  | zero => exact .refl hc
  | succ fuel ih =>
    simp only [slide]
    split
    · exact .refl hc
    · next moved h =>
      have hfirst := hmove hc h
      exact hfirst.trans (ih hfirst.change)

theorem moves_moveUp_moveDown (hc : c.current.IsChange) : Moves c c.moveUp.moveDown := by
  have hup : Moves c c.moveUp := moves_slide moves_up? _ hc
  exact hup.trans (moves_slide moves_down? _ hup.change)

end Cursor

/-! ### Compaction -/

section Compact

variable [DecidableEq α] {chosen : Edit α → Bool}

theorem sameEnds_compactRuns (hchosen : ∀ e, chosen e = true → e.IsChange) (fuel : Nat)
    (before after : List (Edit α)) :
    SameEnds (before.reverse ++ after) (compactRuns chosen fuel before after) := by
  induction fuel generalizing before after with
  | zero => exact .refl _
  | succ fuel ih =>
    cases after with
    | nil =>
      rw [List.append_nil]
      exact .refl _
    | cons e after =>
      simp only [compactRuns]
      split
      · next he =>
        have hmoves := Cursor.moves_moveUp_moveDown (c := ⟨before, e, after⟩) (hchosen e he)
        have hrest := ih
          ((Cursor.moveUp ⟨before, e, after⟩).moveDown.current ::
            (Cursor.moveUp ⟨before, e, after⟩).moveDown.before)
          (Cursor.moveUp ⟨before, e, after⟩).moveDown.after
        rw [List.reverse_cons, List.append_assoc] at hrest
        exact hmoves.ends.trans hrest
      · have hrest := ih (e :: before) after
        rwa [List.reverse_cons, List.append_assoc] at hrest

/-- **Compaction keeps both readings.** -/
theorem sameEnds_compact (script : List (Edit α)) : SameEnds script (compact script) := by
  have hdrop : ∀ e : Edit α, isDrop e = true → e.IsChange := by
    intro e he items hkeep
    rw [hkeep] at he
    cases he
  have hadd : ∀ e : Edit α, isAdd e = true → e.IsChange := by
    intro e he items hkeep
    rw [hkeep] at he
    cases he
  exact (sameEnds_compactRuns hdrop _ [] script).trans (sameEnds_compactRuns hadd _ [] _)

end Compact

/-! ### The search for a script -/

section Search

variable [DecidableEq α]

/-- The script leads from one list to another. -/
structure Leads (script : List (Edit α)) (xs ys : List α) : Prop where
  source : source script = xs
  result : result script = ys

omit [DecidableEq α] in
theorem Leads.append {s s' : List (Edit α)} {xs ys xs' ys' : List α} (h : Leads s xs ys)
    (h' : Leads s' xs' ys') : Leads (s ++ s') (xs ++ xs') (ys ++ ys') where
  source := by
    have hs := h.source
    have hs' := h'.source
    rw [source_eq_flatMap] at hs hs' ⊢
    rw [List.flatMap_append, hs, hs']
  result := by
    have hs := h.result
    have hs' := h'.result
    rw [result_eq_flatMap] at hs hs' ⊢
    rw [List.flatMap_append, hs, hs']

omit [DecidableEq α] in
theorem leads_keepRun (items : List α) : Leads (keepRun items) items items := by
  unfold keepRun
  split
  · next h =>
    rw [List.isEmpty_iff] at h
    rw [h]
    exact ⟨rfl, rfl⟩
  · exact ⟨List.append_nil items, List.append_nil items⟩

omit [DecidableEq α] in
/-- What two lists share at both ends is kept around a script for what lies between. -/
theorem leads_between {xs ys : List α} {k i j : Nat} {between : List (Edit α)}
    (hfront : xs.take k = ys.take k) (hback : (xs.drop k).drop i = (ys.drop k).drop j)
    (h : Leads between ((xs.drop k).take i) ((ys.drop k).take j)) :
    Leads (keepRun (xs.take k) ++ between ++ keepRun ((xs.drop k).drop i)) xs ys := by
  have hall := ((leads_keepRun (xs.take k)).append h).append (leads_keepRun ((xs.drop k).drop i))
  have hxs : xs.take k ++ (xs.drop k).take i ++ (xs.drop k).drop i = xs := by
    rw [List.append_assoc, List.take_append_drop, List.take_append_drop]
  have hys : xs.take k ++ (ys.drop k).take j ++ (xs.drop k).drop i = ys := by
    rw [hfront, hback, List.append_assoc, List.take_append_drop, List.take_append_drop]
  rwa [hxs, hys] at hall

theorem leads_scriptBetween (fuel : Nat) (xs ys : List α) :
    Leads (scriptBetween fuel xs ys) xs ys := by
  induction fuel generalizing xs ys with
  | zero => exact ⟨by simp [scriptBetween, source], by simp [scriptBetween, result]⟩
  | succ fuel ih =>
    simp only [scriptBetween]
    refine leads_between (take_sharedFront xs ys) (drop_sharedBack _ _) ?_
    -- only the lists that are left between the common ends matter from here on
    generalize List.take _ (xs.drop _) = oldMiddle
    generalize List.take _ (ys.drop _) = newMiddle
    cases oldMiddle with
    | nil =>
      cases newMiddle with
      | nil => exact ⟨rfl, rfl⟩
      | cons b bs => exact ⟨rfl, List.append_nil _⟩
    | cons a as =>
      cases newMiddle with
      | nil => exact ⟨List.append_nil _, rfl⟩
      | cons b bs =>
        simp only
        split
        · exact ⟨List.append_nil _, List.append_nil _⟩
        · next x y _ =>
          have hsplit := (ih ((a :: as).take x) ((b :: bs).take y)).append
            (ih ((a :: as).drop x) ((b :: bs).drop y))
          rwa [List.take_append_drop, List.take_append_drop] at hsplit

/-- **The script between two lists leads from one to the other.** -/
theorem leads_shortestScript (xs ys : List α) : Leads (shortestScript xs ys) xs ys :=
  leads_scriptBetween _ xs ys

/-- Compaction leads from and to the same lists. -/
theorem Leads.compact {script : List (Edit α)} {xs ys : List α} (h : Leads script xs ys) :
    Leads (compact script) xs ys where
  source := by
    have hends := (sameEnds_compact script).source
    rw [← source_eq_flatMap, ← source_eq_flatMap] at hends
    rw [hends, h.source]
  result := by
    have hends := (sameEnds_compact script).result
    rw [← result_eq_flatMap, ← result_eq_flatMap] at hends
    rw [hends, h.result]

/-- Between a list and itself everything is kept. -/
theorem shortestScript_self (xs : List α) : shortestScript xs xs = keepRun xs := by
  simp [shortestScript, scriptBetween, sharedFront_self, sharedBack, keepRun]

theorem compactRuns_of_not_chosen {chosen : Edit α → Bool} (fuel : Nat)
    {before after : List (Edit α)} (h : ∀ e ∈ after, chosen e = false) :
    compactRuns chosen fuel before after = before.reverse ++ after := by
  induction fuel generalizing before after with
  | zero => rfl
  | succ fuel ih =>
    cases after with
    | nil => simp [compactRuns]
    | cons e after =>
      obtain ⟨he, hafter⟩ := List.forall_mem_cons.mp h
      simp [compactRuns, he, ih hafter]

omit [DecidableEq α] in
theorem eq_keep_of_mem_keepRun {xs : List α} {e : Edit α} (h : e ∈ keepRun xs) : e = .keep xs := by
  unfold keepRun at h
  split at h
  · cases h
  · exact List.mem_singleton.mp h

theorem compact_keepRun (xs : List α) : compact (keepRun xs) = keepRun xs := by
  have hdrop : ∀ e ∈ keepRun xs, isDrop e = false :=
    fun e he => eq_keep_of_mem_keepRun he ▸ rfl
  have hadd : ∀ e ∈ keepRun xs, isAdd e = false :=
    fun e he => eq_keep_of_mem_keepRun he ▸ rfl
  simp [compact, compactRuns_of_not_chosen _ hdrop, compactRuns_of_not_chosen _ hadd]

end Search

end Diff

end TreeSmith
