import TreeSmith.Schema
import TreeSmith.Text.LetterCase

/-!
# Settings of a run

The ownership policy of a run, the template, the path to the modules of other
families, and policies for single families, which are kept in order of their keys.

## Main definitions

* `FamilyPolicies`, `FamilyPolicies.insert` — policies by family, sorted by key.
* `Settings` — all settings, with their defaults.
* `Settings.policyFor` — the policy of a family.
-/

namespace TreeSmith

/-- The list with `key` set to `policy`, in order of keys. -/
def putPolicy (key : String) (policy : Ownership) :
    List (String × Ownership) → List (String × Ownership)
  | [] => [(key, policy)]
  | entry :: more =>
    if key < entry.1 then (key, policy) :: entry :: more
    else if key = entry.1 then (key, policy) :: more
    else entry :: putPolicy key policy more

/-- The keys of the list grow from left to right. -/
def KeysGrow (entries : List (String × Ownership)) : Prop :=
  entries.Pairwise fun a b => a.1 < b.1

/-- An entry of the list with `key` set is the new one or was there before. -/
theorem mem_putPolicy {key : String} {policy : Ownership} {entries : List (String × Ownership)}
    {e : String × Ownership} (h : e ∈ putPolicy key policy entries) :
    e = (key, policy) ∨ e ∈ entries := by
  induction entries with
  | nil => simpa [putPolicy] using h
  | cons entry more ih =>
    simp only [putPolicy] at h
    split at h
    · simpa using h
    · split at h
      · rcases List.mem_cons.mp h with h | h
        · exact .inl h
        · exact .inr (List.mem_cons_of_mem _ h)
      · rcases List.mem_cons.mp h with h | h
        · exact .inr (h ▸ List.mem_cons_self)
        · exact (ih h).imp_right (List.mem_cons_of_mem _)

/-- Setting a key keeps the keys in order. -/
theorem KeysGrow.putPolicy {entries : List (String × Ownership)} (h : KeysGrow entries)
    (key : String) (policy : Ownership) : KeysGrow (putPolicy key policy entries) := by
  induction entries with
  | nil => simp [TreeSmith.putPolicy, KeysGrow]
  | cons entry more ih =>
    obtain ⟨hentry, hmore⟩ := List.pairwise_cons.mp h
    simp only [TreeSmith.putPolicy]
    split
    · next hlt =>
      refine List.pairwise_cons.mpr ⟨fun b hb => ?_, h⟩
      rcases List.mem_cons.mp hb with rfl | hb
      · exact hlt
      · exact String.lt_trans hlt (hentry b hb)
    · split
      · next heq =>
        subst heq
        exact List.pairwise_cons.mpr ⟨hentry, hmore⟩
      · next hnlt hne =>
        refine List.pairwise_cons.mpr ⟨fun b hb => ?_, ih hmore⟩
        rcases mem_putPolicy hb with rfl | hb
        · -- the key is neither below nor equal to the entry's, so it is above
          have hle : entry.1 ≤ key := String.not_lt.mp hnlt
          exact Decidable.byContradiction fun hge =>
            hne (String.le_antisymm (String.not_lt.mp hge) hle)
        · exact hentry b hb

/-- Policies for single families, in order of their keys. -/
structure FamilyPolicies where
  /-- The keys with their policies. -/
  entries : List (String × Ownership)
  /-- The keys grow from left to right. -/
  sorted : KeysGrow entries

namespace FamilyPolicies

/-- No policies. -/
def empty : FamilyPolicies := ⟨[], List.Pairwise.nil⟩

/-- The policies with one more, which takes the place of one under the same key. -/
def insert (p : FamilyPolicies) (key : String) (policy : Ownership) : FamilyPolicies :=
  ⟨putPolicy key policy p.entries, p.sorted.putPolicy key policy⟩

/-- The policies of a list, the last one under each key. -/
def ofList (entries : List (String × Ownership)) : FamilyPolicies :=
  entries.foldl (fun p e => p.insert e.1 e.2) empty

/-- The policy under exactly this key. -/
def atKey? (p : FamilyPolicies) (key : String) : Option Ownership :=
  (p.entries.find? (·.1 == key)).map (·.2)

/-- The policy under the first key that differs at most in the case of letters. -/
def likeKey? (p : FamilyPolicies) (key : String) : Option Ownership :=
  (p.entries.find? (Text.sameIgnoringCase ·.1 key)).map (·.2)

end FamilyPolicies

/-- The settings that are not for single families. -/
structure GeneratorSettings where
  /-- The ownership of subtrees without one of their own. -/
  policy : Ownership
  /-- The template to use in place of the built-in one. -/
  template : Option String
  /-- The path under which the modules of other families are found. -/
  moduleRoot : String
  deriving DecidableEq, Repr

/-- One owner, the built-in template, and modules side by side. -/
def GeneratorSettings.default : GeneratorSettings :=
  ⟨.exclusive, none, "super"⟩

/-- All settings of a run. -/
structure Settings where
  /-- The settings for every family. -/
  generator : GeneratorSettings
  /-- The policies for single families. -/
  families : FamilyPolicies

namespace Settings

/-- The settings when nothing is set. -/
def default : Settings := ⟨.default, .empty⟩

/-- The policy of a family: the one under its name, else the one under the first
key that differs only in case, else that of the run. -/
def policyFor (s : Settings) (family : String) : Ownership :=
  ((s.families.atKey? family).or (s.families.likeKey? family)).getD s.generator.policy

/-- The settings with another policy of the run. -/
def withPolicy (s : Settings) (policy : Ownership) : Settings :=
  { s with generator := { s.generator with policy := policy } }

end Settings

end TreeSmith
