import TreeSmith.Proofs.SavedSettings

/-!
# Layers override each other key by key

Settings are read from two sections, each a table of keys.  Layers are merged from the bottom
up, so what stands under a key in the end is found by going through the layers in order and
looking only at what each of them says about this key: the other keys, and how they are spread
over files and variables, play no part.  Anything but a table takes the place of what is below,
and so the last layer to set a key decides; a table goes into what is below key by key.

## Main definitions

* `Setting.said` — what a layer says about a key of a section.
* `Setting.updated`, `Setting.settled` — what layers come to under a key.
* `Setting.valueAt` — what stands under a key of a section.
* `Setting.keepsSections` — the sections stay tables.
* `Setting.Reordered`, `Setting.SaysOnce` — a layer in another order, and one that sets no key
  twice.

## Main results

* `Setting.valueAt_assignKey` — one entry updates the keys that it is about.
* `Setting.mergeLayers_section` — **merged layers have under a key what they come to there.**
* `Setting.settled_of_lastSaid` — the last layer to set a key decides, unless it sets a table.
* `Setting.settled_of_reordered` — the order inside a layer that sets no key twice plays no part.
-/

namespace TreeSmith

/-- A layer of settings: its entries in order. -/
abbrev Layer := List (String × Setting)

namespace Setting

/-! ### What layers say about a key -/

/-- The steps of a key of a layer: those of the path that it is, or else the key alone. -/
def keySteps (key : String) : List Step :=
  (readPath? key).getD [.key key]

/-- Something that is said about a key: the steps that lead on from the key, and what is put at
their end. -/
abbrev Saying := List Step × Setting

/-- What an entry of a layer says about a key of a section.  Keys are compared in lower case. -/
def saidBy (sect key : String) (entry : String × Setting) : List Saying :=
  match keySteps entry.1, entry.2 with
  | .key s :: .key k :: more, v =>
    if Text.lowercase s = sect ∧ Text.lowercase k = key then [(more, v)] else []
  | [.key s], .table es =>
    if Text.lowercase s = sect then
      (es.filter (Text.lowercase ·.1 = key)).map fun e => ([], e.2)
    else []
  | _, _ => []

/-- What a layer says about a key of a section, in order. -/
def said (sect key : String) (layer : Layer) : List Saying :=
  layer.flatMap (saidBy sect key)

/-- What stands under a key after something more was said about it: a table goes into what was
there, anything else takes its place, and what has steps to go goes to their end. -/
def updated (below : Option Setting) : Saying → Setting
  | ([], .table es) => assignAll es (below.getD (.table []))
  | ([], v) => v
  | (step :: steps, v) => assignAt v (step :: steps) (below.getD .unset)

/-- What stands under a key after several things were said about it, in order. -/
def updatedAll (below : Option Setting) (sayings : List Saying) : Option Setting :=
  sayings.foldl (fun below w => some (updated below w)) below

/-- What layers come to under a key of a section, if any of them sets it. -/
def settled (layers : List Layer) (sect key : String) : Option Setting :=
  updatedAll none (layers.flatMap (said sect key))

/-- The last thing that is said about a key of a section, by the last layer that sets it. -/
def lastSaid (layers : List Layer) (sect key : String) : Option Saying :=
  (layers.flatMap (said sect key)).getLast?

/-- The saying is a setting for the key itself, and no table. -/
def IsPlain (w : Saying) : Prop :=
  w.1 = [] ∧ ∀ es, w.2 ≠ .table es

/-! ### Tables -/

theorem find?_put (key other : String) (v : Setting) (es : List (String × Setting)) :
    find? key (put other v es) = if other = key then some v else find? key es := by
  induction es with
  | nil =>
    by_cases h : other = key <;> simp [put, find?, h]
  | cons e es ih =>
    rw [put]
    by_cases he : e.1 = other
    · rw [if_pos he]
      by_cases h : other = key
      · simp [find?, h]
      · have hne : (other == key) = false := beq_eq_false_iff_ne.mpr h
        simp [find?, hne, he, h]
    · rw [if_neg he]
      by_cases h : e.1 = key
      · have hother : ¬ other = key := fun heq => he (h.trans heq.symm)
        simp [find?, h, hother]
      · have hne : (e.1 == key) = false := beq_eq_false_iff_ne.mpr h
        have hskip : ∀ more, find? key (e :: more) = find? key more := by
          intro more
          rw [find?, List.find?_cons, hne]
          rfl
        rw [hskip, hskip, ih]

/-- A key that is assigned is updated, and the others stay as they are. -/
theorem find?_assign (key k : String) (v : Setting) (es : List (String × Setting)) :
    find? key (assign k v es) =
      if Text.lowercase k = key then some (updated (find? key es) ([], v)) else find? key es := by
  by_cases h : Text.lowercase k = key
  · rw [if_pos h]
    cases v <;> simp only [assign, find?_put, h, if_true] <;> rfl
  · rw [if_neg h]
    cases v <;> simp only [assign, find?_put, h, if_false]

/-- The entries of a table update their keys one after the other. -/
theorem find?_assignAll (key : String) (incoming : List (String × Setting)) (target : Setting) :
    find? key (assignAll incoming target).entries =
      updatedAll (find? key target.entries)
        ((incoming.filter (Text.lowercase ·.1 = key)).map fun e => ([], e.2)) := by
  induction incoming generalizing target with
  | nil => rfl
  | cons e incoming ih =>
    rw [assignAll, ih, entries, find?_assign]
    by_cases h : Text.lowercase e.1 = key
    · rw [if_pos h, List.filter_cons_of_pos (by simpa using h)]
      rfl
    · rw [if_neg h, List.filter_cons_of_neg (by simpa using h)]

/-- A path that starts with a key updates this key, and the others stay as they are. -/
theorem find?_assignAt (key k : String) (v : Setting) (more : List Step) (current : Setting) :
    find? key (assignAt v (.key k :: more) current).entries =
      if Text.lowercase k = key then some (updated (find? key current.entries) (more, v))
      else find? key current.entries := by
  cases more with
  | nil =>
    rw [assignAt, entries]
    exact find?_assign key k v current.entries
  | cons step more =>
    rw [assignAt, entries, find?_put]
    · by_cases h : Text.lowercase k = key
      · rw [if_pos h, if_pos h, h, updated]
      · rw [if_neg h, if_neg h]
    · intro heq
      cases heq

/-! ### Sections -/

/-- The entries of a section, none if it is not there. -/
def inSection (current : Setting) (sect : String) : List (String × Setting) :=
  ((find? sect current.entries).getD .unset).entries

/-- What stands under a key of a section. -/
def valueAt (current : Setting) (sect key : String) : Option Setting :=
  find? key (current.inSection sect)

/-- The entry puts nothing but a table in the place of a section. -/
def keepsSection (sect : String) (entry : String × Setting) : Bool :=
  match keySteps entry.1, entry.2 with
  | [.key _], .table _ => true
  | [.key s], _ => Text.lowercase s != sect
  | .key s :: .index _ :: _, _ => Text.lowercase s != sect
  | _, _ => true

/-- The tables that settings are read from. -/
def sections : List String := ["generator", "families"]

/-- The layer has tables where tables are wanted. -/
def keepsSections (layer : Layer) : Bool :=
  layer.all fun entry => sections.all fun sect => keepsSection sect entry

theorem exists_keySteps_eq (key : String) : ∃ s more, keySteps key = .key s :: more := by
  unfold keySteps
  cases h : readPath? key with
  | none => exact ⟨key, [], rfl⟩
  | some path =>
    obtain ⟨⟨name, rest⟩, -, h⟩ := Option.bind_eq_some_iff.mp h
    obtain ⟨steps, -, h⟩ := Option.bind_eq_some_iff.mp h
    obtain rfl := Option.some.inj h
    exact ⟨name, steps, rfl⟩

theorem assignKey_eq (current : Setting) (entry : String × Setting) :
    assignKey current entry = assignAt entry.2 (keySteps entry.1) current := by
  unfold assignKey keySteps
  cases readPath? entry.1 <;> rfl

/-- An entry that keeps a section is about something else, or it is a table for the section, or
it is about a key of the section. -/
theorem keepsSection_cases {sect name : String} {v : Setting}
    (h : keepsSection sect (name, v) = true) :
    (∃ s more, keySteps name = .key s :: more ∧ Text.lowercase s ≠ sect) ∨
    (∃ s es, keySteps name = [.key s] ∧ Text.lowercase s = sect ∧ v = .table es) ∨
    ∃ s k more, keySteps name = .key s :: .key k :: more ∧ Text.lowercase s = sect := by
  obtain ⟨s, more, hsteps⟩ := exists_keySteps_eq name
  by_cases hs : Text.lowercase s = sect
  · rw [keepsSection, hsteps] at h
    cases more with
    | nil =>
      cases v with
      | table es => exact .inr (.inl ⟨s, es, hsteps, hs, rfl⟩)
      | unset => simp [hs] at h
      | text t => simp [hs] at h
      | scalar x => simp [hs] at h
      | list vs => simp [hs] at h
    | cons step more =>
      cases step with
      | index n => simp [hs] at h
      | key k => exact .inr (.inr ⟨s, k, more, hsteps, hs⟩)
  · exact .inl ⟨s, more, hsteps, hs⟩

/-- An entry says nothing about sections that it does not lead to. -/
theorem saidBy_of_ne {sect s name : String} {more : List Step}
    (hsteps : keySteps name = .key s :: more) (hs : Text.lowercase s ≠ sect) (key : String)
    (v : Setting) : saidBy sect key (name, v) = [] := by
  rw [saidBy, hsteps]
  cases more with
  | nil => cases v <;> simp [hs]
  | cons step more => cases step <;> simp [hs]

/-- **One entry**: what it says about a key of a section updates this key, and nothing else
does. -/
theorem valueAt_assignKey {sect : String} {entry : String × Setting}
    (hentry : keepsSection sect entry = true) (current : Setting) (key : String) :
    valueAt (assignKey current entry) sect key =
      updatedAll (valueAt current sect key) (saidBy sect key entry) := by
  obtain ⟨name, v⟩ := entry
  rw [assignKey_eq, valueAt, valueAt, inSection, inSection]
  rcases keepsSection_cases hentry with
    ⟨s, more, hsteps, hs⟩ | ⟨s, es, hsteps, hs, rfl⟩ | ⟨s, k, more, hsteps, hs⟩
  · rw [hsteps, find?_assignAt, if_neg hs, saidBy_of_ne hsteps hs]
    rfl
  · rw [hsteps, find?_assignAt, if_pos hs, Option.getD_some, updated, find?_assignAll]
    simp only [saidBy, hsteps, hs, if_true]
    cases find? sect current.entries <;> rfl
  · rw [hsteps, find?_assignAt, if_pos hs, Option.getD_some, updated, find?_assignAt]
    by_cases hk : Text.lowercase k = key
    · simp [saidBy, hsteps, hs, hk, updatedAll]
    · simp [saidBy, hsteps, hs, hk, updatedAll]

/-! ### Sections are tables -/

/-- A table with different keys. -/
def IsTable (v : Setting) : Prop :=
  ∃ es, v = .table es ∧ (es.map (·.1)).Nodup

/-- A key that is there keeps its place. -/
theorem map_fst_put_of_mem {k : String} {es : List (String × Setting)} (h : k ∈ es.map (·.1))
    (v : Setting) : (put k v es).map (·.1) = es.map (·.1) := by
  induction es with
  | nil => cases h
  | cons e es ih =>
    rw [put]
    by_cases he : e.1 = k
    · rw [if_pos he, List.map_cons, List.map_cons, he]
    · have hmem : k ∈ es.map (·.1) := (List.mem_cons.mp h).resolve_left (Ne.symm he)
      rw [if_neg he, List.map_cons, List.map_cons, ih hmem]

theorem nodup_put {es : List (String × Setting)} (h : (es.map (·.1)).Nodup) (k : String)
    (v : Setting) : ((put k v es).map (·.1)).Nodup := by
  by_cases hmem : k ∈ es.map (·.1)
  · rwa [map_fst_put_of_mem hmem]
  · rw [put_of_notMem hmem, List.map_append, List.map_singleton, ← List.concat_eq_append]
    exact h.concat hmem

theorem nodup_assign {es : List (String × Setting)} (h : (es.map (·.1)).Nodup) (k : String)
    (v : Setting) : ((assign k v es).map (·.1)).Nodup := by
  cases v <;> exact nodup_put h _ _

theorem IsTable.assignAll {target : Setting} (h : target.IsTable)
    (incoming : List (String × Setting)) : (assignAll incoming target).IsTable := by
  induction incoming generalizing target with
  | nil => exact h
  | cons e incoming ih =>
    obtain ⟨es, rfl, hes⟩ := h
    rw [Setting.assignAll]
    exact ih ⟨_, rfl, nodup_assign hes e.1 e.2⟩

theorem isTable_assignAt {current : Setting} (h : (current.entries.map (·.1)).Nodup) (v : Setting)
    (k : String) (more : List Step) : (assignAt v (.key k :: more) current).IsTable := by
  cases more with
  | nil => exact ⟨_, rfl, nodup_assign h k v⟩
  | cons step more => exact ⟨_, rfl, nodup_put h _ _⟩

/-- The section, if it is there, is a table with different keys. -/
def HasSection (current : Setting) (sect : String) : Prop :=
  ∀ v, find? sect current.entries = some v → v.IsTable

theorem HasSection.nodup {current : Setting} {sect : String} (h : current.HasSection sect) :
    ((current.inSection sect).map (·.1)).Nodup := by
  unfold inSection
  cases hfind : find? sect current.entries with
  | none => exact List.nodup_nil
  | some v =>
    obtain ⟨es, rfl, hes⟩ := h v hfind
    exact hes

/-- An entry that keeps the section leaves it a table. -/
theorem HasSection.assignKey {sect : String} {entry : String × Setting}
    (hentry : keepsSection sect entry = true) {current : Setting} (h : current.HasSection sect) :
    (assignKey current entry).HasSection sect := by
  obtain ⟨name, v⟩ := entry
  intro w hw
  rw [assignKey_eq] at hw
  rcases keepsSection_cases hentry with
    ⟨s, more, hsteps, hs⟩ | ⟨s, es, hsteps, hs, rfl⟩ | ⟨s, k, more, hsteps, hs⟩
  · rw [hsteps, find?_assignAt, if_neg hs] at hw
    exact h w hw
  · rw [hsteps, find?_assignAt, if_pos hs, updated] at hw
    obtain rfl := Option.some.inj hw
    apply IsTable.assignAll
    cases hfind : find? sect current.entries with
    | none => exact ⟨[], rfl, List.nodup_nil⟩
    | some v => exact h v hfind
  · rw [hsteps, find?_assignAt, if_pos hs, updated] at hw
    obtain rfl := Option.some.inj hw
    exact isTable_assignAt h.nodup v k more

/-! ### All layers -/

section Layers

variable {sect : String} {layers : List Layer}

theorem keepsSection_of_keepsSections {layer : Layer} (h : keepsSections layer = true)
    (hsect : sect ∈ sections) {entry : String × Setting} (hentry : entry ∈ layer) :
    keepsSection sect entry = true :=
  List.all_eq_true.mp (List.all_eq_true.mp h entry hentry) sect hsect

theorem updatedAll_append (below : Option Setting) (ws ws' : List Saying) :
    updatedAll below (ws ++ ws') = updatedAll (updatedAll below ws) ws' :=
  List.foldl_append

/-- One layer: what it says about a key of a section updates this key, and the section stays a
table. -/
theorem addLayer_section {layer : Layer}
    (hlayer : ∀ entry ∈ layer, keepsSection sect entry = true) {current : Setting}
    (h : current.HasSection sect) :
    (addLayer current layer).HasSection sect ∧ ∀ key,
      valueAt (addLayer current layer) sect key =
        updatedAll (valueAt current sect key) (said sect key layer) := by
  induction layer generalizing current with
  | nil => exact ⟨h, fun _ => rfl⟩
  | cons entry layer ih =>
    obtain ⟨hentry, hlayer⟩ := List.forall_mem_cons.mp hlayer
    obtain ⟨hsection, hvalue⟩ := ih hlayer (h.assignKey hentry)
    refine ⟨hsection, fun key => ?_⟩
    rw [said, List.flatMap_cons, updatedAll_append, ← valueAt_assignKey hentry]
    exact hvalue key

/-- **All layers**: a key of a section has what the layers come to under it, and the section is
a table. -/
theorem mergeLayers_section (hlayers : ∀ layer ∈ layers, keepsSections layer = true)
    (hsect : sect ∈ sections) :
    (Setting.table (mergeLayers layers)).HasSection sect ∧ ∀ key,
      valueAt (.table (mergeLayers layers)) sect key = settled layers sect key := by
  have hfold : ∀ {current : Setting}, current.HasSection sect →
      (layers.foldl addLayer current).HasSection sect ∧ ∀ key,
        valueAt (layers.foldl addLayer current) sect key =
          updatedAll (valueAt current sect key) (layers.flatMap (said sect key)) := by
    induction layers with
    | nil => exact fun h => ⟨h, fun _ => rfl⟩
    | cons layer layers ih =>
      intro current h
      obtain ⟨hlayer, hlayers⟩ := List.forall_mem_cons.mp hlayers
      have hentries : ∀ entry ∈ layer, keepsSection sect entry = true := fun entry hentry =>
        keepsSection_of_keepsSections hlayer hsect hentry
      obtain ⟨hsection, hvalue⟩ := addLayer_section hentries h
      obtain ⟨hsection', hvalue'⟩ := ih hlayers hsection
      refine ⟨hsection', fun key => ?_⟩
      rw [List.flatMap_cons, updatedAll_append, ← hvalue]
      exact hvalue' key
  have hempty : (Setting.table []).HasSection sect := by
    intro v hv
    cases hv
  exact hfold hempty

/-- Nothing stands under a key just when no layer sets it. -/
theorem settled_eq_none_iff {key : String} :
    settled layers sect key = none ↔ ∀ layer ∈ layers, said sect key layer = [] := by
  rw [settled, ← List.flatMap_eq_nil_iff]
  cases h : layers.flatMap (said sect key) using List.reverseRec with
  | nil => simp [updatedAll]
  | append_singleton ws w => simp [updatedAll]

/-- The last layer to set a key decides, unless it sets the key to a table. -/
theorem settled_of_lastSaid {key : String} {w : Saying} (h : lastSaid layers sect key = some w)
    (hw : IsPlain w) : settled layers sect key = some w.2 := by
  obtain ⟨ws, hws⟩ := List.getLast?_eq_some_iff.mp h
  rw [settled, hws, updatedAll_append]
  obtain ⟨steps, v⟩ := w
  obtain ⟨rfl, hv⟩ := hw
  cases v with
  | table es => exact absurd rfl (hv es)
  | unset => rfl
  | text s => rfl
  | scalar x => rfl
  | list vs => rfl

end Layers

/-! ### The order inside a layer -/

/-- Two entries are the same, or they are tables under one key of one step with the same entries
in another order. -/
def SameUpToOrder (entry entry' : String × Setting) : Prop :=
  entry = entry' ∨ ∃ key s es es', keySteps key = [.key s] ∧ entry = (key, .table es) ∧
    entry' = (key, .table es') ∧ es.Perm es'

/-- The layer has the same entries in another order, also inside its tables. -/
def Reordered (layer layer' : Layer) : Prop :=
  ∃ between, layer.Perm between ∧ List.Forall₂ SameUpToOrder between layer'

/-- The layer says at most one thing about each key of a section: its keys differ in lower
case. -/
def SaysOnce (layer : Layer) : Prop :=
  ∀ sect key, (said sect key layer).length ≤ 1

/-- An entry in another order says the same in another order. -/
theorem SameUpToOrder.saidBy_perm {entry entry' : String × Setting}
    (h : SameUpToOrder entry entry') (sect key : String) :
    (saidBy sect key entry).Perm (saidBy sect key entry') := by
  rcases h with rfl | ⟨name, s, es, es', hsteps, rfl, rfl, hperm⟩
  · exact .refl _
  · simp only [saidBy, hsteps]
    by_cases hs : Text.lowercase s = sect
    · rw [if_pos hs, if_pos hs]
      exact (hperm.filter _).map _
    · rw [if_neg hs, if_neg hs]

theorem Reordered.said_perm {layer layer' : Layer} (h : Reordered layer layer')
    (sect key : String) : (said sect key layer).Perm (said sect key layer') := by
  obtain ⟨between, hperm, hsame⟩ := h
  refine (hperm.flatMap_right _).trans ?_
  clear hperm
  induction hsame with
  | nil => exact .refl _
  | cons hentry _ ih => exact (hentry.saidBy_perm sect key).append ih

/-- Where at most one thing is said about a key, there is no other order to say it in. -/
theorem SaysOnce.said_eq {layer layer' : Layer} (honce : SaysOnce layer)
    (h : Reordered layer layer') (sect key : String) :
    said sect key layer' = said sect key layer := by
  have hperm := h.said_perm sect key
  have hlength := honce sect key
  cases hsaid : said sect key layer with
  | nil =>
    rw [hsaid] at hperm
    exact hperm.nil_eq.symm
  | cons w ws =>
    rw [hsaid] at hperm hlength
    obtain rfl : ws = [] := by simpa using hlength
    exact List.perm_singleton.mp hperm.symm

/-- **The order inside a layer that sets no key twice plays no part**: what the layers come to
is the same in any order. -/
theorem settled_of_reordered {layers layers' : List Layer}
    (h : List.Forall₂ Reordered layers layers') (honce : ∀ layer ∈ layers, SaysOnce layer) :
    settled layers' = settled layers := by
  funext sect key
  have hsaid : layers'.flatMap (said sect key) = layers.flatMap (said sect key) := by
    induction h with
    | nil => rfl
    | cons hlayer _ ih =>
      obtain ⟨hfirst, honce⟩ := List.forall_mem_cons.mp honce
      rw [List.flatMap_cons, List.flatMap_cons, ih honce, hfirst.said_eq hlayer]
  rw [settled, settled, hsaid]

end Setting

end TreeSmith
