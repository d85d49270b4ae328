import AccountingPage.Regions
import AccountingPage.Proofs.Registry

/-!
# Marks and references

A quick form is *marked* while one of its submits is unfinished, and components refer to it through
the table of forms.  Two things are kept by everything that happens to a page's records apart from
the submits themselves, and this file proves both for every way in which records change:

* references stay in the table (`Records.WellFormed`), and the table never shrinks;
* marks stay as they are (`Forms.marked`).  A form that is not in the table counts as idle, so this
  also says that a new form starts without a mark.

The first holds of every change; `Records.Calm` is the second, as a relation between the records
before and after.  It needs that a change of a component leaves its mark alone
(`Component.mark?`), which is proved here of running a method and of taking properties back, and
that the registry makes idle forms only (`Registry.MakesIdle`), which is proved of the standard one.
-/

set_option autoImplicit false

namespace AccountingPage

/-! ## Marks of single components -/

namespace Component

/-- The mark of a quick form; other components have none. -/
def mark? (c : Component QuickForm) : Option Bool := c.quickForm?.map QuickForm.submitting

theorem quickForm?_map {φ ψ : Type} (g : φ → ψ) (c : Component φ) :
    (c.map g).quickForm? = c.quickForm?.map g := by
  cases c <;> rfl

/-- Markup cannot write the mark of a form. -/
theorem mark?_takeBack (props : Props) (c : Component QuickForm) :
    (c.takeBack props).mark? = c.mark? := by
  cases c <;> rfl

end Component

/-- What a call has made of a component is of the same kind, and has the same mark. -/
structure Called.Keeps (called : Called) (c : Component QuickForm) : Prop where
  kind : called.component.kind = c.kind
  mark : called.component.mark? = c.mark?

namespace Component

theorem keeps_reading {m : Method} {c : Component QuickForm} {inputs : Inputs}
    {f : String → Called} (h : ∀ text, (f text).Keeps c) : (reading m c inputs f).Keeps c := by
  rw [reading]
  split
  · exact h _
  · exact ⟨rfl, rfl⟩

/-- **A call keeps kind and mark**, whatever its name and its result. -/
theorem keeps_invoke (page : Page) (config : Config) (name : String) (inputs : Inputs)
    (c : Component QuickForm) : (c.invoke page config name inputs).Keeps c := by
  cases c with
  | voidConfirmation v => exact ⟨rfl, rfl⟩
  | _ =>
    rw [invoke.eq_def]
    dsimp only
    split
    -- a call changes the record at once, or reads the field before that, or is refused
    all_goals first
      | exact ⟨rfl, rfl⟩
      | exact keeps_reading fun _ => ⟨rfl, rfl⟩

end Component

/-! ## Marks and references in the table of forms -/

namespace Forms

def marked (fs : Forms) (id : FormId) : Bool := (fs.get id).submitting

/-- A reference that the component holds is in the table. -/
def Has (fs : Forms) (c : Component FormId) : Prop := ∀ id, c.quickForm? = some id → id < fs.nextId

/-- A reference that is not in the table yet counts as an idle form. -/
theorem get_of_nextId_le {fs : Forms} {id : FormId} (h : fs.nextId ≤ id) : fs.get id = .idle := by
  have h' : fs.table.length ≤ id := h
  simp [get, List.getD_eq_getElem?_getD, List.getElem?_eq_none h']

theorem nextId_add (fs : Forms) (f : QuickForm) : (fs.add f).nextId = fs.nextId + 1 := by
  simp [nextId, add]

theorem nextId_adopt_le (fs : Forms) (c : Component QuickForm) :
    fs.nextId ≤ (fs.adopt c).2.nextId := by
  cases c with
  | quickForm f => exact (nextId_add fs f).symm ▸ Nat.le_succ _
  | _ => exact Nat.le_refl _

/-- Putting a component back never makes the table shorter. -/
theorem nextId_putBack_le (fs : Forms) (c : Component FormId) (changed : Component QuickForm) :
    fs.nextId ≤ (fs.putBack c changed).2.nextId := by
  rw [putBack.eq_def]
  split
  · exact Nat.le_of_eq (nextId_set fs _ _).symm
  · exact nextId_adopt_le fs _

/-- A reference stays in a table that grows. -/
theorem Has.mono {fs fs' : Forms} {c : Component FormId} (h : fs.Has c)
    (hle : fs.nextId ≤ fs'.nextId) : fs'.Has c :=
  fun id hid => Nat.lt_of_lt_of_le (h id hid) hle

/-- A new form is referred to by a reference that is in the table. -/
theorem has_adopt (fs : Forms) (c : Component QuickForm) :
    (fs.adopt c).2.Has (fs.adopt c).1 := by
  intro id hid
  cases c with
  | quickForm f =>
    cases hid
    exact (nextId_add fs f).symm ▸ Nat.lt_succ_self _
  | _ => exact absurd hid (by simp [adopt, Component.quickForm?])

/-- What is put back refers to the table as well as what was taken out of it. -/
theorem has_putBack {fs : Forms} {c : Component FormId} (h : fs.Has c)
    (changed : Component QuickForm) :
    (fs.putBack c changed).2.Has (fs.putBack c changed).1 := by
  rw [putBack.eq_def]
  split
  · exact h.mono (Nat.le_of_eq (nextId_set fs _ _).symm)
  · exact has_adopt fs _

/-! Writing a form changes no mark but its own, and a new idle form changes none at all. -/

/-- What writing a form does to all the marks.  A form that is not in the table is not written. -/
theorem marked_set (fs : Forms) (id id' : FormId) (f : QuickForm) :
    (fs.set id f).marked id' =
      if id' = id ∧ id < fs.nextId then f.submitting else fs.marked id' := by
  by_cases hid : id' = id
  · subst hid
    by_cases hlt : id' < fs.nextId
    · rw [marked, get_set_self hlt, if_pos ⟨rfl, hlt⟩]
    · have hle : fs.nextId ≤ id' := Nat.le_of_not_lt hlt
      rw [if_neg fun h => hlt h.2, marked, marked, get_of_nextId_le hle,
        get_of_nextId_le ((nextId_set fs id' f).symm ▸ hle)]
  · rw [marked, get_set_of_ne fs (Ne.symm hid), if_neg fun h => hid h.1, marked]

/-- A form that is written with the mark that it had changes no mark. -/
theorem marked_set_of_eq {fs : Forms} {id : FormId} {f : QuickForm}
    (h : f.submitting = fs.marked id) (id' : FormId) : (fs.set id f).marked id' = fs.marked id' := by
  rw [marked_set]
  split
  · rename_i hid
    rw [h, hid.1]
  · rfl

/-- Freeing a form, whether or not it was marked, and whether or not it is in the table. -/
theorem get_set_free (fs : Forms) (id id' : FormId) :
    (fs.set id { fs.get id with submitting := false }).get id' =
      if id' = id then { fs.get id with submitting := false } else fs.get id' := by
  by_cases hid : id' = id
  · subst hid
    rw [if_pos rfl]
    by_cases hlt : id' < fs.nextId
    · rw [get_set_self hlt]
    · have hle : fs.nextId ≤ id' := Nat.le_of_not_lt hlt
      rw [get_of_nextId_le hle, get_of_nextId_le ((nextId_set fs id' _).symm ▸ hle)]
      rfl
  · rw [if_neg hid, get_set_of_ne fs (Ne.symm hid)]

/-- Only the mark of the form that is freed changes. -/
theorem marked_set_free (fs : Forms) (id id' : FormId) :
    (fs.set id { fs.get id with submitting := false }).marked id' =
      if id' = id then false else fs.marked id' := by
  rw [marked, get_set_free]
  split <;> rfl

/-- Marking a form that is in the table. -/
theorem marked_set_mark {fs : Forms} {id : FormId} (h : id < fs.nextId) (id' : FormId) :
    (fs.set id { fs.get id with submitting := true }).marked id' =
      if id' = id then true else fs.marked id' := by
  simp only [marked_set, h, and_true]

/-- A new form without a mark changes no mark, not even its own: it has counted as idle before. -/
theorem marked_add {fs : Forms} {f : QuickForm} (h : f.submitting = false) (id : FormId) :
    (fs.add f).marked id = fs.marked id := by
  rcases Nat.lt_trichotomy id fs.nextId with hlt | rfl | hgt
  · rw [marked, get_add_of_lt hlt, marked]
  · rw [marked, get_add_nextId, h, marked, get_of_nextId_le (Nat.le_refl _)]
    rfl
  · rw [marked, marked, get_of_nextId_le (Nat.le_of_lt hgt),
      get_of_nextId_le ((nextId_add fs f).symm ▸ hgt)]

theorem marked_adopt {fs : Forms} {c : Component QuickForm} (h : c.mark? ≠ some true)
    (id : FormId) : (fs.adopt c).2.marked id = fs.marked id := by
  cases c with
  | quickForm f => exact marked_add (Bool.eq_false_iff.2 fun hf => h (congrArg some hf)) id
  | _ => rfl

/-- A component that is put back with the mark that it had changes no mark. -/
theorem marked_putBack {fs : Forms} {c : Component FormId} {changed : Component QuickForm}
    (h : changed.mark? = (fs.resolve c).mark?) (id : FormId) :
    (fs.putBack c changed).2.marked id = fs.marked id := by
  have hc : (fs.resolve c).mark? = (c.quickForm?.map fs.get).map QuickForm.submitting := by
    rw [Component.mark?, resolve, Component.quickForm?_map]
  rw [hc] at h
  rw [putBack.eq_def]
  split
  · exact marked_set_of_eq (Option.some.inj h) id
  · rename_i hne
    refine marked_adopt (fun ht => ?_) id
    -- a changed component with a mark is a form, so the one that it replaces was a reference
    cases c with
    | quickForm _ =>
      cases changed with
      | quickForm f => exact hne _ _ rfl rfl
      | _ => cases ht
    | _ => exact absurd (ht.symm.trans h) (by simp [Component.quickForm?])

end Forms

/-! ## Registries that make idle forms -/

namespace Registry

/-- No record that the registry makes is marked. -/
def MakesIdle (r : Registry) : Prop :=
  ∀ name given made, r.make? name given = some made → made.component.mark? ≠ some true

theorem mark?_of_mem_standardRecipes :
    ∀ e ∈ standardRecipes, ∀ given, (e.2 given).component.mark? ≠ some true := by
  simp [standardRecipes, KeptSection.all, always, ofElement, restored, Component.mark?,
    Component.quickForm?, QuickForm.idle]

/-- The standard registry makes idle forms only. -/
theorem makesIdle_standard : standard.MakesIdle := by
  intro name given made h
  obtain ⟨recipe, hrecipe, rfl⟩ := Option.map_eq_some_iff.1 h
  exact mark?_of_mem_standardRecipes _ (mem_standardRecipes_of_get? hrecipe) given

end Registry

/-! ## References in slots and regions -/

namespace Records

/-- Every reference that is held is in the table. -/
structure WellFormed (r : Records) : Prop where
  slots : ∀ name c, r.slots.get? name = some c → r.forms.Has c
  live : ∀ region cs, r.live.get? region = some cs → ∀ c ∈ cs, r.forms.Has c

theorem wellFormed_empty : empty.WellFormed := ⟨nofun, nofun⟩

/-- What stands at an address refers to the table. -/
theorem WellFormed.has {r : Records} (h : r.WellFormed) {a : Address} {c : Component FormId}
    (hc : r.find? a = some c) : r.forms.Has c := by
  cases a with
  | slot name => exact h.slots name c hc
  | bound region index =>
    obtain ⟨cs, hcs, hget⟩ := Option.bind_eq_some_iff.1 hc
    exact h.live region cs hcs c (List.mem_of_getElem? hget)

theorem WellFormed.withForms {r : Records} (h : r.WellFormed) {fs : Forms}
    (hle : r.forms.nextId ≤ fs.nextId) : { r with forms := fs }.WellFormed :=
  ⟨fun name c hc => (h.slots name c hc).mono hle,
    fun region cs hcs c hc => (h.live region cs hcs c hc).mono hle⟩

theorem WellFormed.insertSlot {r : Records} (h : r.WellFormed) {c : Component FormId}
    (hc : r.forms.Has c) (slot : String) :
    { r with slots := r.slots.insert slot c }.WellFormed := by
  refine ⟨fun name c' hc' => ?_, h.live⟩
  rw [TextMap.get?_insert] at hc'
  split at hc'
  · cases hc'
    exact hc
  · exact h.slots name c' hc'

theorem WellFormed.insertRegion {r : Records} (h : r.WellFormed) {cs : List (Component FormId)}
    (hcs : ∀ c ∈ cs, r.forms.Has c) (region : String) :
    { r with live := r.live.insert region cs }.WellFormed := by
  refine ⟨h.slots, fun region' cs' hcs' => ?_⟩
  rw [TextMap.get?_insert] at hcs'
  split at hcs'
  · cases hcs'
    exact hcs
  · exact h.live region' cs' hcs'

theorem WellFormed.replace {r : Records} (h : r.WellFormed) {c : Component FormId}
    (hc : r.forms.Has c) (a : Address) : (r.replace c a).WellFormed := by
  cases a with
  | slot name => exact h.insertSlot hc name
  | bound region index =>
    rw [Records.replace]
    split
    · rename_i cs hcs
      refine h.insertRegion (fun c' hc' => ?_) region
      rcases List.mem_or_eq_of_mem_set hc' with hmem | rfl
      · exact h.live region cs hcs c' hmem
      · exact hc
    · exact h

@[simp] theorem forms_replace (r : Records) (c : Component FormId) (a : Address) :
    (r.replace c a).forms = r.forms := by
  cases a with
  | slot name => rfl
  | bound region index =>
    rw [replace]
    split <;> rfl

theorem forms_update (r : Records) (a : Address) (c : Component FormId)
    (changed : Component QuickForm) : (r.update a c changed).forms = (r.forms.putBack c changed).2 :=
  forms_replace ..

/-- Updates keep references in the table, whatever has become of the component. -/
theorem WellFormed.update {r : Records} (h : r.WellFormed) {a : Address} {c : Component FormId}
    (hc : r.find? a = some c) (changed : Component QuickForm) : (r.update a c changed).WellFormed :=
  (h.withForms (Forms.nextId_putBack_le _ _ _)).replace (Forms.has_putBack (h.has hc) changed) a

theorem WellFormed.mount {r : Records} (h : r.WellFormed) (slot : String)
    (c : Component QuickForm) : (r.mount slot c).WellFormed :=
  (h.withForms (Forms.nextId_adopt_le _ c)).insertSlot (Forms.has_adopt _ c) slot

theorem WellFormed.setForm {r : Records} (h : r.WellFormed) (id : FormId) (f : QuickForm) :
    (r.setForm id f).WellFormed :=
  h.withForms (Nat.le_of_eq (Forms.nextId_set _ _ _).symm)

/-! ## Regions -/

/-- Dropping a region leaves the table alone: the forms of its records stay in it. -/
theorem forms_dropRegion (r : Records) (g : Region) : (r.dropRegion g).1.forms = r.forms := by
  rw [dropRegion]
  split <;> rfl

theorem WellFormed.dropRegion {r : Records} (h : r.WellFormed) (g : Region) :
    (r.dropRegion g).1.WellFormed := by
  rw [Records.dropRegion]
  split
  · refine ⟨h.slots, fun region cs hcs => ?_⟩
    rw [TextMap.get?_erase] at hcs
    split at hcs
    · exact absurd hcs (by simp)
    · exact h.live region cs hcs
  · exact h

/-- The table does not shrink while the records of a region are made. -/
theorem nextId_makeRecords_le (w : Workshop) (region : String) (sites : List Site) (fs : Forms) :
    fs.nextId ≤ (makeRecords w region sites fs).2.1.nextId := by
  induction sites generalizing fs with
  | nil => exact Nat.le_refl _
  | cons site sites ih =>
    rw [makeRecords]
    split
    · exact Nat.le_trans (Forms.nextId_adopt_le _ _) (ih _)
    · exact ih _

/-- The new records all refer to the table as it is in the end, since it only grows. -/
theorem has_makeRecords (w : Workshop) (region : String) (sites : List Site) (fs : Forms) :
    ∀ c ∈ (makeRecords w region sites fs).1, (makeRecords w region sites fs).2.1.Has c := by
  induction sites generalizing fs with
  | nil => exact nofun
  | cons site sites ih =>
    rw [makeRecords]
    split
    · intro c hc
      rcases List.mem_cons.1 hc with rfl | hc
      · exact (Forms.has_adopt fs _).mono (nextId_makeRecords_le w region sites _)
      · exact ih _ c hc
    · exact ih _

/-- Making the records of a region changes no mark, if the registry makes idle forms. -/
theorem marked_makeRecords {w : Workshop} (hw : w.registry.MakesIdle) (region : String)
    (sites : List Site) (fs : Forms) (id : FormId) :
    (makeRecords w region sites fs).2.1.marked id = fs.marked id := by
  induction sites generalizing fs with
  | nil => rfl
  | cons site sites ih =>
    rw [makeRecords]
    split
    · rename_i made hmade
      exact (ih _).trans (Forms.marked_adopt (hw _ _ _ hmade) id)
    · exact ih _

/-- Binding a region keeps references in the table. -/
theorem WellFormed.bindRegion {r : Records} (h : r.WellFormed) (w : Workshop) (g : Region) :
    (r.bindRegion w g).1.WellFormed :=
  (h.withForms (nextId_makeRecords_le w g.id g.sites r.forms)).insertRegion
    (has_makeRecords w g.id g.sites r.forms) g.id

/-! ## Changes that are no submits -/

/-- `r'` has the marks of `r`, and a form that is new in it has none. -/
def Calm (r r' : Records) : Prop := ∀ id, r'.forms.marked id = r.forms.marked id

theorem Calm.refl (r : Records) : Calm r r := fun _ => rfl

theorem Calm.trans {r r' r'' : Records} (h : Calm r r') (h' : Calm r' r'') : Calm r r'' :=
  fun id => (h' id).trans (h id)

theorem calm_mount (r : Records) (slot : String) {c : Component QuickForm}
    (hc : c.mark? ≠ some true) : Calm r (r.mount slot c) :=
  Forms.marked_adopt hc

theorem calm_update (r : Records) (a : Address) {c : Component FormId}
    {changed : Component QuickForm} (hmark : changed.mark? = (r.resolve c).mark?) :
    Calm r (r.update a c changed) := by
  rw [Calm, forms_update]
  exact Forms.marked_putBack hmark

theorem calm_dropRegion (r : Records) (g : Region) : Calm r (r.dropRegion g).1 :=
  fun id => congrArg (Forms.marked · id) (forms_dropRegion r g)

theorem calm_bindRegion {w : Workshop} (hw : w.registry.MakesIdle) (r : Records) (g : Region) :
    Calm r (r.bindRegion w g).1 :=
  marked_makeRecords hw g.id g.sites r.forms

end Records

end AccountingPage
