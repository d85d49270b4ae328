import AccountingPage.Proofs.Rebinding
import AccountingPage.Proofs.Stability

/-!
# Forms that are held in one place

Quick forms are held by reference, so in principle an operation on one place can be felt in another.
Here is what it takes: the same form must stand in both, or a submit of it must be under way.

* `Forms.ExtendsBut` is what happens to the table of forms.  `Session.extendsBut_step` says that no
  form changes but the one that an operation works on.
* `Session.formAt?_step` says where the form at an address has come from, and `flight_step` the same
  for a submit that is under way.
* `Session.Sound` says that places and submits refer to forms in the table.
* `Session.HoldsAlone` says that a form is held in one place and nowhere else.  `HoldsAlone.step` and
  `HoldsAlone.get_run` keep it, and the form as it is, while that place is not used.
* `Session.shownAt_run_of_not_uses` is what follows for the component that stands there.
-/

set_option autoImplicit false

namespace AccountingPage

/-! ## The table of forms -/

namespace Forms

/-- `fs'` has the forms of `fs`, and maybe more; all but one of them are as they were. -/
structure ExtendsBut (fs : Forms) (but? : Option FormId) (fs' : Forms) : Prop where
  nextId_le : fs.nextId ≤ fs'.nextId
  get : ∀ {f}, f < fs.nextId → but? ≠ some f → fs'.get f = fs.get f

variable {fs fs' : Forms} {but? : Option FormId}

theorem Extends.but (h : fs.Extends fs') : fs.ExtendsBut but? fs' :=
  ⟨h.nextId_le, fun hf _ => h.get hf⟩

/-- Writing a form changes that form. -/
theorem extendsBut_set (fs : Forms) (f : FormId) (q : QuickForm) :
    fs.ExtendsBut (some f) (fs.set f q) :=
  ⟨Nat.le_of_eq (nextId_set fs f q).symm, fun _ hne =>
    get_set_of_ne fs (fun heq => hne (congrArg some heq)) q⟩

/-- Putting a component back changes its own form, if it is one. -/
theorem extendsBut_putBack (fs : Forms) (c : Component FormId) (changed : Component QuickForm) :
    fs.ExtendsBut c.quickForm? (fs.putBack c changed).2 := by
  rw [putBack.eq_def]
  split
  · exact extendsBut_set fs _ _
  · exact (extends_adopt fs _).but

/-- A form that is put back is the one that was there, or a new one. -/
theorem quickForm?_putBack_cases {c : Component FormId} {changed : Component QuickForm} {f : FormId}
    (h : (fs.putBack c changed).1.quickForm? = some f) :
    c.quickForm? = some f ∨ fs.nextId ≤ f := by
  rw [putBack.eq_def] at h
  split at h
  · exact .inl h
  · exact .inr (le_of_quickForm?_adopt h)

end Forms

/-! ## Slots and regions -/

namespace Records

variable {r : Records} {a : Address} {c : Component FormId} {f : FormId}

/-- A new component is found in its slot. -/
theorem find?_mount_self (r : Records) (slot : String) (c : Component QuickForm) :
    (r.mount slot c).find? (.slot slot) = some (r.forms.adopt c).1 := by
  simp [mount, find?]

/-- A form that stands somewhere after a region has been bound is new, or stood there before. -/
theorem find?_bindRegion_cases {w : Workshop} {g : Region}
    (hc : (r.bindRegion w g).1.find? a = some c) (hf : c.quickForm? = some f) :
    r.forms.nextId ≤ f ∨ r.find? a = some c := by
  by_cases ha : a.region? = some g.id
  · cases a with
    | slot name => exact absurd ha (by simp [Address.region?])
    | bound region index =>
      obtain rfl : region = g.id := Option.some.inj ha
      rw [find?, get?_live_bindRegion, if_pos rfl, Option.bind_some] at hc
      have hnew := (references_makeRecords w g.id g.sites r.forms).2
      exact .inl (hnew f (List.mem_filterMap.2 ⟨c, List.mem_of_getElem? hc, hf⟩))
  · exact .inr (find?_bindRegion_of_ne r w ha ▸ hc)

theorem find?_of_dropRegion {g : Region} (hc : (r.dropRegion g).1.find? a = some c) :
    r.find? a = some c := by
  by_cases ha : a.region? = some g.id
  · cases a with
    | slot name => exact absurd ha (by simp [Address.region?])
    | bound region index =>
      obtain rfl : region = g.id := Option.some.inj ha
      rw [find?, get?_live_dropRegion, if_pos rfl] at hc
      cases hc
  · exact find?_dropRegion_of_ne r ha ▸ hc

end Records

namespace Op

/-- The address of what an operation uses: it is addressed to it, copies it or submits it. -/
def place? : Op → Option Address
  | invoke b _ _ | takeBack b _ | overwrite b _ _ | copy b _ | submit _ b _ _ _ => some b
  | _ => none

/-- The operation changes, copies or submits what stands at the address. -/
def Uses (a : Address) (op : Op) : Prop := op.place? = some a

instance (a : Address) : DecidablePred (Uses a) := fun op =>
  inferInstanceAs (Decidable (op.place? = some a))

theorem Targets.uses {a : Address} {op : Op} (h : op.Targets a) : op.Uses a := by
  cases op with
  | invoke | takeBack | overwrite => exact congrArg some h
  | _ => exact absurd h id

end Op

/-! ## One operation -/

namespace Session

variable {s : Session} {op : Op} {a b : Address} {f : FormId} {c : Component FormId}

theorem formAt?_of_find? (h : s.records.find? a = some c) : s.formAt? a = c.quickForm? := by
  rw [formAt?, h, Option.bind_some]

/-- By the kind of change, only the form that the operation works on is written. -/
theorem RecordsChange.extendsBut {r : Records} (h : s.RecordsChange op r) :
    s.records.forms.ExtendsBut (s.worksOn? op) r.forms := by
  cases h with
  | same | copy => exact (Forms.Extends.refl _).but
  | mount => exact (Forms.extends_adopt ..).but
  | update htargets hc =>
    rw [worksOn?_of_targets htargets, formAt?_of_find? hc, Records.forms_update]
    exact Forms.extendsBut_putBack ..
  | bind => exact (Records.extends_makeRecords ..).but
  | drop =>
    rw [Records.forms_dropRegion]
    exact (Forms.Extends.refl _).but
  | rebuild =>
    rw [Records.bindRegion_dropRegion]
    exact (Records.extends_makeRecords ..).but
  | setForm hsubmit hworks =>
    rw [hworks]
    exact Forms.extendsBut_set ..

/-- **An operation works on one form at most.** -/
theorem extendsBut_step (s : Session) (op : Op) :
    s.records.forms.ExtendsBut (s.worksOn? op) (s.step op).session.records.forms :=
  (recordsChange_step s op).extendsBut

/-- Where a form that is found afterwards comes from: it is new, or was there before, or has been
copied from another address. -/
theorem RecordsChange.form_cases {r : Records} (h : s.RecordsChange op r)
    (hc : r.find? b = some c) (hf : c.quickForm? = some f) :
    s.records.forms.nextId ≤ f ∨ s.formAt? b = some f ∨
      ∃ a slot, op = .copy a slot ∧ s.formAt? a = some f := by
  have hstood (hc : s.records.find? b = some c) : s.formAt? b = some f :=
    (formAt?_of_find? hc).trans hf
  cases h with
  | same => exact .inr (.inl (hstood hc))
  | @mount component slot element made hop hmade =>
    by_cases hb : b = .slot slot
    · subst hb
      rw [Records.find?_mount_self] at hc
      exact .inl (Forms.le_of_quickForm?_adopt (Option.some.inj hc ▸ hf))
    · exact .inr (.inl (hstood (Records.find?_mount_of_ne _ _ hb ▸ hc)))
  | @copy a slot c' hop hc' =>
    by_cases hb : b = .slot slot
    · subst hb
      obtain rfl : c' = c := by simpa [Records.find?] using hc
      exact .inr (.inr ⟨a, slot, hop, (formAt?_of_find? hc').trans hf⟩)
    · exact .inr (.inl (hstood (Records.find?_insertSlot_of_ne _ _ hb ▸ hc)))
  | @update a c' changed htargets hc' =>
    by_cases hb : b = a
    · subst hb
      rw [Records.find?_update_self hc'] at hc
      rcases Forms.quickForm?_putBack_cases (Option.some.inj hc ▸ hf) with hold | hnew
      · exact .inr (.inl ((formAt?_of_find? hc').trans hold))
      · exact .inl hnew
    · exact .inr (.inl (hstood (Records.find?_update_of_ne _ _ _ hb ▸ hc)))
  | bind hop => exact (Records.find?_bindRegion_cases hc hf).imp_right fun hc => .inl (hstood hc)
  | drop hop => exact .inr (.inl (hstood (Records.find?_of_dropRegion hc)))
  | rebuild hop =>
    rw [Records.bindRegion_dropRegion] at hc
    exact (Records.find?_bindRegion_cases hc hf).imp_right fun hc => .inl (hstood hc)
  | setForm => exact .inr (.inl (hstood ((Records.find?_setForm ..).symm.trans hc)))

/-- **Where a form comes from.**  A form that stands at an address after an operation is new, or it
stood there before, or it was copied there from where it stood. -/
theorem formAt?_step (hf : (s.step op).session.formAt? b = some f) :
    s.records.forms.nextId ≤ f ∨ s.formAt? b = some f ∨
      ∃ a slot, op = .copy a slot ∧ s.formAt? a = some f := by
  obtain ⟨c, hc, hid⟩ := Option.bind_eq_some_iff.1 hf
  exact (recordsChange_step s op).form_cases hc hid

/-- **Where a submit comes from.**  A submit that is under way after an operation was so before, or
has been started on the form at an address. -/
theorem flight_step {name : String} {flight : Flight}
    (h : (s.step op).session.flights.get? name = some flight) :
    s.flights.get? name = some flight ∨ ∃ a source watched answer,
      op = .submit name a source watched answer ∧ s.formAt? a = some flight.form := by
  by_cases hspares : op.Spares name
  · exact .inl ((get?_flights_step hspares).symm.trans h)
  · cases op with
    | submit other a source watched answer =>
      obtain rfl : other = name := by simpa [Op.Spares] using hspares
      rw [step, submit, withForm] at h
      split at h
      · rename_i f hf
        dsimp only at h
        split at h
        · exact absurd h (by simp [done, advance])
        · rw [done, TextMap.get?_insert, if_pos rfl] at h
          obtain rfl := Option.some.inj h
          exact .inr ⟨a, source, watched, none, rfl, hf⟩
        · exact absurd h (by simp [done, deliver, advance])
      · exact .inl h
    | respond other answer =>
      rw [step, respond.eq_def] at h
      split at h
      · exact .inl h
      · exact .inl h
      · obtain rfl : other = name := by simpa [Op.Spares] using hspares
        exact absurd h (by simp [done, deliver, advance])
    | cancel other =>
      obtain rfl : other = name := by simpa [Op.Spares] using hspares
      rw [step, cancel] at h
      split at h
      · exact .inl h
      · exact absurd h (by simp [done])
    | _ => exact absurd trivial hspares

/-! ## Sound sessions -/

/-- The places and the submits that are under way refer to forms in the table. -/
structure Sound (s : Session) : Prop where
  records : s.records.WellFormed
  flights : ∀ name flight, s.flights.get? name = some flight → flight.form < s.records.forms.nextId

theorem Sound.step (h : s.Sound) (op : Op) : (s.step op).session.Sound where
  records := wellFormed_step h.records op
  flights name flight hflight := by
    refine Nat.lt_of_lt_of_le ?_ (extendsBut_step s op).nextId_le
    rcases flight_step hflight with hbefore | ⟨a, source, watched, answer, -, hform⟩
    · exact h.flights name flight hbefore
    · exact lt_nextId_of_formAt? h.records hform

/-- Soundness is kept by every run. -/
theorem Sound.run (h : s.Sound) (ops : List Op) : (s.run ops).1.Sound := by
  induction ops generalizing s with
  | nil => exact h
  | cons op ops ih => exact ih (h.step op)

theorem sound_startWith (registry : Registry) (config : Config) (page : Page) (store : Store) :
    (startWith registry config page store).Sound :=
  ⟨Records.wellFormed_empty, nofun⟩

/-! ## Forms that are held alone -/

/-- The form is in the table, it stands nowhere but at the address, and no submit of it is under
way. -/
structure HoldsAlone (s : Session) (a : Address) (f : FormId) : Prop where
  inTable : f < s.records.forms.nextId
  elsewhere : ∀ b, s.formAt? b = some f → b = a
  atRest : ∀ name flight, s.flights.get? name = some flight → flight.form ≠ f

/-- An operation that does not use the place does not work on the form. -/
theorem HoldsAlone.worksOn?_ne (h : s.HoldsAlone a f) (huses : ¬op.Uses a) :
    s.worksOn? op ≠ some f := by
  intro hworks
  cases op with
  | invoke b | takeBack b | overwrite b | submit _ b =>
    exact huses (congrArg some (h.elsewhere b hworks))
  | respond name answer =>
    obtain ⟨flight, hflight, hform⟩ := Option.map_eq_some_iff.1 hworks
    exact h.atRest name flight hflight hform
  | _ => cases hworks

theorem HoldsAlone.get_step (h : s.HoldsAlone a f) (huses : ¬op.Uses a) :
    (s.step op).session.records.forms.get f = s.records.forms.get f :=
  (extendsBut_step s op).get h.inTable (h.worksOn?_ne huses)

/-- A form that is referred to from one place only stays so, unless it is used there. -/
theorem HoldsAlone.step (h : s.HoldsAlone a f) (huses : ¬op.Uses a) :
    (s.step op).session.HoldsAlone a f where
  inTable := Nat.lt_of_lt_of_le h.inTable (extendsBut_step s op).nextId_le
  elsewhere b hb := by
    rcases formAt?_step hb with hnew | hbefore | ⟨a', slot, rfl, hcopied⟩
    · exact absurd h.inTable (Nat.not_lt.2 hnew)
    · exact h.elsewhere b hbefore
    · exact absurd (congrArg some (h.elsewhere a' hcopied)) huses
  atRest name flight hflight := by
    rcases flight_step hflight with hbefore | ⟨a', source, watched, answer, rfl, hform⟩
    · exact h.atRest name flight hbefore
    · rintro rfl
      exact huses (congrArg some (h.elsewhere a' hform))

/-- The record of such a form is as it was. -/
theorem HoldsAlone.get_run {ops : List Op} (h : s.HoldsAlone a f) (huses : ∀ op ∈ ops, ¬op.Uses a) :
    (s.run ops).1.records.forms.get f = s.records.forms.get f := by
  induction ops generalizing s with
  | nil => rfl
  | cons op ops ih =>
    obtain ⟨hop, hops⟩ := List.forall_mem_cons.1 huses
    exact (ih (h.step hop) hops).trans (h.get_step hop)

/-- **A component is left alone** by operations that neither use its place nor put something else
there, if its form stands nowhere else. -/
theorem shownAt_run_of_not_uses {ops : List Op} (hc : s.records.find? a = some c)
    (halone : ∀ f, c.quickForm? = some f → s.HoldsAlone a f)
    (hops : ∀ op ∈ ops, op.Keeps a ∧ ¬op.Uses a) : (s.run ops).1.shownAt a = s.shownAt a := by
  obtain ⟨c', hc', hbecomes⟩ := becomes_run (fun op hop => (hops op hop).1) hc
  obtain rfl : c' = c := hbecomes.still fun op hop htargets => (hops op hop).2 htargets.uses
  rw [shownAt_of_find? hc', shownAt_of_find? hc]
  by_cases hkind : c'.kind = .quickForm
  · obtain ⟨f, hf⟩ := exists_quickForm?_of_kind hkind
    have hget := (halone f hf).get_run fun op hop => (hops op hop).2
    rw [resolve_of_quickForm? hf, resolve_of_quickForm? hf, hget]
  · rw [resolve_of_kind_ne hkind]

end Session
end AccountingPage
