import AccountingPage.Proofs.Operations
import AccountingPage.Proofs.TextMap

/-!
# What stands at an address

Operations find a component by its address and put back what has become of it.  Here is what that
does to the address itself and to all the others.

* `Records.find?_update_self` and `find?_update_of_ne` are the frame of a change, and
  `Records.update_resolve` says that putting back what was found is none.
* `Session.shownAt` is the component at an address as markup sees it.
* `Op.Keeps` are the operations that put nothing else in the place of what stands at an address.
* `Session.find?_step_of_not_targets` says that an operation which does not, and is not addressed to
  it either, leaves what stands there as it is.
-/

set_option autoImplicit false

namespace AccountingPage

/-! ## Putting a component back -/

namespace Forms

variable {fs : Forms} {c : Component FormId} {changed : Component QuickForm}

/-- A component that has not changed its kind goes back as one of its kind. -/
theorem kind_putBack (h : changed.kind = c.kind) : (fs.putBack c changed).1.kind = c.kind := by
  cases c <;> cases changed <;> simp_all [Component.kind, putBack, adopt]

/-- A form stays the form that it was, and nothing else becomes one. -/
theorem quickForm?_putBack (h : changed.kind = c.kind) :
    (fs.putBack c changed).1.quickForm? = c.quickForm? := by
  cases c <;> cases changed <;> simp_all [Component.kind, Component.quickForm?, putBack, adopt]

/-- What markup writes back goes to no form. -/
theorem putBack_takeBack (props : Component.Props) :
    fs.putBack c ((fs.resolve c).takeBack props) = (c.takeBack props, fs) := by
  cases c with
  | quickForm id => simp [resolve, Component.map, Component.takeBack, putBack, set_get]
  | _ => rfl

/-- To put a component back unchanged changes neither it nor any form. -/
theorem putBack_resolve (fs : Forms) (c : Component FormId) :
    fs.putBack c (fs.resolve c) = (c, fs) := by
  cases c with
  | quickForm id => simp [resolve, Component.map, putBack, set_get]
  | _ => rfl

/-- What is put back is found again. -/
theorem resolve_putBack (h : fs.Has c) (changed : Component QuickForm) :
    (fs.putBack c changed).2.resolve (fs.putBack c changed).1 = changed := by
  rw [putBack.eq_def]
  split
  · exact congrArg Component.quickForm (get_set_self (h _ rfl) _)
  · exact resolve_adopt ..

end Forms

namespace Records

variable {r : Records} {a b : Address} {c c' : Component FormId}

/-- What is put at an address is found there.  Something must have been there before, or there would
be no region to put it in. -/
theorem find?_replace_self (h : r.find? a = some c) (c' : Component FormId) :
    (r.replace c' a).find? a = some c' := by
  cases a with
  | slot name => simp [find?, replace]
  | bound region index =>
    obtain ⟨cs, hcs, hget⟩ := Option.bind_eq_some_iff.1 h
    obtain ⟨hlt, -⟩ := List.getElem?_eq_some_iff.1 hget
    simp [find?, replace, hcs, hlt]

/-- What is put at an address is found nowhere else. -/
theorem find?_replace_of_ne (r : Records) (c' : Component FormId) (h : b ≠ a) :
    (r.replace c' a).find? b = r.find? b := by
  cases a with
  | slot name =>
    cases b with
    | slot name' =>
      have hne : name ≠ name' := fun heq => h (heq ▸ rfl)
      simp [find?, replace, hne]
    | bound region index => rfl
  | bound region index =>
    rw [replace]
    split
    · rename_i cs hcs
      cases b with
      | slot name => rfl
      | bound region' index' =>
        by_cases hregion : region = region'
        · subst hregion
          have hne : index ≠ index' := fun heq => h (heq ▸ rfl)
          simp [find?, hcs, hne]
        · simp [find?, hregion]
    · rfl

/-- To put a component where it stands changes nothing. -/
theorem replace_self (h : r.find? a = some c) : r.replace c a = r := by
  cases a with
  | slot name =>
    have hslots : r.slots.insert name c = r.slots := TextMap.insert_of_get? h
    rw [replace, hslots]
  | bound region index =>
    obtain ⟨cs, hcs, hget⟩ := Option.bind_eq_some_iff.1 h
    obtain ⟨hlt, rfl⟩ := List.getElem?_eq_some_iff.1 hget
    have hset : cs.set index cs[index] = cs := List.set_getElem_self hlt
    have hlive : r.live.insert region cs = r.live := TextMap.insert_of_get? hcs
    rw [replace, hcs]
    simp only [hset, hlive]

/-- Putting a component somewhere changes no form. -/
theorem resolve_replace (r : Records) (c : Component FormId) (a : Address) :
    (r.replace c a).resolve = r.resolve := by
  funext c'
  rw [resolve, resolve, forms_replace]

/-- Which component stands at an address does not depend on the forms. -/
theorem find?_withForms (r : Records) (fs : Forms) (a : Address) :
    { r with forms := fs }.find? a = r.find? a := by
  cases a <;> rfl

/-- A change is found where it was made. -/
theorem find?_update_self (h : r.find? a = some c) (changed : Component QuickForm) :
    (r.update a c changed).find? a = some (r.forms.putBack c changed).1 :=
  find?_replace_self ((find?_withForms ..).trans h) _

/-- The other addresses hold what they held.  A form may have changed behind their references. -/
theorem find?_update_of_ne (r : Records) (c : Component FormId) (changed : Component QuickForm)
    (h : b ≠ a) : (r.update a c changed).find? b = r.find? b :=
  (find?_replace_of_ne _ _ h).trans (find?_withForms ..)

/-- To put back what was found changes nothing. -/
theorem update_resolve (h : r.find? a = some c) : r.update a c (r.resolve c) = r := by
  rw [update, resolve, Forms.putBack_resolve]
  exact replace_self h

/-- A change that is put back is what is found from then on. -/
theorem resolve_update (h : r.forms.Has c) (changed : Component QuickForm) :
    (r.update a c changed).resolve (r.forms.putBack c changed).1 = changed := by
  rw [resolve, forms_update, Forms.resolve_putBack h]

/-- What markup writes back changes what stands at the address, and no form. -/
theorem update_takeBack (r : Records) (a : Address) (c : Component FormId)
    (props : Component.Props) :
    r.update a c ((r.resolve c).takeBack props) = r.replace (c.takeBack props) a := by
  rw [update, resolve, Forms.putBack_takeBack]

end Records

namespace Address

/-- The region that the address is in. -/
def region? : Address → Option String
  | slot _ => none
  | bound region _ => some region

end Address

namespace Op

/-- The operation puts nothing else in the place of what stands at the address. -/
def Keeps (a : Address) : Op → Prop
  | mount _ slot _ | copy _ slot => a ≠ .slot slot
  | bindRegion g | dropRegion g | rebuild g _ _ => a.region? ≠ some g.id
  | _ => True

instance (a : Address) : DecidablePred (Keeps a) := fun op => by
  unfold Keeps
  split <;> infer_instance

end Op

namespace Records

variable {r : Records} {a : Address}

theorem find?_insertSlot_of_ne (r : Records) {slot : String} (c : Component FormId)
    (h : a ≠ .slot slot) : { r with slots := r.slots.insert slot c }.find? a = r.find? a := by
  cases a with
  | slot name =>
    have hne : slot ≠ name := fun heq => h (heq ▸ rfl)
    simp [find?, hne]
  | bound region index => rfl

theorem find?_mount_of_ne (r : Records) {slot : String} (c : Component QuickForm)
    (h : a ≠ .slot slot) : (r.mount slot c).find? a = r.find? a :=
  (find?_insertSlot_of_ne _ _ h).trans (find?_withForms ..)

theorem find?_bindRegion_of_ne (r : Records) (w : Workshop) {g : Region}
    (h : a.region? ≠ some g.id) : (r.bindRegion w g).1.find? a = r.find? a := by
  cases a with
  | slot name => rfl
  | bound region index =>
    have hne : g.id ≠ region := fun heq => h (heq ▸ rfl)
    simp [find?, bindRegion, hne]

theorem find?_dropRegion_of_ne (r : Records) {g : Region} (h : a.region? ≠ some g.id) :
    (r.dropRegion g).1.find? a = r.find? a := by
  rw [dropRegion]
  split
  · cases a with
    | slot name => rfl
    | bound region index =>
      have hne : g.id ≠ region := fun heq => h (heq ▸ rfl)
      simp [find?, hne]
  · rfl

theorem find?_setForm (r : Records) (id : FormId) (f : QuickForm) (a : Address) :
    (r.setForm id f).find? a = r.find? a :=
  find?_withForms ..

end Records

namespace Session

variable {s : Session} {a b : Address}

/-- The component at an address, as markup sees it. -/
def shownAt (s : Session) (a : Address) : Option (Component QuickForm) :=
  (s.records.find? a).map s.records.resolve

/-- The frame of a change: by the kind of change, what it does not put something at stays. -/
theorem RecordsChange.find?_of_not_targets {op : Op} {r : Records} (h : s.RecordsChange op r)
    (hkeeps : op.Keeps a) (htargets : ¬op.Targets a) : r.find? a = s.records.find? a := by
  cases h with
  | same => rfl
  | mount hop hmade =>
    subst hop
    exact Records.find?_mount_of_ne _ _ hkeeps
  | copy hop hc =>
    subst hop
    exact Records.find?_insertSlot_of_ne _ _ hkeeps
  | update hother hc =>
    exact Records.find?_update_of_ne _ _ _ fun heq => htargets (heq ▸ hother)
  | bind hop =>
    subst hop
    exact Records.find?_bindRegion_of_ne _ _ hkeeps
  | drop hop =>
    subst hop
    exact Records.find?_dropRegion_of_ne _ hkeeps
  | rebuild hop =>
    subst hop
    exact (Records.find?_bindRegion_of_ne _ _ hkeeps).trans
      (Records.find?_dropRegion_of_ne _ hkeeps)
  | setForm => exact Records.find?_setForm ..

/-- An operation that is addressed elsewhere leaves what stands at an address as it is. -/
theorem find?_step_of_not_targets {op : Op} (hkeeps : op.Keeps a) (htargets : ¬op.Targets a) :
    (s.step op).session.records.find? a = s.records.find? a :=
  (recordsChange_step s op).find?_of_not_targets hkeeps htargets

end Session
end AccountingPage
