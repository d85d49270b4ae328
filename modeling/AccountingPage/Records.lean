import AccountingPage.Component.Method

/-!
# The records of a page

A page holds records in two places: under the names of slots, and under the swappable regions that
they are bound in.  A quick form is held by reference, so that a copy of it is the same record; a
copy of any other component goes its own way.

* `Forms` is the table of quick forms, `FormId` a reference into it.
* `Records` holds table, slots and regions; `Address` is where a component is held.
* `Records.find?` and `Records.replace` read and write the component at an address, and
  `Records.update` writes a changed record back.
-/

set_option autoImplicit false

namespace AccountingPage

abbrev FormId := Nat

/-! ## Quick forms by reference -/

/-- The records of all quick forms that have been made.  A reference is an index into the table. -/
structure Forms where
  table : List QuickForm
deriving DecidableEq, Repr, Inhabited

namespace Forms

def empty : Forms := ⟨[]⟩

/-- A reference that is not in the table counts as an idle form. -/
def get (fs : Forms) (id : FormId) : QuickForm := fs.table.getD id .idle

def set (fs : Forms) (id : FormId) (f : QuickForm) : Forms := ⟨fs.table.set id f⟩

/-- The reference that the next new form gets. -/
def nextId (fs : Forms) : FormId := fs.table.length

def add (fs : Forms) (f : QuickForm) : Forms := ⟨fs.table ++ [f]⟩

@[simp] theorem nextId_set (fs : Forms) (id : FormId) (f : QuickForm) :
    (fs.set id f).nextId = fs.nextId := List.length_set

theorem get_set_self {fs : Forms} {id : FormId} (h : id < fs.nextId) (f : QuickForm) :
    (fs.set id f).get id = f := by
  have h' : id < fs.table.length := h
  simp [get, set, List.getD_eq_getElem?_getD, List.getElem?_set_self h']

theorem get_set_of_ne (fs : Forms) {id id' : FormId} (h : id ≠ id') (f : QuickForm) :
    (fs.set id f).get id' = fs.get id' := by
  simp [get, set, List.getD_eq_getElem?_getD, List.getElem?_set_ne h]

theorem get_add_nextId (fs : Forms) (f : QuickForm) : (fs.add f).get fs.nextId = f := by
  simp [get, add, nextId, List.getD_eq_getElem?_getD]

/-- A new form leaves the others as they are. -/
theorem get_add_of_lt {fs : Forms} {id : FormId} (h : id < fs.nextId) (f : QuickForm) :
    (fs.add f).get id = fs.get id := by
  have h' : id < fs.table.length := h
  simp [get, add, List.getD_eq_getElem?_getD, List.getElem?_append_left h']

/-- The component with its record in place of the reference. -/
def resolve (fs : Forms) (c : Component FormId) : Component QuickForm := c.map fs.get

/-- Takes a new component over; a quick form gets a reference of its own. -/
def adopt (fs : Forms) : Component QuickForm → Component FormId × Forms
  | .quickForm f => (.quickForm fs.nextId, fs.add f)
  | .toggle t => (.toggle t, fs)
  | .searchFilter s => (.searchFilter s, fs)
  | .sidebar s => (.sidebar s, fs)
  | .expandable e => (.expandable e, fs)
  | .disclosure d => (.disclosure d, fs)
  | .idTypePicker s => (.idTypePicker s, fs)
  | .voidConfirmation v => (.voidConfirmation v, fs)
  | .percentageSwitch p => (.percentageSwitch p, fs)
  | .nav n => (.nav n, fs)
  | .transactionForm f => (.transactionForm f, fs)

/-- What has been taken over is found again. -/
theorem resolve_adopt (fs : Forms) (c : Component QuickForm) :
    (fs.adopt c).2.resolve (fs.adopt c).1 = c := by
  cases c <;> simp [adopt, resolve, Component.map, get_add_nextId]

/-- Writes a changed record back: a quick form into the table, any other into the component. -/
def putBack (fs : Forms) : Component FormId → Component QuickForm → Component FormId × Forms
  | .quickForm id, .quickForm f => (.quickForm id, fs.set id f)
  | _, c => fs.adopt c

end Forms

/-! ## Slots and regions -/

/-- Where a component is held: in a slot, or in a region, at a place among its records. -/
inductive Address where
  | slot (name : String)
  | bound (region : String) (index : Nat)
deriving DecidableEq, Repr

/-- All that a page holds. -/
structure Records where
  forms : Forms
  slots : TextMap (Component FormId)
  /-- The records of each region that is bound, in the order of their elements. -/
  live : TextMap (List (Component FormId))

namespace Records

def empty : Records := ⟨.empty, .empty, .empty⟩

instance : Inhabited Records := ⟨empty⟩

def find? (r : Records) : Address → Option (Component FormId)
  | .slot name => r.slots.get? name
  | .bound region index => (r.live.get? region).bind (·[index]?)

/-- Puts a component where one is held already. -/
def replace (r : Records) (c : Component FormId) : Address → Records
  | .slot name => { r with slots := r.slots.insert name c }
  | .bound region index =>
    match r.live.get? region with
    | some cs => { r with live := r.live.insert region (cs.set index c) }
    | none => r

/-- The component as markup sees it, with the record of a form in place of the reference. -/
def resolve (r : Records) (c : Component FormId) : Component QuickForm := r.forms.resolve c

/-- Writes back what has become of the component `c` at an address. -/
def update (r : Records) (a : Address) (c : Component FormId) (changed : Component QuickForm) :
    Records :=
  let (c, forms) := r.forms.putBack c changed
  { r with forms := forms }.replace c a

/-- Takes a new component over into a slot. -/
def mount (r : Records) (slot : String) (c : Component QuickForm) : Records :=
  let (c, forms) := r.forms.adopt c
  { r with forms := forms, slots := r.slots.insert slot c }

def setForm (r : Records) (id : FormId) (f : QuickForm) : Records :=
  { r with forms := r.forms.set id f }

/-- The records of a region, if it is bound. -/
def bound? (r : Records) (region : String) : Option (List (Component QuickForm)) :=
  (r.live.get? region).map fun cs => cs.map r.resolve

end Records

end AccountingPage
