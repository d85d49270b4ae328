import AccountingPage.Proofs.Addresses
import AccountingPage.Proofs.TextMap

/-!
# Properties that markup writes back

Before markup calls a method, everything that it shows of a component is written back, whether or
not the component lets markup write it.

* `Kind.writable` lists the few properties that are taken, and what their values must be.
* `Kind.overlay` is what two writings one after the other come to.
* `Component.get?_props_takeBack` says what a component shows then, property by property.
* `Session.takeBack_lawful` are the laws of writing back, of a component and in a session.
-/

set_option autoImplicit false

namespace AccountingPage

/-! ## What is taken -/

/-- What the value of a property must be. -/
inductive ValueType where
  | text
  | flag
deriving DecidableEq, Repr

def ValueType.holds : ValueType → Json.Value → Bool
  | text, .string _ => true
  | flag, .boolean _ => true
  | _, _ => false

namespace Kind

/-- The properties that markup may write. -/
def writable : Kind → List (String × ValueType)
  | idTypePicker => [("idType", .text)]
  | voidConfirmation => [("voidReason", .text), ("confirmVoid", .flag)]
  | transactionForm => [("description", .text)]
  | _ => []

/-- A property is taken if it may be written and its value, if there is one, is of its type. -/
def takes (k : Kind) (key : String) (value? : Option Json.Value) : Bool :=
  k.writable.any fun w => w.1 == key && value?.any w.2.holds

/-- Lays what is written of one property over what is there, if it is of the type. -/
def layOver (q : Component.Props) (r : Component.Props) (w : String × ValueType) :
    Component.Props :=
  match (q.get? w.1).filter w.2.holds with
  | some v => r.insert w.1 v
  | none => r

/-- The first writing with the second one on top, as far as that is taken. -/
def overlay (k : Kind) (p q : Component.Props) : Component.Props := k.writable.foldl (layOver q) p

theorem get?_layOver (q r : Component.Props) (w : String × ValueType) (key : String) :
    (layOver q r w).get? key =
      if w.1 == key && (q.get? key).any w.2.holds then q.get? key else r.get? key := by
  rw [layOver]
  by_cases hkey : w.1 = key
  · subst hkey
    cases hq : q.get? w.1 with
    | none => simp
    | some v => cases hv : w.2.holds v <;> simp [Option.filter, hv]
  · split <;> simp [hkey]

theorem get?_overlay (k : Kind) (p q : Component.Props) (key : String) :
    (k.overlay p q).get? key = if k.takes key (q.get? key) then q.get? key else p.get? key := by
  rw [overlay, takes]
  induction k.writable generalizing p with
  | nil => rfl
  | cons w ws ih =>
    rw [List.foldl_cons, ih, get?_layOver, List.any_cons]
    by_cases hrest : ws.any fun w => w.1 == key && (q.get? key).any w.2.holds
    · rw [hrest, Bool.or_true, if_pos rfl, if_pos rfl]
    · rw [Bool.eq_false_iff.2 hrest, Bool.or_false, if_neg Bool.false_ne_true]

end Kind

/-! ## The laws of writing back -/

namespace Component

/-- A text in a record, written back: the property is what was written if that is a text. -/
theorem some_text (v? : Option Json.Value) (s : String) :
    some (Json.Value.string ((v?.bind Json.Value.text?).getD s)) =
      if v?.any ValueType.text.holds then v? else some (.string s) := by
  cases v? with
  | none => rfl
  | some v => cases v <;> rfl

/-- A flag in a record, written back. -/
theorem some_flag (v? : Option Json.Value) (b : Bool) :
    some (Json.Value.boolean ((v?.bind Json.Value.boolean?).getD b)) =
      if v?.any ValueType.flag.holds then v? else some (.boolean b) := by
  cases v? with
  | none => rfl
  | some v => cases v <;> rfl

/-- A text in a record, written back twice. -/
theorem getD_text_overlay (p? q? : Option Json.Value) (s : String) :
    ((if q?.any ValueType.text.holds then q? else p?).bind Json.Value.text?).getD s =
      (q?.bind Json.Value.text?).getD ((p?.bind Json.Value.text?).getD s) := by
  cases q? with
  | none => rfl
  | some v => cases v <;> rfl

/-- A flag in a record, written back twice. -/
theorem getD_flag_overlay (p? q? : Option Json.Value) (b : Bool) :
    ((if q?.any ValueType.flag.holds then q? else p?).bind Json.Value.boolean?).getD b =
      (q?.bind Json.Value.boolean?).getD ((p?.bind Json.Value.boolean?).getD b) := by
  cases q? with
  | none => rfl
  | some v => cases v <;> rfl

theorem takeBack_takeBack {φ : Type} (c : Component φ) (p q : Props) :
    (c.takeBack p).takeBack q = c.takeBack (c.kind.overlay p q) := by
  cases c <;> simp [takeBack, kind, Kind.get?_overlay, Kind.takes, Kind.writable,
    getD_text_overlay, getD_flag_overlay, TransactionForm.enterDescription]

theorem takeBack_props (c : Component QuickForm) : c.takeBack c.props = c := by
  cases c <;> simp [takeBack, props, properties, TextMap.get?_ofList, TextMap.lookupEntry,
    Json.Value.text?, Json.Value.boolean?, TransactionForm.enterDescription]

/-- **What is taken shows, and everything else is what it was.** -/
theorem get?_props_takeBack (c : Component QuickForm) (p : Props) (key : String) :
    (c.takeBack p).props.get? key =
      if c.kind.takes key (p.get? key) then p.get? key else c.props.get? key := by
  cases c with
  | idTypePicker s =>
    simp only [takeBack, props, properties, TextMap.get?_ofList, kind, Kind.takes, Kind.writable]
    by_cases hkey : "idType" = key
    · subst hkey
      simp [TextMap.lookupEntry, some_text]
    · simp [TextMap.lookupEntry, hkey]
  | voidConfirmation v =>
    simp only [takeBack, props, properties, TextMap.get?_ofList, kind, Kind.takes, Kind.writable]
    by_cases hreason : "voidReason" = key
    · subst hreason
      simp [TextMap.lookupEntry, some_text]
    · by_cases hconfirm : "confirmVoid" = key
      · subst hconfirm
        simp [TextMap.lookupEntry, some_flag]
      · simp [TextMap.lookupEntry, hreason, hconfirm]
  | transactionForm f =>
    simp only [takeBack, props, properties, TextMap.get?_ofList, kind, Kind.takes, Kind.writable]
    by_cases hkey : "description" = key
    · subst hkey
      simp [TextMap.lookupEntry, TransactionForm.enterDescription, some_text]
    · simp [TextMap.lookupEntry, TransactionForm.enterDescription,
        TransactionForm.formattedAmount, hkey]
  | _ => rfl

/-- Writing the same twice is writing it once. -/
theorem takeBack_idem {φ : Type} (c : Component φ) (p : Props) :
    (c.takeBack p).takeBack p = c.takeBack p := by
  have hsame : c.kind.overlay p p = p :=
    TextMap.ext_get? fun key => (Kind.get?_overlay ..).trans (ite_self _)
  rw [takeBack_takeBack, hsame]

theorem takeBack_map {φ ψ : Type} (g : φ → ψ) (c : Component φ) (p : Props) :
    (c.map g).takeBack p = (c.takeBack p).map g := by
  cases c <;> rfl

end Component

namespace Session

variable {s : Session} {a : Address} {c : Component FormId}

/-- Writing back changes what stands at the address, and nothing else of the session. -/
theorem step_takeBack (hc : s.records.find? a = some c) (p : Component.Props) :
    s.step (.takeBack a p) =
      ⟨{ s with records := s.records.replace (c.takeBack p) a },
        .component ((s.records.resolve c).takeBack p), []⟩ := by
  rw [step, change, withComponent, hc]
  simp only [Records.update_takeBack]
  rfl

theorem step_takeBack_of_none (hc : s.records.find? a = none) (p : Component.Props) :
    s.step (.takeBack a p) = ⟨s, .missing, []⟩ := by
  rw [step, change, withComponent, hc]
  rfl

/-- **Writing back is lawful.**  Of any component: writing back what it shows leaves it as it is;
after any writing a property shows what was written if it is taken, and else what it was; writing
twice is writing once; two writings come to one, with what is taken of the second over the first;
and the kind stays.  In any session: the operation does nothing but this to the component that it is
addressed to, no effect comes of it, and the store, the forms and all other components are as
before. -/
theorem takeBack_lawful (c : Component QuickForm) (p q : Component.Props) (s : Session)
    (a : Address) :
    c.takeBack c.props = c ∧
      (∀ key, (c.takeBack p).props.get? key =
        if c.kind.takes key (p.get? key) then p.get? key else c.props.get? key) ∧
      (c.takeBack p).takeBack p = c.takeBack p ∧
      (c.takeBack p).takeBack q = c.takeBack (c.kind.overlay p q) ∧
      (∀ key, (c.kind.overlay p q).get? key =
        if c.kind.takes key (q.get? key) then q.get? key else p.get? key) ∧
      (c.takeBack p).kind = c.kind ∧
      (s.step (.takeBack a p)).effects = [] ∧
      (∃ records, (s.step (.takeBack a p)).session = { s with records := records } ∧
        records.forms = s.records.forms) ∧
      (s.step (.takeBack a p)).session.shownAt a =
        (s.shownAt a).map (Component.takeBack p) ∧
      ∀ b, b ≠ a → (s.step (.takeBack a p)).session.shownAt b = s.shownAt b := by
  refine ⟨c.takeBack_props, c.get?_props_takeBack p, c.takeBack_idem p, c.takeBack_takeBack p q,
    c.kind.get?_overlay p q, c.kind_takeBack p, ?_⟩
  cases hc : s.records.find? a with
  | none =>
    rw [step_takeBack_of_none hc]
    exact ⟨rfl, ⟨s.records, rfl, rfl⟩, by rw [shownAt, hc]; rfl, fun b _ => rfl⟩
  | some c' =>
    rw [step_takeBack hc]
    refine ⟨rfl, ⟨_, rfl, Records.forms_replace ..⟩, ?_, fun b hb => ?_⟩
    · rw [shownAt, shownAt, hc, Records.find?_replace_self hc, Records.resolve_replace]
      exact congrArg some (Component.takeBack_map ..).symm
    · rw [shownAt, shownAt, Records.find?_replace_of_ne _ _ hb, Records.resolve_replace]

end Session
end AccountingPage
