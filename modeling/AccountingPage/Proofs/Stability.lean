import AccountingPage.Proofs.Addresses
import AccountingPage.Proofs.Calls
import AccountingPage.Proofs.Grouping
import AccountingPage.Proofs.SubmitTrace
import AccountingPage.Proofs.TextMap

/-!
# What stays of a component

Markup is bound to the names of properties, once and for all, so a component must show the same
properties whatever is done to it, and those that are derived must follow the others.

* `Kind.schema` are the names of the properties of each kind.
* `Component.DerivedAgree` says how the derived properties follow from the others.
* `Op.query?` is the text that an operation gives to the query of a search filter, `lastQuery?` the
  last one of a run.
* `Session.Becomes` is what some operations make of what stands at an address that they keep,
  `Session.becomes_step` and `becomes_run` prove it.
* `Session.copies` are the places where the copies of a component stand after a run, and
  `Session.Alike` says that they are of one kind and, if they are forms, one form.
* `Session.components_stable` is what follows for every run.
-/

set_option autoImplicit false

namespace AccountingPage

/-! ## Names of properties, and derived ones -/

theorem Amount.format_eq_empty_iff {a : Amount} : a.format = "" ↔ a = 0 := by
  constructor
  · intro h
    rw [← parse_format a, h]
    rfl
  · rintro rfl
    exact format_zero

/-- The names of the properties of a kind. -/
def Kind.schema : Kind → List String
  | toggle => ["open"]
  | searchFilter => ["open", "hasQuery"]
  | sidebar => ["sidebarOpen"]
  | expandable => ["expanded"]
  | disclosure => ["show"]
  | idTypePicker => ["idType"]
  | voidConfirmation => ["voidReason", "confirmVoid"]
  | percentageSwitch => ["isPercentage"]
  | nav => ["open"]
  | transactionForm => ["amount", "description", "submitting", "notSubmitting", "formattedAmount"]
  | quickForm => ["amount", "submitting", "formattedAmount", "submitButtonText"]

namespace Component

/-- A component has the properties of its kind, in their order. -/
theorem map_fst_properties (c : Component QuickForm) :
    c.properties.map Prod.fst = c.kind.schema := by
  cases c <;> rfl

/-- No property is listed twice, so the properties are what is listed. -/
theorem get?_props_eq_some_iff (c : Component QuickForm) (key : String) (v : Json.Value) :
    c.props.get? key = some v ↔ (key, v) ∈ c.properties := by
  have hnodup : (c.properties.map Prod.fst).Nodup := by
    rw [map_fst_properties]
    cases c.kind <;> decide
  rw [props, TextMap.get?_ofList, TextMap.lookupEntry_eq_some_iff, List.mem_reverse]
  rw [List.map_reverse]
  exact List.nodup_reverse.2 hnodup

/-- A component shows the properties of its kind, and no others. -/
theorem isSome_get?_props (c : Component QuickForm) (key : String) :
    (c.props.get? key).isSome ↔ key ∈ c.kind.schema := by
  rw [← map_fst_properties, Option.isSome_iff_exists]
  constructor
  · rintro ⟨v, hv⟩
    exact List.mem_map_of_mem (f := Prod.fst) ((get?_props_eq_some_iff c key v).1 hv)
  · intro hkey
    obtain ⟨⟨key, v⟩, hmem, rfl⟩ := List.mem_map.1 hkey
    exact ⟨v, (get?_props_eq_some_iff c key v).2 hmem⟩

/-- The derived properties follow the others: the grouped amount is the amount, and empty for zero;
nothing is shown as not being submitted that is; and the button says that it is saving while it
is. -/
structure DerivedAgree (props : Props) : Prop where
  formattedAmount : ∀ v, props.get? "formattedAmount" = some v → ∃ text : String,
    v = .string text ∧
      props.get? "amount" = some (.number (.integer (Amount.parse text).toNat)) ∧
        (text = "" ↔ Amount.parse text = 0)
  notSubmitting : ∀ v, props.get? "notSubmitting" = some v → ∃ submitting : Bool,
    props.get? "submitting" = some (.boolean submitting) ∧ v = .boolean !submitting
  submitButtonText : ∀ v, props.get? "submitButtonText" = some v → ∃ submitting text,
    props.get? "submitting" = some (.boolean submitting) ∧ v = .string text ∧
      (text = "Menyimpan..." ↔ submitting = true)

theorem draftLabel_eq_saving_iff (submitting : Bool) :
    draftLabel submitting = "Menyimpan..." ↔ submitting = true := by
  cases submitting <;> decide

/-- **Derived properties agree with the record**, for every component. -/
theorem derivedAgree_props (c : Component QuickForm) : DerivedAgree c.props where
  formattedAmount v hv := by
    rw [get?_props_eq_some_iff] at hv
    simp only [get?_props_eq_some_iff]
    cases c with
    | transactionForm f =>
      obtain rfl : v = .string f.formattedAmount := by simpa [properties] using hv
      have hparse : Amount.parse f.formattedAmount = f.amount := Amount.parse_format f.amount
      refine ⟨_, rfl, by simp [properties, hparse, Draft.amountValue], ?_⟩
      rw [hparse]
      exact Amount.format_eq_empty_iff
    | quickForm f =>
      obtain rfl : v = .string f.formattedAmount := by simpa [properties] using hv
      have hparse : Amount.parse f.formattedAmount = f.amount := Amount.parse_format f.amount
      refine ⟨_, rfl, by simp [properties, hparse, Draft.amountValue], ?_⟩
      rw [hparse]
      exact Amount.format_eq_empty_iff
    | _ => exact absurd hv (by simp [properties])
  notSubmitting v hv := by
    rw [get?_props_eq_some_iff] at hv
    simp only [get?_props_eq_some_iff]
    cases c with
    | transactionForm f =>
      obtain rfl : v = .boolean !f.submitting := by simpa [properties] using hv
      exact ⟨f.submitting, by simp [properties], rfl⟩
    | _ => exact absurd hv (by simp [properties])
  submitButtonText v hv := by
    rw [get?_props_eq_some_iff] at hv
    simp only [get?_props_eq_some_iff]
    cases c with
    | quickForm f =>
      obtain rfl : v = .string f.label := by simpa [properties] using hv
      exact ⟨f.submitting, _, by simp [properties], rfl, draftLabel_eq_saving_iff _⟩
    | _ => exact absurd hv (by simp [properties])

/-! ## Queries -/

variable {φ ψ : Type}

/-- Whether a search filter has a query. -/
def hasQuery? : Component φ → Option Bool
  | searchFilter s => some s.hasQuery
  | _ => none

theorem hasQuery?_eq_none {c : Component φ} (h : c.kind ≠ .searchFilter) : c.hasQuery? = none := by
  cases c <;> first | rfl | exact absurd rfl h

theorem hasQuery?_map (g : φ → ψ) (c : Component φ) : (c.map g).hasQuery? = c.hasQuery? := by
  cases c <;> rfl

theorem get?_props_hasQuery (c : Component QuickForm) :
    c.props.get? "hasQuery" = c.hasQuery?.map Json.Value.boolean := by
  rw [props, TextMap.get?_ofList]
  cases c <;> simp [properties, TextMap.lookupEntry, hasQuery?]

/-- The text that a call gives to the query. -/
def queryText (name : String) (inputs : Inputs) : Option String :=
  if name = Method.updateHasQuery.name then inputs.field else none

/-- There is a query if the text was not empty, and without a text all stays as it was. -/
def queried (text? : Option String) (before : Bool) : Bool :=
  match text? with
  | some text => text ≠ ""
  | none => before

/-- A query changes by the text that a call gives to it.  A call that is refused gives none. -/
theorem hasQuery?_invoke (page : Page) (config : Config) (name : String) (inputs : Inputs)
    (c : Component QuickForm) :
    (c.invoke page config name inputs).component.hasQuery? =
      c.hasQuery?.map (queried (queryText name inputs)) := by
  by_cases hkind : c.kind = .searchFilter
  · cases c with
    | searchFilter s =>
      obtain ⟨field, hidden⟩ := inputs
      rw [invoke.eq_def]
      dsimp only
      split
      · rfl
      · rfl
      · rfl
      · cases field <;> rfl
      · rename_i hname
        have hnone : queryText name ⟨field, hidden⟩ = none := if_neg hname
        rw [hnone]
        rfl
    | _ => exact absurd hkind (by simp [kind])
  · have hkept := (keeps_invoke page config name inputs c).kind
    rw [hasQuery?_eq_none hkind, hasQuery?_eq_none (hkept ▸ hkind)]
    rfl

theorem hasQuery?_takeBack (props : Props) (c : Component φ) :
    (c.takeBack props).hasQuery? = c.hasQuery? := by
  cases c <;> rfl

end Component

theorem Session.kind_setFields (amount : Option Amount) (submitting : Option Bool)
    (c : Component QuickForm) : (setFields amount submitting c).kind = c.kind := by
  cases c <;> rfl

theorem Session.hasQuery?_setFields (amount : Option Amount) (submitting : Option Bool)
    (c : Component QuickForm) : (setFields amount submitting c).hasQuery? = c.hasQuery? := by
  cases c <;> rfl

/-- Putting a component back does not touch a query. -/
theorem Forms.hasQuery?_putBack {fs : Forms} {c : Component FormId} {changed : Component QuickForm}
    (h : changed.kind = c.kind) : (fs.putBack c changed).1.hasQuery? = changed.hasQuery? := by
  cases c <;> cases changed <;>
    simp_all [Component.kind, Component.hasQuery?, putBack, adopt]

namespace Op

/-- The text that an operation gives to the query at an address. -/
def query? (a : Address) : Op → Option String
  | invoke b method inputs => if b = a then Component.queryText method inputs else none
  | _ => none

/-- The last text that is given to the query at an address. -/
def lastQuery? (a : Address) : List Op → Option String
  | [] => none
  | op :: ops => (lastQuery? a ops).or (op.query? a)

end Op

/-! ## One operation, and a run -/

namespace Session

variable {s : Session} {a b : Address} {c c' : Component FormId} {ops : List Op}

/-- What some operations make of what stands at an address that they keep. -/
structure Becomes (a : Address) (ops : List Op) (c c' : Component FormId) : Prop where
  kind : c'.kind = c.kind
  form : c'.quickForm? = c.quickForm?
  /-- There is a query if the last text for it was not empty; without any it is as before. -/
  query : c'.hasQuery? = c.hasQuery?.map (Component.queried (Op.lastQuery? a ops))
  still : (∀ op ∈ ops, ¬op.Targets a) → c' = c

theorem Becomes.nil (a : Address) (c : Component FormId) : Becomes a [] c c :=
  ⟨rfl, rfl, (Option.map_id' ..).symm, fun _ => rfl⟩

/-- Of two texts that are given to a query the later one counts. -/
theorem queried_or (text? text?' : Option String) (before : Bool) :
    Component.queried (text?.or text?') before =
      Component.queried text? (Component.queried text?' before) := by
  cases text? <;> rfl

/-- What one operation makes of a component, and then some others. -/
theorem Becomes.cons {op : Op} {c'' : Component FormId} (h : Becomes a [op] c c')
    (h' : Becomes a ops c' c'') : Becomes a (op :: ops) c c'' where
  kind := h'.kind.trans h.kind
  form := h'.form.trans h.form
  query := by
    rw [h'.query, h.query, Option.map_map]
    refine congrArg (fun g => c.hasQuery?.map g) (funext fun before => ?_)
    exact (queried_or ..).symm
  still hops := by
    obtain ⟨hop, hops⟩ := List.forall_mem_cons.1 hops
    rw [h'.still hops, h.still (List.forall_mem_singleton.2 hop)]

theorem lastQuery?_singleton (a : Address) (op : Op) : Op.lastQuery? a [op] = op.query? a := rfl

theorem query?_of_not_targets {op : Op} (h : ¬op.Targets a) : op.query? a = none := by
  cases op with
  | invoke b method inputs => exact if_neg h
  | _ => rfl

/-- A change of the component at an address. -/
theorem becomes_update {op : Op} (htargets : op.Targets a) (hc : s.records.find? a = some c)
    {changed : Component QuickForm} (hkind : changed.kind = c.kind)
    (hquery : changed.hasQuery? = c.hasQuery?.map (Component.queried (op.query? a))) :
    ∃ c', (s.records.update a c changed).find? a = some c' ∧ Becomes a [op] c c' :=
  ⟨_, Records.find?_update_self hc changed, Forms.kind_putBack hkind,
    Forms.quickForm?_putBack hkind, (Forms.hasQuery?_putBack hkind).trans hquery,
    fun h => absurd htargets (h op List.mem_cons_self)⟩

/-- **What one operation makes of what stands at an address.** -/
theorem becomes_step {op : Op} (hkeeps : op.Keeps a) (hc : s.records.find? a = some c) :
    ∃ c', (s.step op).session.records.find? a = some c' ∧ Becomes a [op] c c' := by
  have hkind : (s.records.resolve c).kind = c.kind := Component.kind_map _ c
  have hquery : (s.records.resolve c).hasQuery? = c.hasQuery? := Component.hasQuery?_map _ c
  by_cases htargets : op.Targets a
  · cases op with
    | invoke b method inputs =>
      have hb : b = a := htargets
      subst hb
      have htext : (Op.invoke b method inputs).query? b = Component.queryText method inputs :=
        if_pos rfl
      rw [step_invoke hc rfl]
      refine becomes_update htargets hc ((Component.keeps_invoke ..).kind.trans hkind) ?_
      rw [htext, ← hquery]
      exact Component.hasQuery?_invoke ..
    | takeBack b props =>
      have hb : b = a := htargets
      subst hb
      rw [step, change, withComponent_of_find? hc]
      exact becomes_update htargets hc ((Component.kind_takeBack ..).trans hkind)
        (((Component.hasQuery?_takeBack ..).trans hquery).trans (Option.map_id' ..).symm)
    | overwrite b amount submitting =>
      have hb : b = a := htargets
      subst hb
      rw [step, change, withComponent_of_find? hc]
      exact becomes_update htargets hc ((kind_setFields ..).trans hkind)
        (((hasQuery?_setFields ..).trans hquery).trans (Option.map_id' ..).symm)
    | _ => exact absurd htargets (by simp [Op.Targets])
  · refine ⟨c, (find?_step_of_not_targets hkeeps htargets).trans hc, rfl, rfl, ?_, fun _ => rfl⟩
    rw [lastQuery?_singleton, query?_of_not_targets htargets]
    exact (Option.map_id' ..).symm

/-- **What a run makes of what stands at an address.** -/
theorem becomes_run (hops : ∀ op ∈ ops, op.Keeps a) (hc : s.records.find? a = some c) :
    ∃ c', (s.run ops).1.records.find? a = some c' ∧ Becomes a ops c c' := by
  induction ops generalizing s c with
  | nil => exact ⟨c, hc, .nil a c⟩
  | cons op ops ih =>
    obtain ⟨hop, hops⟩ := List.forall_mem_cons.1 hops
    obtain ⟨c', hc', hstep⟩ := becomes_step hop hc
    obtain ⟨c'', hc'', hrun⟩ := ih hops hc'
    exact ⟨c'', hc'', hstep.cons hrun⟩

/-! ## Copies -/

theorem copy_of_find? (hc : s.records.find? a = some c) (slot : String) :
    (s.step (.copy a slot)).session =
      { s with records := { s.records with slots := s.records.slots.insert slot c } } := by
  rw [step, copy, withComponent_of_find? hc]
  rfl

theorem find?_copy (hc : s.records.find? a = some c) (slot : String) :
    (s.step (.copy a slot)).session.records.find? (.slot slot) = some c := by
  rw [copy_of_find? hc]
  simp [Records.find?]

/-- A copy looks like the original. -/
theorem shownAt_copy (hc : s.records.find? a = some c) (slot : String) :
    (s.step (.copy a slot)).session.shownAt (.slot slot) = s.shownAt a := by
  rw [shownAt, find?_copy hc, copy_of_find? hc, shownAt, hc]
  rfl

/-- Where the copies of a component stand after an operation, if they stood at `places` before: at
the places that are kept, and in the slot that one of them is copied into. -/
def copiesAfter (places : List Address) (op : Op) : List Address :=
  (match op with
    | .copy b slot => if b ∈ places then [.slot slot] else []
    | _ => []) ++ places.filter fun b => op.Keeps b

/-- Where the copies of a component stand after some operations. -/
def copies (places : List Address) (ops : List Op) : List Address := ops.foldl copiesAfter places

/-- The components at all the places are of one kind, and if they are forms they are one form. -/
def Alike (s : Session) (places : List Address) (kind : Kind) (form? : Option FormId) : Prop :=
  ∀ b ∈ places, ∃ c, s.records.find? b = some c ∧ c.kind = kind ∧ c.quickForm? = form?

/-- The copies stay alike through one more operation, and new ones are among them. -/
theorem Alike.step {places : List Address} {kind : Kind} {form? : Option FormId}
    (h : s.Alike places kind form?) (op : Op) :
    (s.step op).session.Alike (copiesAfter places op) kind form? := by
  intro b hb
  rcases List.mem_append.1 hb with hnew | hkept
  · cases op with
    | copy b' slot =>
      simp only at hnew
      split at hnew
      · rename_i hmem
        obtain ⟨c, hc, hkind, hform⟩ := h b' hmem
        rw [List.mem_singleton.1 hnew]
        exact ⟨c, find?_copy hc slot, hkind, hform⟩
      · exact absurd hnew List.not_mem_nil
    | _ => exact absurd hnew List.not_mem_nil
  · obtain ⟨hmem, hkeeps⟩ := List.mem_filter.1 hkept
    obtain ⟨c, hc, hkind, hform⟩ := h b hmem
    obtain ⟨c', hc', hbecomes⟩ := becomes_step (of_decide_eq_true hkeeps) hc
    exact ⟨c', hc', hbecomes.kind.trans hkind, hbecomes.form.trans hform⟩

/-- The copies stay alike through a run. -/
theorem Alike.run {places : List Address} {kind : Kind} {form? : Option FormId}
    (h : s.Alike places kind form?) (ops : List Op) :
    (s.run ops).1.Alike (copies places ops) kind form? := by
  induction ops generalizing s places with
  | nil => exact h
  | cons op ops ih => exact ih (h.step op)

theorem shownAt_of_find? (hc : s.records.find? a = some c) :
    s.shownAt a = some (s.records.resolve c) := by
  rw [shownAt, hc]
  rfl

/-- One form is shown the same wherever it stands. -/
theorem resolve_of_quickForm? {f : FormId} (h : c.quickForm? = some f) (r : Records) :
    r.resolve c = .quickForm (r.forms.get f) := by
  cases c with
  | quickForm id =>
    cases h
    rfl
  | _ => exact absurd h (by simp [Component.quickForm?])

/-- What is no form has its record to itself. -/
theorem resolve_of_kind_ne (h : c.kind ≠ .quickForm) (r r' : Records) :
    r.resolve c = r'.resolve c := by
  cases c with
  | quickForm id => exact absurd rfl h
  | _ => rfl

theorem exists_quickForm?_of_kind (h : c.kind = .quickForm) : ∃ f, c.quickForm? = some f := by
  cases c with
  | quickForm f => exact ⟨f, rfl⟩
  | _ => exact absurd h (by simp [Component.kind])

/-! ## Components of the application -/

/-- No search filter starts with a query. -/
theorem hasQuery?_of_mem_standardRecipes :
    ∀ e ∈ Registry.standardRecipes, ∀ given, (e.2 given).component.hasQuery? ≠ some true := by
  simp [Registry.standardRecipes, KeptSection.all, Registry.always, Registry.ofElement,
    Registry.restored, Component.hasQuery?, SearchFilter.closed]

/-- No search filter has a query when it is made. -/
theorem hasQuery?_of_make? {name : String} {given : Ingredients} {made : Made}
    (h : Registry.standard.make? name given = some made) :
    made.component.hasQuery? ≠ some true := by
  obtain ⟨recipe, hrecipe, rfl⟩ := Option.map_eq_some_iff.1 h
  exact hasQuery?_of_mem_standardRecipes _ (Registry.mem_standardRecipes_of_get? hrecipe) given

/-- Whether a search filter shows a query that had none at first. -/
theorem Becomes.shown_query (h : Becomes a ops c c') (hfresh : c.hasQuery? ≠ some true)
    {r : Records} {v : Json.Value} (hv : (r.resolve c').props.get? "hasQuery" = some v) :
    v = .boolean ((Op.lastQuery? a ops).any (· ≠ "")) := by
  rw [Component.get?_props_hasQuery, Records.resolve, Forms.resolve, Component.hasQuery?_map,
    h.query] at hv
  cases hquery : c.hasQuery? with
  | none => exact absurd hv (by simp [hquery])
  | some before =>
    obtain rfl : before = false := by
      cases before with
      | false => rfl
      | true => exact absurd hquery hfresh
    rw [hquery] at hv
    rw [← Option.some.inj hv]
    cases Op.lastQuery? a ops <;> rfl

/-- What shows that a component is still the one that was made. -/
structure Steady (made c : Component QuickForm) : Prop where
  kind : c.kind = made.kind
  methods : c.kind.methods = made.kind.methods
  properties : ∀ key, (c.props.get? key).isSome ↔ key ∈ made.kind.schema
  derived : Component.DerivedAgree c.props

theorem steady_of_kind {made c : Component QuickForm} (h : c.kind = made.kind) : Steady made c where
  kind := h
  methods := congrArg Kind.methods h
  properties key := h ▸ c.isSome_get?_props key
  derived := c.derivedAgree_props

/-- **Components are stable.**  Take any component that the application's registry has made, from
any element, store and configuration, and any operations after that: calls, writings, submits and
answers to them, on this component or others, in any order.  While the operations put nothing else
in its place, the component keeps its kind, its methods and the names of its properties, and the
derived properties agree with the others; a search filter has a query just if a text was given to it
and the last one was not empty.  The same goes for its copies, and the copies of these.  A copy
shows at first what it was copied from.  Copies of a form always show the same; a copy of anything
else is only changed by operations that are addressed to it. -/
theorem components_stable {name : String} {given : Ingredients} {made : Made}
    (hmade : Registry.standard.make? name given = some made)
    (hshown : s.shownAt a = some made.component) (ops : List Op) :
    let t := (s.run ops).1
    ((∀ op ∈ ops, op.Keeps a) → ∃ c, t.shownAt a = some c ∧ Steady made.component c ∧
        ∀ v, c.props.get? "hasQuery" = some v →
          v = .boolean ((Op.lastQuery? a ops).any (· ≠ ""))) ∧
      (∀ b ∈ copies [a] ops, ∃ c, t.shownAt b = some c ∧ Steady made.component c ∧
        ∀ slot, (t.step (.copy b slot)).session.shownAt (.slot slot) = some c) ∧
      (made.component.kind = .quickForm →
        ∀ b ∈ copies [a] ops, ∀ b' ∈ copies [a] ops, t.shownAt b = t.shownAt b') ∧
      (made.component.kind ≠ .quickForm → ∀ b ∈ copies [a] ops, ∀ ops',
        (∀ op ∈ ops', op.Keeps b ∧ ¬op.Targets b) → (t.run ops').1.shownAt b = t.shownAt b) := by
  intro t
  obtain ⟨c, hc, hresolve⟩ := Option.map_eq_some_iff.1 hshown
  have hkind : c.kind = made.component.kind := hresolve ▸ (Component.kind_map _ c).symm
  have halike : t.Alike (copies [a] ops) made.component.kind c.quickForm? := by
    refine Alike.run (fun b hb => ?_) ops
    rw [List.mem_singleton.1 hb]
    exact ⟨c, hc, hkind, rfl⟩
  refine ⟨fun hops => ?_, fun b hb => ?_, fun hform b hb b' hb' => ?_, fun hne b hb ops' hops' => ?_⟩
  · obtain ⟨c', hc', hbecomes⟩ := becomes_run hops hc
    have hkind' : (t.records.resolve c').kind = made.component.kind :=
      (Component.kind_map _ c').trans (hbecomes.kind.trans hkind)
    have hfresh : c.hasQuery? ≠ some true := by
      rw [← Component.hasQuery?_map, show c.map _ = _ from hresolve]
      exact hasQuery?_of_make? hmade
    exact ⟨_, shownAt_of_find? hc', steady_of_kind hkind', fun v hv =>
      hbecomes.shown_query hfresh hv⟩
  · obtain ⟨c', hc', hkind', -⟩ := halike b hb
    refine ⟨_, shownAt_of_find? hc', steady_of_kind ((Component.kind_map _ c').trans hkind'), ?_⟩
    exact fun slot => (shownAt_copy hc' slot).trans (shownAt_of_find? hc')
  · obtain ⟨f, hf⟩ := exists_quickForm?_of_kind (hkind.trans hform)
    obtain ⟨d, hd, -, hdform⟩ := halike b hb
    obtain ⟨d', hd', -, hdform'⟩ := halike b' hb'
    rw [shownAt_of_find? hd, shownAt_of_find? hd', resolve_of_quickForm? (hdform.trans hf),
      resolve_of_quickForm? (hdform'.trans hf)]
  · obtain ⟨d, hd, hdkind, -⟩ := halike b hb
    obtain ⟨d', hd', hbecomes⟩ := becomes_run (fun op hop => (hops' op hop).1) hd
    rw [shownAt_of_find? hd', shownAt_of_find? hd, hbecomes.still fun op hop => (hops' op hop).2,
      resolve_of_kind_ne (hdkind ▸ hne)]

/-- A form is copied, submitted by its copy, and typed into while the answer is awaited. -/
def twins : List Op :=
  [.copy (.slot "form") "twin",
    .submit "first" (.slot "twin") (.ok ⟨[("amount", "25000")]⟩) true none,
    .invoke (.slot "form") "updateAmount" ⟨some "30000", none⟩]

theorem components_stable_twins :
    Registry.standard.make? "quickTransactionForm" ⟨.bare, .empty, .standard⟩ =
        some ⟨.quickForm .idle, []⟩ ∧
      oneForm.shownAt (.slot "form") = some (.quickForm .idle) ∧
      (oneForm.run twins).1.shownAt (.slot "form") = some (.quickForm ⟨30000, true⟩) ∧
      (oneForm.run twins).1.shownAt (.slot "twin") =
        (oneForm.run twins).1.shownAt (.slot "form") := by
  have hmade : Registry.standard.make? "quickTransactionForm" ⟨.bare, .empty, .standard⟩ =
      some ⟨.quickForm .idle, []⟩ := by
    rw [Registry.make?, Registry.standard, Registry.get?_registerAll_empty]
    rfl
  have hshown : oneForm.shownAt (.slot "form") = some (.quickForm .idle) := by decide +kernel
  refine ⟨hmade, hshown, by decide +kernel, ?_⟩
  exact (components_stable hmade hshown twins).2.2.1 rfl _ (by decide +kernel) _ (by decide +kernel)

end Session
end AccountingPage
