import Mathlib.Data.List.Nodup
import AccountingPage.Proofs.Addresses

/-!
# Calls by name

A component offers its methods in a list, and runs them by a case distinction on the name that is
called, made anew for each kind.  Nothing in the code keeps the two in step; here they are shown to
agree, for any name whatever.

* `Kind.fieldMethods` lists the methods that read a field; they are the ones that can be called
  in vain.
* `Component.invoke_of_notMem` is a call by a name that is not offered, and `Component.invoke_of_mem`
  one by a name that is; these two go through the case distinction, and nothing else does.
  `Component.Goes` sums them up: a call goes in one of three ways.
* `Component.Goes.agrees` says when each of the three results comes about, and
  `Component.Goes.eq_refused` that a refused call leaves the component, the fields and the page as
  they were.
* `Session.invoke_agrees` says both of a call in a session.
-/

set_option autoImplicit false

namespace AccountingPage

/-! ## Names of methods -/

namespace Kind

/-- The methods that read the field, and cannot do without. -/
def fieldMethods : Kind → List Method
  | searchFilter => [.updateHasQuery]
  | idTypePicker => [.updateFromEvent]
  | transactionForm => [.updateAmount, .updateDescription]
  | quickForm => [.updateAmount, .updateVariable]
  | _ => []

def methodNames (k : Kind) : List String := k.methods.map Method.name

theorem fieldMethods_subset (k : Kind) : k.fieldMethods ⊆ k.methods := by
  cases k <;> decide

/-- The submit has a name of its own, and the confirmation of a voided transaction has no methods. -/
theorem notMem_methodNames {k : Kind} {name : String}
    (h : name = submitName ∨ k = .voidConfirmation) : name ∉ k.methodNames := by
  rcases h with rfl | rfl
  · cases k <;> decide
  · exact List.not_mem_nil

/-- A kind has one method of a name at most. -/
theorem nodup_methodNames (k : Kind) : k.methodNames.Nodup := by
  cases k <;> decide

theorem eq_of_name_eq {k : Kind} {m m' : Method} (hm : m ∈ k.methods) (hm' : m' ∈ k.methods)
    (h : m.name = m'.name) : m = m' :=
  List.inj_on_of_nodup_map k.nodup_methodNames hm hm' h

end Kind

/-! ## The results of a call -/

namespace Component

variable {page : Page} {config : Config} {inputs : Inputs} {c : Component QuickForm} {m : Method}
  {name : String}

/-- A name that the kind does not offer is one that it does not know. -/
theorem invoke_of_notMem (page : Page) (config : Config) (inputs : Inputs)
    (h : name ∉ c.kind.methodNames) :
    c.invoke page config name inputs = refused c inputs (.unknownMethod c.kind name) := by
  cases c
  all_goals
    simp only [kind, Kind.methodNames, Kind.methods, Method.name, List.map_cons, List.map_nil,
      List.mem_cons, List.not_mem_nil, or_false, not_or] at h
    simp [invoke, h]

/-- A name that the kind offers is known to it, and the call is refused just if the method reads the
field and there is none. -/
theorem invoke_of_mem (page : Page) (config : Config) (inputs : Inputs)
    (hm : m ∈ c.kind.methods) :
    if m ∈ c.kind.fieldMethods ∧ inputs.field = none then
      c.invoke page config m.name inputs = refused c inputs (.missingInput m)
    else ∃ text?, (c.invoke page config m.name inputs).result = .ok text? := by
  obtain ⟨field, hidden⟩ := inputs
  cases c <;> simp only [kind, Kind.methods, List.mem_cons, List.not_mem_nil, or_false] at hm
  -- what is left is one case for each method of each kind
  all_goals
    rcases hm with rfl | rfl | rfl | rfl | rfl | rfl
    all_goals
      cases field <;> simp [kind, Kind.fieldMethods, invoke, Method.name, reading, plain, ofNav]

/-- The ways in which a call can go. -/
inductive Goes (c : Component QuickForm) (name : String) (inputs : Inputs) : Called → Prop where
  | unknown (hname : name ∉ c.kind.methodNames) :
    Goes c name inputs (refused c inputs (.unknownMethod c.kind name))
  | missing {m : Method} (hm : m ∈ c.kind.fieldMethods) (hname : m.name = name)
    (hfield : inputs.field = none) : Goes c name inputs (refused c inputs (.missingInput m))
  | done {m : Method} {called : Called} {text? : Option String} (hm : m ∈ c.kind.methods)
    (hname : m.name = name) (hfield : ¬(m ∈ c.kind.fieldMethods ∧ inputs.field = none))
    (hresult : called.result = .ok text?) : Goes c name inputs called

theorem goes_invoke (page : Page) (config : Config) (name : String) (inputs : Inputs)
    (c : Component QuickForm) : c.Goes name inputs (c.invoke page config name inputs) := by
  by_cases hname : name ∈ c.kind.methodNames
  · obtain ⟨m, hm, rfl⟩ := List.mem_map.1 hname
    have hcall := invoke_of_mem page config inputs hm
    split at hcall
    · rename_i h
      rw [hcall]
      exact .missing h.1 rfl h.2
    · rename_i h
      obtain ⟨text?, hresult⟩ := hcall
      exact .done hm rfl h hresult
  · rw [invoke_of_notMem page config inputs hname]
    exact .unknown hname

/-- **A refused call changes nothing.** -/
theorem Goes.eq_refused {called : Called} (h : c.Goes name inputs called) {e : CallError}
    (he : called.result = .error e) : called = refused c inputs e := by
  cases h with
  | unknown | missing =>
    cases he
    rfl
  | done hm hname hfield hresult => exact absurd (hresult.symm.trans he) (by simp)

end Component

/-- When each of the results comes about of a call by a name, for a component of some kind, with a
field or without. -/
structure CallAgrees (kind : Kind) (name : String) (field : Option String)
    (result : Except CallError (Option String)) : Prop where
  /-- The name is none of the kind's, and the complaint is about that kind and that name. -/
  unknown : ∀ k method, result = .error (.unknownMethod k method) ↔
    k = kind ∧ method = name ∧ name ∉ kind.methodNames
  /-- The name is that of a method that reads the field, and there is none. -/
  missing : ∀ m, result = .error (.missingInput m) ↔
    m ∈ kind.fieldMethods ∧ m.name = name ∧ field = none
  /-- And otherwise all is well. -/
  ok : (∃ text?, result = .ok text?) ↔
    name ∈ kind.methodNames ∧ (field = none → name ∉ kind.fieldMethods.map Method.name)

namespace CallAgrees

variable {kind : Kind} {name : String} {field : Option String} {m : Method}

theorem of_notMem (h : name ∉ kind.methodNames) :
    CallAgrees kind name field (.error (.unknownMethod kind name)) where
  unknown k method := by
    simp only [Except.error.injEq, CallError.unknownMethod.injEq]
    exact ⟨fun heq => ⟨heq.1.symm, heq.2.symm, h⟩, fun heq => ⟨heq.1.symm, heq.2.1.symm⟩⟩
  missing m := by
    refine ⟨nofun, ?_⟩
    rintro ⟨hm, rfl, -⟩
    exact absurd (List.mem_map_of_mem (kind.fieldMethods_subset hm)) h
  ok := ⟨nofun, fun hok => absurd hok.1 h⟩

theorem of_missing (hm : m ∈ kind.fieldMethods) (hfield : field = none) :
    CallAgrees kind m.name field (.error (.missingInput m)) where
  unknown k method := by
    refine ⟨nofun, ?_⟩
    rintro ⟨-, -, h⟩
    exact absurd (List.mem_map_of_mem (kind.fieldMethods_subset hm)) h
  missing m' := by
    simp only [Except.error.injEq, CallError.missingInput.injEq]
    constructor
    · rintro rfl
      exact ⟨hm, rfl, hfield⟩
    · rintro ⟨hm', hname, -⟩
      exact Kind.eq_of_name_eq (kind.fieldMethods_subset hm) (kind.fieldMethods_subset hm')
        hname.symm
  ok := ⟨nofun, fun hok => absurd (List.mem_map_of_mem hm) (hok.2 hfield)⟩

theorem of_ok (hm : m ∈ kind.methods) (h : ¬(m ∈ kind.fieldMethods ∧ field = none))
    (text? : Option String) : CallAgrees kind m.name field (.ok text?) where
  unknown k method := ⟨nofun, fun hunknown => absurd (List.mem_map_of_mem hm) hunknown.2.2⟩
  missing m' := by
    refine ⟨nofun, ?_⟩
    rintro ⟨hm', hname, hfield⟩
    have heq := Kind.eq_of_name_eq (kind.fieldMethods_subset hm') hm hname
    exact absurd ⟨heq ▸ hm', hfield⟩ h
  ok := by
    refine ⟨fun _ => ⟨List.mem_map_of_mem hm, fun hfield hmem => ?_⟩, fun _ => ⟨text?, rfl⟩⟩
    obtain ⟨m', hm', hname⟩ := List.mem_map.1 hmem
    have heq := Kind.eq_of_name_eq (kind.fieldMethods_subset hm') hm hname
    exact h ⟨heq ▸ hm', hfield⟩

end CallAgrees

theorem Component.Goes.agrees {c : Component QuickForm} {name : String} {inputs : Inputs}
    {called : Called} (h : c.Goes name inputs called) :
    CallAgrees c.kind name inputs.field called.result := by
  cases h with
  | unknown hname => exact .of_notMem hname
  | missing hm hname hfield => exact hname ▸ .of_missing hm hfield
  | done hm hname hfield hresult => exact hresult ▸ hname ▸ .of_ok hm hfield _

/-! ## Calls in a session -/

namespace Session

variable {s : Session} {a : Address} {c : Component FormId} {name : String} {inputs : Inputs}

theorem withComponent_of_find? (hc : s.records.find? a = some c) (act : Component FormId → Step) :
    s.withComponent a act = act c := by
  rw [withComponent, hc]

/-- The session takes over what the call leaves behind. -/
theorem step_invoke (hc : s.records.find? a = some c) {called : Called}
    (hcall : (s.records.resolve c).invoke s.page s.config name inputs = called) :
    s.step (.invoke a name inputs) =
      { s with records := s.records.update a c called.component }.done
        (.called called.result called.inputs called.component) called.effects := by
  subst hcall
  rw [step, invoke, withComponent_of_find? hc]

/-- A call that leaves the component as it is, and has no effects, leaves everything as it is. -/
theorem step_invoke_of_still (hc : s.records.find? a = some c) {after : Inputs}
    {result : Except CallError (Option String)}
    (hcall : (s.records.resolve c).invoke s.page s.config name inputs =
      ⟨s.records.resolve c, after, [], result⟩) :
    s.step (.invoke a name inputs) = ⟨s, .called result after (s.records.resolve c), []⟩ := by
  rw [step_invoke hc hcall, Records.update_resolve hc]
  rfl

theorem step_invoke_of_error (hc : s.records.find? a = some c) {e : CallError}
    (he : ((s.records.resolve c).invoke s.page s.config name inputs).result = .error e) :
    s.step (.invoke a name inputs) =
      ⟨s, .called (.error e) inputs (s.records.resolve c), []⟩ :=
  step_invoke_of_still hc ((Component.goes_invoke ..).eq_refused he)

/-- What is promised of a call of the component `c` at an address. -/
structure CallAnswered (s : Session) (a : Address) (c : Component FormId) (name : String)
    (inputs : Inputs) : Prop where
  /-- The call has a result, and it is the one that the list of methods announces.  Whether there is
  a hidden field makes no difference. -/
  result : ∃ result after shown,
    (s.step (.invoke a name inputs)).answer = .called result after shown ∧
      CallAgrees c.kind name inputs.field result
  /-- If it is refused, all is as it was: the session with its records, its store and its page, the
  texts of the fields, and the component that is shown.  And nothing has been done on the way. -/
  refused : ∀ e after shown,
    (s.step (.invoke a name inputs)).answer = .called (.error e) after shown →
      (s.step (.invoke a name inputs)).session = s ∧
        (s.step (.invoke a name inputs)).effects = [] ∧
          after = inputs ∧ shown = s.records.resolve c
  /-- The submit is never run in this way, and the confirmation of a voided transaction has nothing
  to run. -/
  never : name = submitName ∨ c.kind = .voidConfirmation →
    (s.step (.invoke a name inputs)).answer =
      .called (.error (.unknownMethod c.kind name)) inputs (s.records.resolve c)

/-- **Methods and calls agree.**  Call any component by any name, with any texts in the fields or
without fields: the call is refused as unknown just if the name is not among the component's
methods, for want of a field just if it is that of a method that reads one and there is none, and
else it is carried out.  A refused call has changed nothing. -/
theorem invoke_agrees (hc : s.records.find? a = some c) (name : String) (inputs : Inputs) :
    s.CallAnswered a c name inputs := by
  have hagrees := ((s.records.resolve c).goes_invoke s.page s.config name inputs).agrees
  rw [show (s.records.resolve c).kind = c.kind from Component.kind_map ..] at hagrees
  have hstep : s.step (.invoke a name inputs) = _ := step_invoke hc rfl
  have hanswer := congrArg Step.answer hstep
  refine ⟨⟨_, _, _, hanswer, hagrees⟩, ?_, ?_⟩
  · intro e after shown he
    have hresult := (Answer.called.inj (hanswer.symm.trans he)).1
    have hrefused := step_invoke_of_error hc hresult
    rw [hrefused] at he ⊢
    cases he
    exact ⟨rfl, rfl, rfl, rfl⟩
  · intro hnever
    have hunknown := (hagrees.unknown _ _).2 ⟨rfl, rfl, Kind.notMem_methodNames hnever⟩
    rw [step_invoke_of_error hc hunknown]

/-- A session with a quick form that has been typed into. -/
def typedInto : Session :=
  ((start .standard ⟨.empty, []⟩ .empty).run
    [.mount "quickTransactionForm" "form" .bare,
      .invoke (.slot "form") "updateAmount" ⟨some "25000", none⟩]).1

/-- The form is asked to take over a variable, but only the hidden field is there. -/
theorem invoke_agrees_hiddenOnly :
    typedInto.records.find? (.slot "form") = some (.quickForm 0) ∧
      typedInto.CallAnswered (.slot "form") (.quickForm 0) "updateVariable" ⟨none, some "7"⟩ := by
  have hc : typedInto.records.find? (.slot "form") = some (.quickForm 0) := by decide +kernel
  exact ⟨hc, invoke_agrees hc ..⟩

end Session

end AccountingPage
