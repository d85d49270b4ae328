import AccountingPage.Proofs.Grouping
import AccountingPage.Proofs.Settling
import AccountingPage.Proofs.Stability
import AccountingPage.Proofs.WriteBack

/-!
# Edits of the amount

The amount of a form is in three places at once: in the text that was typed, in the record, and in
the text that the field shows after that.  A form is edited for as long as its page is open, so what
is said here is about runs of operations, whatever else they do to the page.

* `Component.sentBy` are the events that a call of a transaction form sends, and `Op.sentAt` those
  of an operation.
* `Op.lastTyped?` is the text that was typed last in a run.
* `TransactionForm.Follows` says that the amount and the events are those of some operations;
  `Session.follows_step` proves it of one operation, `follows_run` of a run.
* `Session.AmountFollows` is what is promised of a form after a run, and `amount_follows` proves it.
-/

set_option autoImplicit false

namespace AccountingPage

/-! ## Calls of a form -/

namespace TransactionForm

/-- A form has become another one, by the last text that was typed, if there was one; and this is
what the page has been told of it. -/
structure Follows (typed? : Option String) (events : List Event) (f f' : TransactionForm)
    (effects : List Effect) : Prop where
  amount : f'.amount = (typed?.map .parse).getD f.amount
  effects : effects = events.map .dispatch

variable {typed? typed?' : Option String} {events events' : List Event}
  {f f' f'' : TransactionForm} {effects effects' : List Effect}

theorem Follows.refl (f : TransactionForm) : Follows none [] f f [] := ⟨rfl, rfl⟩

theorem Follows.trans (h : Follows typed? events f f' effects)
    (h' : Follows typed?' events' f' f'' effects') :
    Follows (typed?'.or typed?) (events ++ events') f f'' (effects ++ effects') where
  amount := by
    rw [h'.amount, h.amount]
    cases typed?' <;> rfl
  effects := by rw [h.effects, h'.effects, List.map_append]

end TransactionForm

namespace Component

/-- The text that a call types into the amount field. -/
def typedBy? (name : String) (inputs : Inputs) : Option String :=
  if name = Method.updateAmount.name then inputs.field else none

/-- The events that a call of a transaction form sends: one for an amount that is typed, and the one
that is asked for. -/
def sentBy (name : String) (inputs : Inputs) : List Event :=
  if name = Method.dispatchVarChanged.name then [.varChanged]
  else if name = Method.dispatchAccountChanged.name then [.accountChanged]
  else (typedBy? name inputs).toList.map fun _ => .amountChanged

/-- A text that is typed for the amount goes into the record, and grouped into the field. -/
theorem invoke_updateAmount_transactionForm (page : Page) (config : Config) (text : String)
    (hidden : Option String) (f : TransactionForm) :
    (transactionForm f).invoke page config Method.updateAmount.name ⟨some text, hidden⟩ =
      ⟨transactionForm { f with amount := .parse text },
        ⟨some (Amount.parse text).format, hidden⟩, [.dispatch .amountChanged], .ok none⟩ := by
  simp only [Method.name, invoke, reading, f.updateAmount_eq, TransactionForm.enterAmount,
    TransactionForm.formattedAmount, List.map_cons, List.map_nil]

/-- A quick form does the same, and tells the page nothing. -/
theorem invoke_updateAmount_quickForm (page : Page) (config : Config) (text : String)
    (hidden : Option String) (f : QuickForm) :
    (quickForm f).invoke page config Method.updateAmount.name ⟨some text, hidden⟩ =
      ⟨quickForm { f with amount := .parse text },
        ⟨some (Amount.parse text).format, hidden⟩, [], .ok none⟩ := by
  simp only [Method.name, invoke, reading, plain, QuickForm.enterAmount,
    QuickForm.formattedAmount]

/-- A call of a transaction form changes the amount only if it types one, and tells the page only
what it sends.  A call that is refused does neither. -/
theorem follows_invoke (page : Page) (config : Config) (name : String) (inputs : Inputs)
    (f : TransactionForm) :
    ∃ f', ((transactionForm f).invoke page config name inputs).component = transactionForm f' ∧
      TransactionForm.Follows (typedBy? name inputs) (sentBy name inputs) f f'
        ((transactionForm f).invoke page config name inputs).effects := by
  obtain ⟨field, hidden⟩ := inputs
  rw [invoke.eq_def]
  dsimp only
  split
  · exact ⟨f, rfl, rfl, rfl⟩
  · exact ⟨f, rfl, rfl, rfl⟩
  · cases field with
    | none => exact ⟨f, rfl, rfl, rfl⟩
    | some text => exact ⟨_, rfl, rfl, rfl⟩
  · cases field with
    | none => exact ⟨f, rfl, rfl, rfl⟩
    | some text => exact ⟨_, rfl, rfl, rfl⟩
  · exact ⟨f, rfl, rfl, rfl⟩
  · exact ⟨f, rfl, rfl, rfl⟩
  · rename_i htyped _ hvar haccount
    have hnone : typedBy? name ⟨field, hidden⟩ = none := if_neg htyped
    have hnothing : sentBy name ⟨field, hidden⟩ = [] :=
      calc sentBy name ⟨field, hidden⟩
          = (typedBy? name ⟨field, hidden⟩).toList.map fun _ => .amountChanged :=
            (if_neg hvar).trans (if_neg haccount)
        _ = [] := by rw [hnone, Option.toList_none, List.map_nil]
    rw [hnone, hnothing]
    exact ⟨f, rfl, .refl f⟩

end Component

/-! ## Operations -/

namespace Op

/-- The operation writes the amount of what stands at an address from outside. -/
def writesAmount (a : Address) : Op → Bool
  | overwrite b amount _ => b = a && amount.isSome
  | _ => false

/-- The operation leaves the form at an address in its place, and its amount to the form. -/
def KeepsAmount (a : Address) (op : Op) : Prop := op.Keeps a ∧ op.writesAmount a = false

instance (a : Address) : DecidablePred (KeepsAmount a) := fun op =>
  inferInstanceAs (Decidable (op.Keeps a ∧ op.writesAmount a = false))

/-- The text that an operation types into the amount field of the form at an address. -/
def typed? (a : Address) : Op → Option String
  | invoke b name inputs => if b = a then Component.typedBy? name inputs else none
  | _ => none

/-- The text that was typed last. -/
def lastTyped? (a : Address) : List Op → Option String
  | [] => none
  | op :: ops => (lastTyped? a ops).or (op.typed? a)

/-- The events that the form at an address sends. -/
def sentAt (a : Address) : Op → List Event
  | invoke b name inputs => if b = a then Component.sentBy name inputs else []
  | _ => []

theorem typed?_of_not_targets {a : Address} {op : Op} (h : ¬op.Targets a) : op.typed? a = none := by
  cases op with
  | invoke b name inputs => exact if_neg h
  | _ => rfl

theorem sentAt_of_not_targets {a : Address} {op : Op} (h : ¬op.Targets a) : op.sentAt a = [] := by
  cases op with
  | invoke b name inputs => exact if_neg h
  | _ => rfl

end Op

namespace Session

variable {s : Session} {a : Address} {f : TransactionForm} {ops : List Op}

/-- The effects of the operations that are addressed to what stands at an address. -/
def effectsAt (a : Address) (ops : List Op) (run : List (Answer × List Effect)) : List Effect :=
  (ops.zip run).flatMap fun x => if x.1.Targets a then x.2.2 else []

/-- A transaction form is held as it is shown. -/
theorem shownAt_eq_transactionForm_iff :
    s.shownAt a = some (.transactionForm f) ↔
      s.records.find? a = some (.transactionForm f) := by
  constructor
  · intro h
    obtain ⟨c, hc, hresolve⟩ := Option.map_eq_some_iff.1 h
    cases c with
    | transactionForm f' =>
      cases hresolve
      exact hc
    | _ => exact absurd hresolve (by simp [Records.resolve, Forms.resolve, Component.map])
  · exact shownAt_of_find?

/-- **What one operation makes of a form.** -/
theorem follows_step {op : Op} (hop : op.KeepsAmount a)
    (hf : s.shownAt a = some (.transactionForm f)) :
    ∃ f', (s.step op).session.shownAt a = some (.transactionForm f') ∧
      TransactionForm.Follows (op.typed? a) (op.sentAt a) f f'
        (if op.Targets a then (s.step op).effects else []) := by
  have hc := shownAt_eq_transactionForm_iff.1 hf
  by_cases htargets : op.Targets a
  · rw [if_pos htargets]
    cases op with
    | invoke b name inputs =>
      obtain rfl : b = a := htargets
      have htyped : (Op.invoke b name inputs).typed? b = Component.typedBy? name inputs :=
        if_pos rfl
      have hsent : (Op.invoke b name inputs).sentAt b = Component.sentBy name inputs := if_pos rfl
      rw [htyped, hsent]
      obtain ⟨f', hcomponent, hfollows⟩ := Component.follows_invoke s.page s.config name inputs f
      rw [step_invoke hc rfl]
      refine ⟨f', shownAt_eq_transactionForm_iff.2 ?_, hfollows⟩
      exact hcomponent ▸ Records.find?_update_self hc _
    | takeBack b props =>
      obtain rfl : b = a := htargets
      rw [step_takeBack hc]
      exact ⟨_, shownAt_eq_transactionForm_iff.2 (Records.find?_replace_self hc _), rfl, rfl⟩
    | overwrite b amount submitting =>
      obtain rfl : b = a := htargets
      obtain rfl : amount = none := by simpa [Op.writesAmount] using hop.2
      rw [step, change, withComponent_of_find? hc]
      exact ⟨_, shownAt_eq_transactionForm_iff.2 (Records.find?_update_self hc _), rfl, rfl⟩
    | _ => exact absurd htargets (by simp [Op.Targets])
  · rw [if_neg htargets, Op.typed?_of_not_targets htargets, Op.sentAt_of_not_targets htargets]
    have hkept := (find?_step_of_not_targets hop.1 htargets).trans hc
    exact ⟨f, shownAt_eq_transactionForm_iff.2 hkept, .refl f⟩

/-- **What a run makes of a form.** -/
theorem follows_run (hops : ∀ op ∈ ops, op.KeepsAmount a)
    (hf : s.shownAt a = some (.transactionForm f)) :
    ∃ f', (s.run ops).1.shownAt a = some (.transactionForm f') ∧
      TransactionForm.Follows (Op.lastTyped? a ops) (ops.flatMap (Op.sentAt a)) f f'
        (effectsAt a ops (s.run ops).2) := by
  induction ops generalizing s f with
  | nil => exact ⟨f, hf, .refl f⟩
  | cons op ops ih =>
    obtain ⟨hop, hops⟩ := List.forall_mem_cons.1 hops
    obtain ⟨f', hf', hstep⟩ := follows_step hop hf
    obtain ⟨f'', hf'', hrun⟩ := ih hops hf'
    exact ⟨f'', hf'', hstep.trans hrun⟩

/-! ## Typing an amount -/

theorem settles_transactionForm (hf : s.shownAt a = some (.transactionForm f)) (text : String)
    (hidden : Option String) :
    s.Settles a Method.updateAmount.name ⟨some text, hidden⟩
      ⟨.transactionForm { f with amount := .parse text },
        ⟨some (Amount.parse text).format, hidden⟩, [.dispatch .amountChanged], .ok none⟩ := by
  have hhas : s.records.forms.Has (.transactionForm f) := nofun
  refine settles_of_invoke (shownAt_eq_transactionForm_iff.1 hf) hhas
    (Submission.storeless_singleton rfl)
    (Component.invoke_updateAmount_transactionForm ..) ?_
  rw [Component.invoke_updateAmount_transactionForm]
  simp only [Amount.parse_format]

theorem settles_quickForm (hs : s.records.WellFormed) {q : QuickForm}
    (hq : s.shownAt a = some (.quickForm q)) (text : String) (hidden : Option String) :
    s.Settles a Method.updateAmount.name ⟨some text, hidden⟩
      ⟨.quickForm { q with amount := .parse text },
        ⟨some (Amount.parse text).format, hidden⟩, [], .ok none⟩ := by
  obtain ⟨c, hc, hresolve⟩ := Option.map_eq_some_iff.1 hq
  refine settles_of_invoke hc (hs.has hc) nofun ?_ ?_
  · rw [hresolve, Component.invoke_updateAmount_quickForm]
  · rw [Component.invoke_updateAmount_quickForm]
    simp only [Amount.parse_format]

/-- What is promised of the form `f` that is shown after some operations, if the form was made from
the element `e`. -/
structure AmountFollows (s : Session) (a : Address) (e : Element) (ops : List Op)
    (f : TransactionForm) : Prop where
  shown : (s.run ops).1.shownAt a = some (.transactionForm f)
  /-- The amount is the one that was typed last, or else the one in the attribute. -/
  amount : f.amount =
    match Op.lastTyped? a ops with
    | some text => .parse text
    | none => ((e.data? "amount").map .leading).getD 0
  /-- A typed amount is what the digits of the text spell, if that is an amount. -/
  parsed : ∀ text n, IsNumeral n (text.toList.filter Char.isDigit) →
    (Amount.parse text).toNat = if n < 2 ^ 64 then n else 0
  digitless : ∀ text : String, (∀ c ∈ text.toList, c.isDigit = false) → Amount.parse text = 0
  /-- The page is told of each amount that was typed, and of what else it was to be told, in the
  order in which this was asked for, and of nothing more. -/
  effects : effectsAt a ops (s.run ops).2 = (ops.flatMap (Op.sentAt a)).map .dispatch
  /-- A text that is typed now gives way to the grouped amount.  To type that changes neither. -/
  typed : ∀ text hidden, (s.run ops).1.Settles a Method.updateAmount.name ⟨some text, hidden⟩
    ⟨.transactionForm { f with amount := .parse text },
      ⟨some (Amount.parse text).format, hidden⟩,
      (f.updateAmount text).sent.map (.dispatch ·.event), .ok none⟩
  /-- When the page is told, the record and the field are as they will be. -/
  sent : ∀ text, (f.updateAmount text).sent =
    [⟨.amountChanged, { f with amount := .parse text }, (Amount.parse text).format⟩]
  /-- A form that is bound shows no amount just if it is zero. -/
  noInitial : f.initialAmount? = none ↔ f.amount = 0
  /-- To type the amount that it shows changes nothing. -/
  initial : ∀ text, f.initialAmount? = some text →
    { f with amount := .parse text } = f ∧ (Amount.parse text).format = text
  /-- A quick form takes every text for the same amount, and its field shows the same.  It tells the
  page nothing. -/
  quick : ∀ b q, (s.run ops).1.shownAt b = some (.quickForm q) → ∀ text hidden,
    (s.run ops).1.Settles b Method.updateAmount.name ⟨some text, hidden⟩
      ⟨.quickForm { q with amount := .parse text },
        ⟨some (Amount.parse text).format, hidden⟩, [], .ok none⟩

theorem AmountFollows.of_follows (hs : s.records.WellFormed) {e : Element}
    (hf : (s.run ops).1.shownAt a = some (.transactionForm f))
    (h : TransactionForm.Follows (Op.lastTyped? a ops) (ops.flatMap (Op.sentAt a)) (.ofElement e) f
      (effectsAt a ops (s.run ops).2)) : AmountFollows s a e ops f where
  shown := hf
  amount := by
    rw [h.amount]
    cases Op.lastTyped? a ops <;> rfl
  parsed text n := Amount.toNat_parse_of_isNumeral
  digitless text := Amount.parse_eq_zero
  effects := h.effects
  typed text hidden := by
    rw [f.updateAmount_eq]
    exact settles_transactionForm hf text hidden
  sent text := by
    rw [f.updateAmount_eq]
    rfl
  noInitial := by simp [TransactionForm.initialAmount?]
  initial text htext := by
    rw [TransactionForm.initialAmount?, Option.ite_none_left_eq_some, Option.some_inj] at htext
    obtain ⟨-, rfl⟩ := htext
    rw [TransactionForm.formattedAmount, Amount.parse_format]
    exact ⟨rfl, rfl⟩
  quick b q hq := settles_quickForm (wellFormed_run hs ops) hq

/-- **The amount of a form follows what is typed.**  Take any form that has just been made, and any
operations on it and on the rest of the page, in any order, as long as they leave the form where it
is and do not write its amount from outside. -/
theorem amount_follows (hs : s.records.WellFormed) {e : Element}
    (hform : s.shownAt a = some (.transactionForm (.ofElement e)))
    (hops : ∀ op ∈ ops, op.KeepsAmount a) : ∃ f, AmountFollows s a e ops f := by
  obtain ⟨f, hf, hfollows⟩ := follows_run hops hform
  exact ⟨f, .of_follows hs hf hfollows⟩

/-- An element with an amount of 1.500 rupiah. -/
def pricedElement : Element := ⟨.ofList [("amount", "1500")], none⟩

/-- A session with a form that has been made from that element. -/
def pricedForm : Session :=
  ((start .standard ⟨.empty, []⟩ .empty).run [.mount "transactionForm" "form" pricedElement]).1

/-- Two amounts are typed, with other calls in between. -/
def repricing : List Op :=
  [.invoke (.slot "form") "updateAmount" ⟨some "none", none⟩,
    .invoke (.slot "form") "dispatchVarChanged" ⟨none, none⟩,
    .takeBack (.slot "form") (.ofList [("description", .string "rent")]),
    .invoke (.slot "form") "updateAmount" ⟨some "Rp 02.500", none⟩,
    .invoke (.slot "form") "getSubmitButtonText" ⟨none, none⟩]

theorem amount_follows_repricing :
    pricedForm.records.WellFormed ∧
      pricedForm.shownAt (.slot "form") = some (.transactionForm (.ofElement pricedElement)) ∧
      (∀ op ∈ repricing, op.KeepsAmount (.slot "form")) ∧
      ∃ f, AmountFollows pricedForm (.slot "form") pricedElement repricing f ∧ f.amount = 2500 := by
  have hs : pricedForm.records.WellFormed := wellFormed_run Records.wellFormed_empty _
  have hform : pricedForm.shownAt (.slot "form") =
      some (.transactionForm (.ofElement pricedElement)) := by decide +kernel
  have hops : ∀ op ∈ repricing, op.KeepsAmount (.slot "form") := by decide +kernel
  obtain ⟨f, hf⟩ := amount_follows hs hform hops
  exact ⟨hs, hform, hops, f, hf, hf.amount.trans (by decide +kernel)⟩

end Session

end AccountingPage
