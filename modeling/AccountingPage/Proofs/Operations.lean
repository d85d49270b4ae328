import AccountingPage.Proofs.Marks
import AccountingPage.Session

/-!
# What one operation of a session does

One lemma for each way in which an operation can turn out, so that what is proved about runs of a
session never looks into `Session.step` again.

* The halves of a submit come first: `Submission.start_of_submitting`, `start_unreadable` and
  `start_readable` say what the first half can leave behind, `Submission.resume_eq` what the second
  does.  Both are put together from `opening`, `statusLog` and `ending`, the three stretches of
  effects that every submit is made of.
* `Session.submit_of_marked`, `submit_unreadable`, `submit_waiting`, `submit_answered`,
  `respond_of_waiting` and `cancel_of_waiting` are the same for the operations of a session.
* `Session.RecordsChange` lists what an operation can do to the records, and
  `Session.recordsChange_step` proves the list complete.  What is proved of every change there holds
  of every operation: `Session.wellFormed_step` says that references stay in the table, `calm_step`
  that the operations which are no submits leave the marks alone.
* `Session.flights_step` says that these leave the submits under way alone, too; `sameFrame_step`
  that none changes what the second half of a submit looks at, and `get?_flights_step` which ones
  leave a given submit under way.
-/

set_option autoImplicit false

namespace AccountingPage

/-! ## The two halves of a submit -/

namespace Submission

/-- Drawing the markup again, for a form that is marked or not. -/
def Surroundings.redrawn (s : Surroundings) (submitting : Bool) : List Effect :=
  if s.watched then [.redraw (draftLabel submitting)] else []

/-- How a submit begins that is not ignored. -/
def opening (s : Surroundings) : List Effect :=
  s.redrawn true ++ [.log (.submitting s.config.transactionEndpoint)] ++
    if s.watched then [.readFields] else []

/-- What is noted of an answer before it is looked at. -/
def statusLog : NetworkAnswer → List Effect
  | .ok reply => [.log (.responseStatus reply.status)]
  | .error _ => []

/-- What an answer says about the new transaction. -/
def settled : NetworkAnswer → Except Failure TransactionId
  | .ok reply => reply.created
  | .error reason => .error (.transport reason)

def Outcome.ofResult : Except Failure TransactionId → Outcome
  | .ok id => .created id
  | .error e => .failed e

/-- How a submit ends, before the markup is drawn again. -/
def ending (s : Surroundings) : Except Failure TransactionId → List Effect
  | .ok id =>
    [.log (.created id),
      .closeDialog s.config.quickModalId (s.page.hasDialog s.config.quickModalId),
      .navigate (s.config.detailPath id.display)]
  | .error e => [.log (.failed e), .alert (s.config.alertPrefix ++ e.message)]

/-- A submit ends by `ending`, and then the markup is drawn again without a mark. -/
theorem conclude_eq (s : Surroundings) (form : QuickForm)
    (result : Except Failure TransactionId) :
    conclude s form result =
      ⟨{ form with submitting := false }, ending s result ++ s.redrawn false,
        .finished (.ofResult result)⟩ := by
  cases result <;> rfl

theorem start_of_submitting {form : QuickForm} (h : form.submitting = true) (s : Surroundings)
    (source : Except String Fields) :
    start s form source = ⟨form, [.log .alreadySubmitting], .finished .ignored⟩ := by
  rw [start, if_pos h]

theorem start_unreadable {form : QuickForm} (h : form.submitting = false) (s : Surroundings)
    (reason : String) :
    start s form (.error reason) =
      ⟨form, opening s ++ (ending s (.error (.form reason)) ++ s.redrawn false),
        .finished (.failed (.form reason))⟩ := by
  obtain ⟨amount, submitting⟩ := form
  subst h
  rfl

/-- A form that can be read is marked, and its request is made. -/
theorem start_readable {form : QuickForm} (h : form.submitting = false) (s : Surroundings)
    (fields : Fields) :
    start s form (.ok fields) =
      ⟨{ form with submitting := true },
        opening s ++ fields.variableWarnings ++ [.post (.ofFields fields s.page s.config)],
        .awaiting (.ofFields fields s.page s.config)⟩ := by
  rw [start, if_neg (by simp [h])]
  rfl

/-- An answer ends the submit as it says, after what is noted of it. -/
theorem resume_eq (s : Surroundings) (form : QuickForm) (answer : NetworkAnswer) :
    resume s form answer =
      ⟨{ form with submitting := false },
        statusLog answer ++ (ending s (settled answer) ++ s.redrawn false),
        .finished (.ofResult (settled answer))⟩ := by
  cases answer with
  | error reason => rw [resume, conclude_eq]; rfl
  | ok reply => rw [resume, conclude_eq]; rfl

/-! Nothing that a submit does is written to the store. -/

/-- None of the effects writes to the store. -/
def Storeless (effects : List Effect) : Prop := ∀ e ∈ effects, e.saved? = none

theorem Storeless.append {xs ys : List Effect} (hx : Storeless xs) (hy : Storeless ys) :
    Storeless (xs ++ ys) :=
  List.forall_mem_append.2 ⟨hx, hy⟩

theorem storeless_singleton {e : Effect} (h : e.saved? = none) : Storeless [e] :=
  List.forall_mem_singleton.2 h

theorem storeless_redrawn (s : Surroundings) (b : Bool) : Storeless (s.redrawn b) := by
  rw [Surroundings.redrawn]
  split
  · exact storeless_singleton rfl
  · exact nofun

theorem storeless_opening (s : Surroundings) : Storeless (opening s) := by
  refine ((storeless_redrawn s true).append (storeless_singleton rfl)).append ?_
  split
  · exact storeless_singleton rfl
  · exact nofun

theorem storeless_request (s : Surroundings) (fields : Fields) :
    Storeless (opening s ++ fields.variableWarnings ++
      [.post (.ofFields fields s.page s.config)]) := by
  refine ((storeless_opening s).append fun e he => ?_).append (storeless_singleton rfl)
  obtain ⟨name, -, rfl⟩ := List.mem_map.1 he
  rfl

theorem storeless_statusLog (answer : NetworkAnswer) : Storeless (statusLog answer) := by
  cases answer with
  | error reason => exact nofun
  | ok reply => exact storeless_singleton rfl

theorem storeless_closing (s : Surroundings) (result : Except Failure TransactionId) :
    Storeless (ending s result ++ s.redrawn false) := by
  refine Storeless.append ?_ (storeless_redrawn s false)
  cases result <;> simp [Storeless, ending, Effect.saved?]

/-! What is picked from the effects of a submit.  When neither drawing the markup nor reading the form
is picked, only the first line of the log can be picked from how a submit begins. -/

section Picked

variable {α : Type} {pick : Effect → Option α}

theorem filterMap_redrawn (hredraw : ∀ label, pick (.redraw label) = none) (s : Surroundings)
    (b : Bool) : (s.redrawn b).filterMap pick = [] := by
  rw [Surroundings.redrawn]
  split
  · exact List.filterMap_cons_none (hredraw _)
  · rfl

theorem filterMap_opening (hredraw : ∀ label, pick (.redraw label) = none)
    (hread : pick .readFields = none) (s : Surroundings) :
    (opening s).filterMap pick =
      (pick (.log (.submitting s.config.transactionEndpoint))).toList := by
  have hreading : (if s.watched then [Effect.readFields] else []).filterMap pick = [] := by
    split
    · exact List.filterMap_cons_none hread
    · rfl
  rw [opening, List.filterMap_append, List.filterMap_append, filterMap_redrawn hredraw, hreading,
    List.nil_append, List.append_nil, List.filterMap_eq_flatMap_toList, List.flatMap_singleton]

end Picked

/-! Only the first half posts anything, and it posts once at most. -/

/-- The requests among some effects. -/
def requests (effects : List Effect) : List Request :=
  effects.filterMap fun
    | .post request => some request
    | _ => none

/-- Requests are listed in the order in which they are made. -/
@[simp] theorem requests_append (xs ys : List Effect) :
    requests (xs ++ ys) = requests xs ++ requests ys :=
  List.filterMap_append

@[simp] theorem requests_nil : requests [] = [] := rfl

@[simp] theorem requests_post (request : Request) (effects : List Effect) :
    requests (.post request :: effects) = request :: requests effects := rfl

@[simp] theorem requests_redrawn (s : Surroundings) (b : Bool) : requests (s.redrawn b) = [] :=
  filterMap_redrawn (fun _ => rfl) s b

@[simp] theorem requests_opening (s : Surroundings) : requests (opening s) = [] :=
  filterMap_opening (fun _ => rfl) rfl s

@[simp] theorem requests_variableWarnings (fields : Fields) :
    requests fields.variableWarnings = [] := by
  refine List.filterMap_eq_nil_iff.2 fun e he => ?_
  obtain ⟨name, -, rfl⟩ := List.mem_map.1 he
  rfl

@[simp] theorem requests_statusLog (answer : NetworkAnswer) : requests (statusLog answer) = [] := by
  cases answer <;> rfl

@[simp] theorem requests_ending (s : Surroundings) (result : Except Failure TransactionId) :
    requests (ending s result) = [] := by
  cases result <;> rfl

end Submission

/-! ## Rewriting a form -/

namespace Forms

theorem set_get (fs : Forms) (id : FormId) : fs.set id (fs.get id) = fs := by
  obtain ⟨table⟩ := fs
  refine congrArg Forms.mk (List.ext_getElem? fun i => ?_)
  by_cases hi : i = id
  · subst hi
    rw [List.getElem?_set_self']
    cases h : table[i]? <;> simp [get, List.getD_eq_getElem?_getD, h]
  · rw [List.getElem?_set_ne (Ne.symm hi)]

theorem set_set (fs : Forms) (id : FormId) (f g : QuickForm) : (fs.set id f).set id g = fs.set id g :=
  congrArg Forms.mk (List.set_set ..)

end Forms

/-! ## Submits of a session -/

namespace Session

/-- The quick form at an address. -/
def formAt? (s : Session) (a : Address) : Option FormId :=
  (s.records.find? a).bind Component.quickForm?

def marked (s : Session) (id : FormId) : Bool := s.records.forms.marked id

variable {s : Session} {a : Address} {f : FormId}

/-- A form that is found is in the table. -/
theorem lt_nextId_of_formAt? (h : s.records.WellFormed) (hf : s.formAt? a = some f) :
    f < s.records.forms.nextId := by
  obtain ⟨c, hc, hid⟩ := Option.bind_eq_some_iff.1 hf
  exact h.has hc f hid

/-- An operation without writes ends with the store as it is. -/
theorem done_of_storeless (s : Session) (answer : Answer) {effects : List Effect}
    (h : Submission.Storeless effects) : s.done answer effects = ⟨s, answer, effects⟩ := by
  rw [done, Store.apply_of_forall_saved?_eq_none h]

theorem withForm_of_formAt? (hf : s.formAt? a = some f) (act : FormId → Step) :
    s.withForm a act = act f := by
  rw [withForm, show (s.records.find? a).bind Component.quickForm? = some f from hf]

/-- Where there is no form, there is no submit. -/
theorem submit_of_formAt?_eq_none (hf : s.formAt? a = none) (name : String)
    (source : Except String Fields) (watched : Bool) (answer : Option NetworkAnswer) :
    s.step (.submit name a source watched answer) = ⟨s, .missing, []⟩ := by
  rw [step, submit, withForm, show (s.records.find? a).bind Component.quickForm? = none from hf]
  rfl

/-- A submit of a marked form is ignored. -/
theorem submit_of_marked (hf : s.formAt? a = some f) (hm : s.marked f = true) (name : String)
    (source : Except String Fields) (watched : Bool) (answer : Option NetworkAnswer) :
    s.step (.submit name a source watched answer) =
      ⟨{ s with flights := s.flights.erase name },
        .progress (some .ignored) (s.records.forms.get f), [.log .alreadySubmitting]⟩ := by
  rw [step, submit, withForm_of_formAt? hf]
  simp only [Submission.start_of_submitting hm, advance, Records.setForm, Forms.set_get]
  rfl

/-- A submit of a form that cannot be read is over at once. -/
theorem submit_unreadable (hf : s.formAt? a = some f) (hm : s.marked f = false) (name : String)
    (reason : String) (watched : Bool) (answer : Option NetworkAnswer) :
    s.step (.submit name a (.error reason) watched answer) =
      ⟨{ s with flights := s.flights.erase name },
        .progress (some (.failed (.form reason))) (s.records.forms.get f),
        Submission.opening (s.surroundings watched) ++
          (Submission.ending (s.surroundings watched) (.error (.form reason)) ++
            (s.surroundings watched).redrawn false)⟩ := by
  rw [step, submit, withForm_of_formAt? hf]
  simp only [Submission.start_unreadable hm, advance, Records.setForm, Forms.set_get]
  exact done_of_storeless _ _ ((Submission.storeless_opening _).append
    (Submission.storeless_closing _ _))

/-- The session in which a submit of the form waits for its answer. -/
def waiting (s : Session) (name : String) (f : FormId) (watched : Bool) : Session :=
  { s with
    records := s.records.setForm f { s.records.forms.get f with submitting := true }
    flights := s.flights.insert name ⟨f, watched⟩ }

theorem get?_flights_waiting (s : Session) (name : String) (f : FormId) (watched : Bool) :
    (s.waiting name f watched).flights.get? name = some ⟨f, watched⟩ := by
  simp [waiting]

/-- A submit that is answered later marks its form and goes under way. -/
theorem submit_waiting (hf : s.formAt? a = some f) (hm : s.marked f = false) (name : String)
    (fields : Fields) (watched : Bool) :
    s.step (.submit name a (.ok fields) watched none) =
      ⟨s.waiting name f watched,
        .progress none { s.records.forms.get f with submitting := true },
        Submission.opening (s.surroundings watched) ++ fields.variableWarnings ++
          [.post (.ofFields fields s.page s.config)]⟩ := by
  rw [step, submit, withForm_of_formAt? hf]
  simp only [Submission.start_readable hm, advance]
  rw [show (s.flights.erase name).insert name ⟨f, watched⟩ = s.flights.insert name ⟨f, watched⟩ from
    TextMap.ext_get? fun k => by
      simp only [TextMap.get?_insert, TextMap.get?_erase]
      split <;> rfl]
  exact done_of_storeless _ _ (Submission.storeless_request (s.surroundings watched) fields)

/-- What delivering an answer to a form's submit leaves behind. -/
theorem deliver_eq (s : Session) (flight : Flight) (answer : NetworkAnswer) :
    s.deliver flight answer =
      ({ s with
          records := s.records.setForm flight.form
            { s.records.forms.get flight.form with submitting := false } },
        ⟨{ s.records.forms.get flight.form with submitting := false },
          Submission.statusLog answer ++
            (Submission.ending (s.surroundings flight.watched) (Submission.settled answer) ++
              (s.surroundings flight.watched).redrawn false),
          .finished (.ofResult (Submission.settled answer))⟩) := by
  simp only [deliver, Submission.resume_eq, advance]

/-- A submit that is answered at once leaves the records as they were. -/
theorem submit_answered (hf : s.formAt? a = some f) (hlt : f < s.records.forms.nextId)
    (hm : s.marked f = false) (name : String) (fields : Fields) (watched : Bool)
    (answer : NetworkAnswer) :
    s.step (.submit name a (.ok fields) watched (some answer)) =
      ⟨{ s with flights := s.flights.erase name },
        .progress (some (.ofResult (Submission.settled answer))) (s.records.forms.get f),
        Submission.opening (s.surroundings watched) ++ fields.variableWarnings ++
            [.post (.ofFields fields s.page s.config)] ++
          (Submission.statusLog answer ++
            (Submission.ending (s.surroundings watched) (Submission.settled answer) ++
              (s.surroundings watched).redrawn false))⟩ := by
  have hback : { s.records.forms.get f with submitting := false } = s.records.forms.get f := by
    rw [← show (s.records.forms.get f).submitting = false from hm]
  rw [step, submit, withForm_of_formAt? hf]
  simp only [Submission.start_readable hm, advance, deliver_eq, Records.setForm,
    Forms.get_set_self hlt, Forms.set_set, hback, Forms.set_get]
  exact done_of_storeless _ _ ((Submission.storeless_request (s.surroundings watched) fields).append
    ((Submission.storeless_statusLog answer).append (Submission.storeless_closing _ _)))

/-- An answer to no submit is passed over. -/
theorem respond_of_get?_eq_none {name : String} (h : s.flights.get? name = none)
    (answer : Option NetworkAnswer) : s.step (.respond name answer) = ⟨s, .missing, []⟩ := by
  rw [step, respond.eq_def, h]
  rfl

/-- An answer ends the submit that it is delivered to and frees its form. -/
theorem respond_of_waiting {name : String} {flight : Flight}
    (h : s.flights.get? name = some flight) (answer : NetworkAnswer) :
    s.step (.respond name (some answer)) =
      ⟨{ s with
          records := s.records.setForm flight.form
            { s.records.forms.get flight.form with submitting := false }
          flights := s.flights.erase name },
        .progress (some (.ofResult (Submission.settled answer)))
          { s.records.forms.get flight.form with submitting := false },
        Submission.statusLog answer ++
          (Submission.ending (s.surroundings flight.watched) (Submission.settled answer) ++
            (s.surroundings flight.watched).redrawn false)⟩ := by
  rw [step, respond.eq_def, h]
  simp only [deliver_eq]
  exact done_of_storeless _ _ ((Submission.storeless_statusLog answer).append
    (Submission.storeless_closing _ _))

theorem respond_none_of_waiting {name : String} {flight : Flight}
    (h : s.flights.get? name = some flight) :
    s.step (.respond name none) =
      ⟨s, .progress none (s.records.forms.get flight.form), []⟩ := by
  rw [step, respond.eq_def, h]
  rfl

theorem cancel_of_get?_eq_none {name : String} (h : s.flights.get? name = none) :
    s.step (.cancel name) = ⟨s, .missing, []⟩ := by
  rw [step, cancel, h]
  rfl

/-- A submit that is dropped leaves its form as it is, marked. -/
theorem cancel_of_waiting {name : String} {flight : Flight}
    (h : s.flights.get? name = some flight) :
    s.step (.cancel name) =
      ⟨{ s with flights := s.flights.erase name },
        .form (s.records.forms.get flight.form), []⟩ := by
  rw [step, cancel, h]
  rfl

end Session

/-! ## Kinds of operations -/

namespace Op

/-- The operations that start, answer or drop a submit. -/
def isSubmit : Op → Bool
  | .submit .. | .respond .. | .cancel .. => true
  | _ => false

/-- The operation that writes a mark from outside. -/
def writesMark : Op → Bool
  | .overwrite _ _ (some _) => true
  | _ => false

/-- The operation leaves the submit of that name under way: it does not answer or drop it, and it
does not give the name to another. -/
def Spares (name : String) : Op → Prop
  | .submit other .. => other ≠ name
  | .respond other (some _) => other ≠ name
  | .cancel other => other ≠ name
  | _ => True

instance (name : String) : DecidablePred (Spares name) := fun op => by
  unfold Spares
  split <;> infer_instance

/-- The operation is addressed to what stands at the address. -/
def Targets (a : Address) : Op → Prop
  | invoke b _ _ | takeBack b _ | overwrite b _ _ => b = a
  | _ => False

instance (a : Address) : DecidablePred (Targets a) := fun op => by
  unfold Targets
  split <;> infer_instance

end Op

/-! ## What an operation does to the records -/

namespace Session

variable {s : Session} {op : Op}

/-- The form that an operation works on: that of the component that it is addressed to, or of the
submit that it answers. -/
def worksOn? (s : Session) : Op → Option FormId
  | .invoke a _ _ | .takeBack a _ | .overwrite a _ _ | .submit _ a _ _ _ => s.formAt? a
  | .respond name _ => (s.flights.get? name).map Flight.form
  | _ => none

/-- An operation works on the form that it is addressed to. -/
theorem worksOn?_of_targets {a : Address} (h : op.Targets a) : s.worksOn? op = s.formAt? a := by
  cases op with
  | invoke | takeBack | overwrite => exact congrArg s.formAt? h
  | _ => exact absurd h id

/-- What an operation can do to the records. -/
inductive RecordsChange (s : Session) (op : Op) : Records → Prop where
  | same : RecordsChange s op s.records
  | mount {component slot element made} (hop : op = .mount component slot element)
    (hmade : s.registry.make? component ⟨element, s.store, s.config⟩ = some made) :
    RecordsChange s op (s.records.mount slot made.component)
  | copy {a slot c} (hop : op = .copy a slot) (hc : s.records.find? a = some c) :
    RecordsChange s op { s.records with slots := s.records.slots.insert slot c }
  | update {a c changed} (htargets : op.Targets a) (hc : s.records.find? a = some c)
    (hmark : op.writesMark = false → changed.mark? = (s.records.resolve c).mark?) :
    RecordsChange s op (s.records.update a c changed)
  | bind {g} (hop : op = .bindRegion g) : RecordsChange s op (s.records.bindRegion s.workshop g).1
  | drop {g} (hop : op = .dropRegion g) : RecordsChange s op (s.records.dropRegion g).1
  | rebuild {g} (hop : op = .rebuild g true true) :
    RecordsChange s op ((s.records.dropRegion g).1.bindRegion s.workshop g).1
  | setForm {f} (hsubmit : op.isSubmit = true) (hworks : s.worksOn? op = some f) (q : QuickForm) :
    RecordsChange s op (s.records.setForm f q)

/-- A change of what stands at an address, if it keeps the mark. -/
theorem recordsChange_change {a : Address} {g : Component QuickForm → Component QuickForm}
    (htargets : op.Targets a) (hmark : op.writesMark = false → ∀ c, (g c).mark? = c.mark?) :
    s.RecordsChange op (s.change a g).session.records := by
  rw [change, withComponent]
  split
  · rename_i c hc
    exact .update htargets hc fun hop => hmark hop _
  · exact .same

theorem mark?_setFields {amount : Option Amount} {submitting : Option Bool} (a : Address)
    (h : (Op.overwrite a amount submitting).writesMark = false) (c : Component QuickForm) :
    (setFields amount submitting c).mark? = c.mark? := by
  cases submitting with
  | some _ => cases h
  | none => cases c <;> rfl

/-- **What an operation does to the records.** -/
theorem recordsChange_step (s : Session) (op : Op) :
    s.RecordsChange op (s.step op).session.records := by
  cases op with
  | mount component slot element =>
    rw [step, mount]
    split
    · exact .same
    · rename_i made hmade
      exact .mount rfl hmade
  | copy a slot =>
    rw [step, copy, withComponent]
    split
    · rename_i c hc
      exact .copy rfl hc
    · exact .same
  | invoke a method inputs =>
    rw [step, invoke, withComponent]
    split
    · rename_i c hc
      have htargets : (Op.invoke a method inputs).Targets a := rfl
      exact .update htargets hc fun _ => (Component.keeps_invoke ..).mark
    · exact .same
  | takeBack a props =>
    have htargets : (Op.takeBack a props).Targets a := rfl
    exact recordsChange_change htargets fun _ => Component.mark?_takeBack props
  | overwrite a amount submitting =>
    have htargets : (Op.overwrite a amount submitting).Targets a := rfl
    exact recordsChange_change htargets (mark?_setFields a)
  | bindRegion g => exact .bind rfl
  | dropRegion g => exact .drop rfl
  | rebuild g hasRebuilder hasTarget =>
    cases hasRebuilder with
    | false => exact .same
    | true =>
      cases hasTarget with
      | false => exact .same
      | true => exact .rebuild rfl
  | submit name a source watched answer =>
    rw [step, submit, withForm]
    split
    · rename_i f hf
      have hworks : s.worksOn? (.submit name a source watched answer) = some f := hf
      -- both halves write the same form, so what the second one writes stays
      have hboth (p q : QuickForm) : (s.records.setForm f p).setForm f q = s.records.setForm f q := by
        simp only [Records.setForm, Forms.set_set]
      dsimp only
      split
      · exact .setForm rfl hworks _
      · exact .setForm rfl hworks _
      · simp only [done, deliver, advance, hboth]
        exact .setForm rfl hworks _
    · exact .same
  | respond name answer =>
    rw [step, respond.eq_def]
    split
    · exact .same
    · exact .same
    · rename_i flight answer hflight
      have hworks : s.worksOn? (.respond name (some answer)) = some flight.form :=
        congrArg (Option.map Flight.form) hflight
      exact .setForm rfl hworks _
  | cancel name =>
    rw [step, cancel]
    split <;> exact .same
  | inspect | save | load | saveFlag | loadFlag | setTag | viewRegion => exact .same

/-- Each kind of change that is no submit leaves the marks alone. -/
theorem RecordsChange.calm {r : Records} (h : s.RecordsChange op r) (hw : s.registry.MakesIdle)
    (hs : op.isSubmit = false) (hm : op.writesMark = false) : s.records.Calm r := by
  have hworkshop : s.workshop.registry.MakesIdle := hw
  cases h with
  | same | copy => exact .refl _
  | mount hop hmade => exact Records.calm_mount _ _ (hw _ _ _ hmade)
  | update htargets hc hmark => exact Records.calm_update _ _ (hmark hm)
  | bind => exact Records.calm_bindRegion hworkshop _ _
  | drop => exact Records.calm_dropRegion _ _
  | rebuild =>
    exact (Records.calm_dropRegion _ _).trans (Records.calm_bindRegion hworkshop _ _)
  | setForm hsubmit => exact absurd (hsubmit.symm.trans hs) (by simp)

/-- **The other operations are calm.**  Whatever is no submit and does not write marks from outside
leaves every mark as it is. -/
theorem calm_step (hw : s.registry.MakesIdle) (hs : op.isSubmit = false)
    (hm : op.writesMark = false) : s.records.Calm (s.step op).session.records :=
  (recordsChange_step s op).calm hw hs hm

/-- Each kind of change keeps references in the table. -/
theorem RecordsChange.wellFormed {r : Records} (h : s.RecordsChange op r)
    (hs : s.records.WellFormed) : r.WellFormed := by
  cases h with
  | same => exact hs
  | mount => exact hs.mount ..
  | copy hop hc => exact hs.insertSlot (hs.has hc) _
  | update htargets hc => exact hs.update hc _
  | bind => exact hs.bindRegion ..
  | drop => exact hs.dropRegion _
  | rebuild => exact (hs.dropRegion _).bindRegion ..
  | setForm => exact hs.setForm ..

/-- No operation leaves a reference behind that is not in the table. -/
theorem wellFormed_step (h : s.records.WellFormed) (op : Op) :
    (s.step op).session.records.WellFormed :=
  (recordsChange_step s op).wellFormed h

/-- The other operations leave the submits under way as they are. -/
theorem flights_step {op : Op} (hs : op.isSubmit = false) :
    (s.step op).session.flights = s.flights := by
  cases op with
  | mount component slot element =>
    rw [step, mount]
    split <;> rfl
  | copy a slot =>
    rw [step, copy, withComponent]
    split <;> rfl
  | invoke a method inputs =>
    rw [step, invoke, withComponent]
    split <;> rfl
  | takeBack a props | overwrite a amount submitting =>
    rw [step, change, withComponent]
    split <;> rfl
  | submit | respond | cancel => exact absurd hs (by simp [Op.isSubmit])
  | inspect | save | load | saveFlag | loadFlag | setTag | viewRegion => rfl
  | bindRegion | dropRegion | rebuild => rfl

/-! ## What never changes, and what stays under way -/

/-- What no operation changes: the registry, the configuration and the dialogs of the page. -/
structure SameFrame (s t : Session) : Prop where
  registry : t.registry = s.registry
  config : t.config = s.config
  dialogs : t.page.dialogs = s.page.dialogs

theorem SameFrame.refl (s : Session) : s.SameFrame s := ⟨rfl, rfl, rfl⟩

theorem SameFrame.trans {s t u : Session} (h : s.SameFrame t) (h' : t.SameFrame u) :
    s.SameFrame u :=
  ⟨h'.registry.trans h.registry, h'.config.trans h.config, h'.dialogs.trans h.dialogs⟩

/-- **No operation changes the frame.** -/
theorem sameFrame_step (op : Op) : s.SameFrame (s.step op).session := by
  cases op with
  | mount component slot element =>
    rw [step, mount]
    split <;> exact ⟨rfl, rfl, rfl⟩
  | copy a slot =>
    rw [step, copy, withComponent]
    split <;> exact ⟨rfl, rfl, rfl⟩
  | invoke a method inputs =>
    rw [step, invoke, withComponent]
    split <;> exact ⟨rfl, rfl, rfl⟩
  | takeBack a props | overwrite a amount submitting =>
    rw [step, change, withComponent]
    split <;> exact ⟨rfl, rfl, rfl⟩
  | setTag name content => cases content <;> exact ⟨rfl, rfl, rfl⟩
  | submit name a source watched answer =>
    rw [step, submit, withForm]
    split
    · dsimp only
      split <;> exact ⟨rfl, rfl, rfl⟩
    · exact ⟨rfl, rfl, rfl⟩
  | respond name answer =>
    rw [step, respond.eq_def]
    split <;> exact ⟨rfl, rfl, rfl⟩
  | cancel name =>
    rw [step, cancel]
    split <;> exact ⟨rfl, rfl, rfl⟩
  | inspect | save | load | saveFlag | loadFlag | viewRegion => exact ⟨rfl, rfl, rfl⟩
  | bindRegion | dropRegion | rebuild => exact ⟨rfl, rfl, rfl⟩

/-- A submit stays under way through every operation that spares it. -/
theorem get?_flights_step {name : String} {op : Op} (h : op.Spares name) :
    (s.step op).session.flights.get? name = s.flights.get? name := by
  cases op with
  | submit other a source watched answer =>
    have hne : other ≠ name := h
    rw [step, submit, withForm]
    split
    · dsimp only
      split <;> simp [done, deliver, advance, hne]
    · rfl
  | respond other answer =>
    rw [step, respond.eq_def]
    split
    · rfl
    · rfl
    · have hne : other ≠ name := h
      simp [done, deliver, advance, hne]
  | cancel other =>
    have hne : other ≠ name := h
    rw [step, cancel]
    split
    · rfl
    · simp [done, hne]
  | _ => rw [flights_step rfl]

/-! ## Runs -/

@[simp] theorem run_nil (s : Session) : s.run [] = (s, []) := rfl

theorem run_cons (s : Session) (op : Op) (ops : List Op) :
    s.run (op :: ops) =
      (((s.step op).session.run ops).1,
        ((s.step op).answer, (s.step op).effects) :: ((s.step op).session.run ops).2) := rfl

/-- References are in the table after any run. -/
theorem wellFormed_run (h : s.records.WellFormed) (ops : List Op) :
    (s.run ops).1.records.WellFormed := by
  induction ops generalizing s with
  | nil => exact h
  | cons op ops ih => exact ih (wellFormed_step h op)

/-- No run changes the frame. -/
theorem sameFrame_run (s : Session) (ops : List Op) : s.SameFrame (s.run ops).1 := by
  induction ops generalizing s with
  | nil => exact .refl s
  | cons op ops ih => exact (sameFrame_step op).trans (ih _)

/-- A submit stays under way through every run that spares it. -/
theorem get?_flights_run {name : String} {ops : List Op} (h : ∀ op ∈ ops, op.Spares name)
    (s : Session) : (s.run ops).1.flights.get? name = s.flights.get? name := by
  induction ops generalizing s with
  | nil => rfl
  | cons op ops ih =>
    obtain ⟨hop, hops⟩ := List.forall_mem_cons.1 h
    exact (ih hops _).trans (get?_flights_step hop)

end Session

end AccountingPage
