import AccountingPage.Proofs.Calls

/-!
# Calls that settle

A method that reads a field writes the field anew, and what it writes is a text that it may be given
again.  A call settles if nothing comes of that: the record, the texts and everything else in the
session are then what the first call made of them.

* `Session.Settles` says what a call leaves behind, and that it settles.
* `Session.settles_of_invoke` and `settles_of_still` prove it from what the method does with the
  component alone.
-/

set_option autoImplicit false

namespace AccountingPage

namespace Session

variable {s : Session} {a : Address} {c : Component FormId}

/-- A call leaves this behind, and when it is made again on the texts that it has left, it is as if
it had been made once. -/
structure Settles (s : Session) (a : Address) (name : String) (inputs : Inputs) (left : Called) :
    Prop where
  answer : (s.step (.invoke a name inputs)).answer =
    .called left.result left.inputs left.component
  effects : (s.step (.invoke a name inputs)).effects = left.effects
  shown : (s.step (.invoke a name inputs)).session.shownAt a = some left.component
  again : (s.step (.invoke a name inputs)).session.step (.invoke a name left.inputs) =
    s.step (.invoke a name inputs)

theorem settles_of_invoke (hc : s.records.find? a = some c) (hhas : s.records.forms.Has c)
    {name : String} {inputs : Inputs} {left : Called} (hstore : Submission.Storeless left.effects)
    (hfirst : (s.records.resolve c).invoke s.page s.config name inputs = left)
    (hagain : left.component.invoke s.page s.config name left.inputs = left) :
    s.Settles a name inputs left := by
  let t : Session := { s with records := s.records.update a c left.component }
  have hfound : t.records.find? a = some (s.records.forms.putBack c left.component).1 :=
    Records.find?_update_self hc _
  have hresolve : t.records.resolve (s.records.forms.putBack c left.component).1 = left.component :=
    Records.resolve_update hhas _
  have hstep : s.step (.invoke a name inputs) =
      ⟨t, .called left.result left.inputs left.component, left.effects⟩ := by
    rw [step_invoke hc hfirst, done_of_storeless _ _ hstore]
  have hsame : t.records.update a (s.records.forms.putBack c left.component).1 left.component =
      t.records := by
    have h := Records.update_resolve hfound
    rwa [hresolve] at h
  refine ⟨by rw [hstep], by rw [hstep], ?_, ?_⟩
  · rw [hstep, shownAt, hfound, Option.map_some, hresolve]
  · rw [hstep, step_invoke hfound (hresolve.symm ▸ hagain), done_of_storeless _ _ hstore,
      hsame]

/-- A call without effects that leaves the component as it is settles, and has changed nothing. -/
theorem settles_of_still (hc : s.records.find? a = some c) {name : String} {inputs after : Inputs}
    {result : Except CallError (Option String)}
    (hfirst : (s.records.resolve c).invoke s.page s.config name inputs =
      ⟨s.records.resolve c, after, [], result⟩)
    (hagain : (s.records.resolve c).invoke s.page s.config name after =
      ⟨s.records.resolve c, after, [], result⟩) :
    s.Settles a name inputs ⟨s.records.resolve c, after, [], result⟩ ∧
      (s.step (.invoke a name inputs)).session = s := by
  have hstep := step_invoke_of_still hc hfirst
  refine ⟨⟨by rw [hstep], by rw [hstep], ?_, ?_⟩, by rw [hstep]⟩
  · rw [hstep, shownAt, hc]
    rfl
  · rw [hstep, step_invoke_of_still hc hagain]

end Session

end AccountingPage
