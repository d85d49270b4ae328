import AccountingPage.Proofs.Operations

/-!
# What a waiting submit does not see

Between the start of a submit and its answer anything may happen: amounts are edited, meta tags
change, other submits come and go, and the slot or the region that held the form is given another.
A submit must neither notice any of it nor undo it.

* `Course` is a submit with all that comes between its start and its answer.
* `Course.posted` are its requests, `Course.outcome?` and `Course.ended` what its answer does.
* `Course.Isolated` is what is promised, some of it about two courses that differ in everything
  else; `Course.isolated` proves it of every course.

The two halves of a submit share nothing but the name of the submit and the identity of its form
(`Course.get?_flights_interrupted`), and that is all there is to the proof.
-/

set_option autoImplicit false

namespace AccountingPage

/-! ## What the two halves of a submit look at -/

/-- Of a page, a request takes the two tags for the header and nothing else. -/
theorem Request.ofFields_congr {f : Fields} {p p' : Page} {g : Config}
    (htoken : p'.tags.get? g.csrfTokenMeta = p.tags.get? g.csrfTokenMeta)
    (hheader : p'.tags.get? g.csrfHeaderMeta = p.tags.get? g.csrfHeaderMeta) :
    ofFields f p' g = ofFields f p g := by
  simp only [ofFields, Page.csrfHeader?, Page.filledTag?, htoken, hheader]

/-- Of its surroundings, the second half looks at the configuration, whether the page has the
dialog, and whether the markup follows. -/
theorem Submission.ending_congr {s s' : Surroundings} (hconfig : s'.config = s.config)
    (hdialog : s'.page.hasDialog s.config.quickModalId = s.page.hasDialog s.config.quickModalId)
    (result : Except Failure TransactionId) :
    ending s' result = ending s result := by
  cases result <;> simp only [ending, hconfig, hdialog]

/-! ## Courses -/

/-- A submit that waits while other operations come, and then gets its answer.  The form that it
starts on is free, or it would be ignored, and none of the operations ends the submit. -/
structure Course where
  before : Session
  name : String
  address : Address
  form : FormId
  fields : Fields
  watched : Bool
  between : List Op
  answer : NetworkAnswer
  wellFormed : before.records.WellFormed
  held : before.formAt? address = some form
  free : before.marked form = false
  spared : ∀ op ∈ between, op.Spares name

namespace Course

/-- The start. -/
def begun (c : Course) : Session.Step :=
  c.before.step (.submit c.name c.address (.ok c.fields) c.watched none)

/-- The session right before the answer is delivered. -/
def interrupted (c : Course) : Session := (c.begun.session.run c.between).1

/-- The answer is delivered. -/
def ended (c : Course) : Session.Step := c.interrupted.step (.respond c.name (some c.answer))

/-- The requests that the submit posts from its start to its end. -/
def posted (c : Course) : List Request :=
  Submission.requests c.begun.effects ++ Submission.requests c.ended.effects

def outcome? (c : Course) : Option Submission.Outcome :=
  match c.ended.answer with
  | .progress outcome _ => outcome
  | _ => none

variable (c : Course)

/-! ## Both halves -/

theorem begun_eq : c.begun =
    ⟨c.before.waiting c.name c.form c.watched,
      .progress none { c.before.records.forms.get c.form with submitting := true },
      Submission.opening (c.before.surroundings c.watched) ++ c.fields.variableWarnings ++
        [.post (.ofFields c.fields c.before.page c.before.config)]⟩ :=
  Session.submit_waiting c.held c.free ..

/-- The submit is still under way, and still on the form that it started on. -/
theorem get?_flights_interrupted :
    c.interrupted.flights.get? c.name = some ⟨c.form, c.watched⟩ := by
  rw [interrupted, Session.get?_flights_run c.spared, begun_eq]
  exact Session.get?_flights_waiting ..

theorem sameFrame_interrupted : c.before.SameFrame c.interrupted :=
  (Session.sameFrame_step _).trans (Session.sameFrame_run ..)

theorem ended_eq : c.ended =
    ⟨{ c.interrupted with
        records := c.interrupted.records.setForm c.form
          { c.interrupted.records.forms.get c.form with submitting := false }
        flights := c.interrupted.flights.erase c.name },
      .progress (some (.ofResult (Submission.settled c.answer)))
        { c.interrupted.records.forms.get c.form with submitting := false },
      Submission.statusLog c.answer ++
        (Submission.ending (c.interrupted.surroundings c.watched) (Submission.settled c.answer) ++
          (c.interrupted.surroundings c.watched).redrawn false)⟩ :=
  Session.respond_of_waiting c.get?_flights_interrupted c.answer

/-! ## What each of them depends on -/

theorem posted_eq : c.posted = [.ofFields c.fields c.before.page c.before.config] := by
  rw [posted, begun_eq, ended_eq]
  simp

/-- The dialogs are those of the start. -/
theorem hasDialog_interrupted (id : String) :
    c.interrupted.page.hasDialog id = c.before.page.hasDialog id := by
  rw [Page.hasDialog, c.sameFrame_interrupted.dialogs, Page.hasDialog]

theorem effects_ended_eq : c.ended.effects =
    Submission.statusLog c.answer ++
      (Submission.ending (c.before.surroundings c.watched) (Submission.settled c.answer) ++
        (c.before.surroundings c.watched).redrawn false) := by
  have hending : Submission.ending (c.interrupted.surroundings c.watched) =
      Submission.ending (c.before.surroundings c.watched) :=
    funext (Submission.ending_congr c.sameFrame_interrupted.config (c.hasDialog_interrupted _))
  rw [ended_eq, hending]
  rfl

theorem outcome?_eq : c.outcome? = some (.ofResult (Submission.settled c.answer)) := by
  rw [outcome?, ended_eq]

/-! ## Isolation -/

/-- The same submit, with nothing in between. -/
def uninterrupted : Course := { c with between := [], spared := nofun }

/-- What is promised of a submit and all that comes between its start and its answer. -/
structure Isolated : Prop where
  /-- One request is posted, and it was settled at the start. -/
  posted : c.posted = [.ofFields c.fields c.before.page c.before.config]
  /-- It depends on the entries, the configuration and the two tags for the header, as they were at
  the start; not on any record, and not on what comes between. -/
  posted_congr : ∀ d : Course, d.fields = c.fields → d.before.config = c.before.config →
    (∀ tag ∈ [c.before.config.csrfTokenMeta, c.before.config.csrfHeaderMeta],
      d.before.page.tags.get? tag = c.before.page.tags.get? tag) →
    d.posted = c.posted
  /-- The answer frees the form that the submit started on, and keeps its amount. -/
  form : c.ended.session.records.forms.get c.form =
    { c.interrupted.records.forms.get c.form with submitting := false }
  /-- It changes no other form. -/
  others : ∀ g, g ≠ c.form →
    c.ended.session.records.forms.get g = c.interrupted.records.forms.get g
  /-- A form that was made since the start is another form, even if it is held in the same place. -/
  fresh : ∀ g, c.before.records.forms.nextId ≤ g → g ≠ c.form
  /-- It makes no form. -/
  nextId : c.ended.session.records.forms.nextId = c.interrupted.records.forms.nextId
  /-- It changes nothing that slots and regions hold. -/
  slots : c.ended.session.records.slots = c.interrupted.records.slots
  live : c.ended.session.records.live = c.interrupted.records.live
  /-- Nor the store, the page, the configuration or the registry. -/
  store : c.ended.session.store = c.interrupted.store
  page : c.ended.session.page = c.interrupted.page
  config : c.ended.session.config = c.interrupted.config
  registry : c.ended.session.registry = c.interrupted.registry
  /-- The other submits that are under way stay so. -/
  flights : ∀ other, other ≠ c.name →
    c.ended.session.flights.get? other = c.interrupted.flights.get? other
  /-- The submit is over, and its outcome depends on the answer alone. -/
  outcome : c.outcome?.isSome ∧ ∀ d : Course, d.answer = c.answer → d.outcome? = c.outcome?
  /-- What the answer does depends on nothing but the answer, whether the markup follows, the
  configuration, and whether the page has the dialog. -/
  effects_congr : ∀ d : Course, d.answer = c.answer → d.watched = c.watched →
    d.before.config = c.before.config →
    d.before.page.hasDialog c.before.config.quickModalId =
      c.before.page.hasDialog c.before.config.quickModalId →
    d.ended.effects = c.ended.effects
  /-- So all is as if nothing had come between. -/
  uninterrupted : c.uninterrupted.posted = c.posted ∧ c.uninterrupted.outcome? = c.outcome? ∧
    c.uninterrupted.ended.effects = c.ended.effects

theorem posted_congr (d : Course) (hfields : d.fields = c.fields)
    (hconfig : d.before.config = c.before.config)
    (htags : ∀ tag ∈ [c.before.config.csrfTokenMeta, c.before.config.csrfHeaderMeta],
      d.before.page.tags.get? tag = c.before.page.tags.get? tag) :
    d.posted = c.posted := by
  rw [posted_eq, posted_eq, hfields, hconfig,
    Request.ofFields_congr (htags _ (by simp)) (htags _ (by simp))]

theorem effects_ended_congr (d : Course) (hanswer : d.answer = c.answer)
    (hwatched : d.watched = c.watched) (hconfig : d.before.config = c.before.config)
    (hdialog : d.before.page.hasDialog c.before.config.quickModalId =
      c.before.page.hasDialog c.before.config.quickModalId) :
    d.ended.effects = c.ended.effects := by
  have hending : Submission.ending (d.before.surroundings d.watched) =
      Submission.ending (c.before.surroundings c.watched) :=
    funext (Submission.ending_congr hconfig hdialog)
  rw [effects_ended_eq, effects_ended_eq, hanswer, hending, hwatched]
  rfl

/-- **Isolation.**  Whatever comes between the start of a submit and its answer, the submit takes no
notice: its request was fixed at the start, its outcome is that of its own answer.  And it undoes
nothing: of all that is there when the answer comes, it changes the mark of its form alone. -/
theorem isolated : c.Isolated where
  posted := c.posted_eq
  posted_congr := c.posted_congr
  form := by
    rw [ended_eq]
    exact (Forms.get_set_free ..).trans (if_pos rfl)
  others g hg := by
    rw [ended_eq]
    exact (Forms.get_set_free ..).trans (if_neg hg)
  fresh g hg := by
    have hlt := Session.lt_nextId_of_formAt? c.wellFormed c.held
    exact Nat.ne_of_gt (Nat.lt_of_lt_of_le hlt hg)
  nextId := by
    rw [ended_eq]
    exact Forms.nextId_set ..
  slots := by rw [ended_eq]; rfl
  live := by rw [ended_eq]; rfl
  store := by rw [ended_eq]
  page := by rw [ended_eq]
  config := by rw [ended_eq]
  registry := by rw [ended_eq]
  flights other hother := by
    rw [ended_eq]
    simp [Ne.symm hother]
  outcome := by
    refine ⟨by rw [outcome?_eq]; rfl, fun d hanswer => ?_⟩
    rw [outcome?_eq, outcome?_eq, hanswer]
  effects_congr := c.effects_ended_congr
  uninterrupted := by
    refine ⟨c.posted_congr _ rfl rfl fun _ _ => rfl, ?_, c.effects_ended_congr _ rfl rfl rfl rfl⟩
    rw [outcome?_eq, outcome?_eq]
    rfl

/-- While a submit waits, a copy of its form is edited, its slot is given a new form, and a submit of
that one comes and fails. -/
def amidst : Course where
  before := ((Session.start .standard ⟨.empty, ["quick-transaction-modal"]⟩ .empty).run
    [.mount "quickTransactionForm" "form" .bare, .copy (.slot "form") "copy"]).1
  name := "first"
  address := .slot "form"
  form := 0
  fields := ⟨[("amount", "25000")]⟩
  watched := true
  between :=
    [.overwrite (.slot "copy") (some 9) none, .mount "quickTransactionForm" "form" .bare,
      .setTag "_csrf" (some "token"), .save "key" "text",
      .submit "second" (.slot "form") (.ok ⟨[]⟩) true none,
      .respond "second" (some (.error "offline"))]
  answer := .ok ⟨201, "\x7b\"id\":7\x7d"⟩
  wellFormed := Session.wellFormed_run Records.wellFormed_empty _
  held := by decide +kernel
  free := by decide +kernel
  spared := by decide

theorem isolated_amidst :
    amidst.Isolated ∧ amidst.ended.session.records.forms.get 0 = ⟨9, false⟩ ∧
      amidst.ended.session.formAt? (.slot "form") = some 1 :=
  ⟨isolated amidst, by decide +kernel, by decide +kernel⟩

end Course

end AccountingPage
