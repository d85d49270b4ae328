import AccountingPage.Regions
import AccountingPage.Submission

/-!
# Sessions

A session is one page at work: its records, its store, its meta tags and dialogs, and the submits
that wait for an answer.  It is changed by one operation after the other, in any order, and any
number of submits may be under way at once.

* `Session` is the state, `Op` an operation, `Answer` what an operation answers.
* `Session.step` carries out one operation, `Session.run` a list of them.
* `Flight` is a submit under way.  It refers to the record that it was started on, so it finds that
  record even if the slot or the region that held it has been given another.
-/

set_option autoImplicit false

namespace AccountingPage

/-- A submit that waits for an answer. -/
structure Flight where
  form : FormId
  watched : Bool
deriving DecidableEq, Repr

structure Session where
  registry : Registry
  config : Config
  page : Page
  store : Store
  records : Records
  flights : TextMap Flight

/-- An answer of the network: a reply, or why there is none. -/
abbrev NetworkAnswer := Except String Reply

inductive Op where
  /-- A new record goes into a slot. -/
  | mount (component slot : String) (element : Element)
  | inspect (target : Address)
  /-- A copy of a component goes into a slot. -/
  | copy (target : Address) (slot : String)
  | invoke (target : Address) (method : String) (inputs : Inputs)
  | takeBack (target : Address) (props : Component.Props)
  /-- Writes the public fields of a form from outside. -/
  | overwrite (target : Address) (amount : Option Amount) (submitting : Option Bool)
  | save (key text : String)
  | load (key : String)
  | saveFlag (key : String) (flag : Bool)
  | loadFlag (key : String)
  | setTag (name : String) (content : Option String)
  | bindRegion (region : Region)
  | dropRegion (region : Region)
  | viewRegion (id : String)
  | rebuild (region : Region) (hasRebuilder hasTarget : Bool)
  | submit (id : String) (target : Address) (source : Except String Fields) (watched : Bool)
    (answer : Option NetworkAnswer)
  | respond (id : String) (answer : Option NetworkAnswer)
  | cancel (id : String)

inductive Answer where
  /-- Nothing is held at the address, or it is not a form, or no such submit is under way. -/
  | missing
  | none
  | component (c : Component QuickForm)
  | called (result : Except CallError (Option String)) (inputs : Inputs)
    (c : Component QuickForm)
  | storeSize (n : Nat)
  | stored (text : Option String) (size : Nat)
  | flag (b : Option Bool)
  | region (records : Option (List (Component QuickForm)))
  | rebuilt (done : Bool) (records : Option (List (Component QuickForm)))
  /-- The outcome of a submit, unless it waits, and its record. -/
  | progress (outcome : Option Submission.Outcome) (form : QuickForm)
  | form (f : QuickForm)

namespace Session

def start (config : Config) (page : Page) (store : Store) : Session :=
  ⟨.standard, config, page, store, .empty, .empty⟩

/-- What an operation leaves behind. -/
structure Step where
  session : Session
  answer : Answer
  effects : List Effect

/-- The end of an operation: what its effects write goes to the store. -/
def done (s : Session) (answer : Answer) (effects : List Effect) : Step :=
  ⟨{ s with store := s.store.apply effects }, answer, effects⟩

def workshop (s : Session) : Workshop := ⟨s.registry, s.store, s.config⟩

def surroundings (s : Session) (watched : Bool) : Submission.Surroundings :=
  ⟨s.page, s.config, watched⟩

/-- Does something with the component at an address. -/
def withComponent (s : Session) (a : Address) (act : Component FormId → Step) : Step :=
  match s.records.find? a with
  | some c => act c
  | none => s.done .missing []

/-- The answer that shows the component at an address. -/
def shown (s : Session) (a : Address) : Answer :=
  match s.records.find? a with
  | some c => .component (s.records.resolve c)
  | none => .missing

/-! ## Records -/

def mount (s : Session) (component slot : String) (element : Element) : Step :=
  match s.registry.make? component ⟨element, s.store, s.config⟩ with
  | none => s.done .none []
  | some made =>
    { s with records := s.records.mount slot made.component }.done
      (.component made.component) made.effects

def copy (s : Session) (a : Address) (slot : String) : Step :=
  s.withComponent a fun c =>
    let records := { s.records with slots := s.records.slots.insert slot c }
    { s with records := records }.done (.component (s.records.resolve c)) []

/-- Calls the component at an address.  What the call leaves behind is taken over whatever its
result. -/
def invoke (s : Session) (a : Address) (method : String) (inputs : Inputs) : Step :=
  s.withComponent a fun c =>
    let called := (s.records.resolve c).invoke s.page s.config method inputs
    { s with records := s.records.update a c called.component }.done
      (.called called.result called.inputs called.component) called.effects

/-- Changes the component at an address and shows it. -/
def change (s : Session) (a : Address) (f : Component QuickForm → Component QuickForm) : Step :=
  s.withComponent a fun c =>
    let changed := f (s.records.resolve c)
    { s with records := s.records.update a c changed }.done (.component changed) []

/-- Writes amount and mark of a form; other components have none. -/
def setFields (amount : Option Amount) (submitting : Option Bool) :
    Component QuickForm → Component QuickForm
  | .transactionForm f =>
    .transactionForm
      { f with amount := amount.getD f.amount, submitting := submitting.getD f.submitting }
  | .quickForm f => .quickForm ⟨amount.getD f.amount, submitting.getD f.submitting⟩
  | c => c

/-! ## Store -/

def save (s : Session) (key text : String) : Step :=
  let effects := [Effect.save key text]
  s.done (.storeSize (s.store.apply effects).size) effects

def loadFlag (s : Session) (key : String) : Step :=
  let (flag, effects) := s.store.flagAt key
  s.done (.flag flag) effects

/-! ## Regions -/

def bindRegion (s : Session) (g : Region) : Step :=
  let (records, effects) := s.records.bindRegion s.workshop g
  { s with records := records }.done (.region (records.bound? g.id)) effects

def dropRegion (s : Session) (g : Region) : Step :=
  let (records, effects) := s.records.dropRegion g
  { s with records := records }.done (.region (records.bound? g.id)) effects

def rebuild (s : Session) (g : Region) (hasRebuilder hasTarget : Bool) : Step :=
  let rebuilder? := if hasRebuilder then some (Records.rebuilder s.workshop) else none
  let target? := if hasTarget then some g else none
  let (done, records, effects) := AccountingPage.rebuild rebuilder? target? (s.records, [])
  { s with records := records }.done (.rebuilt done (records.bound? g.id)) effects

/-! ## Submits -/

/-- Does something with the quick form at an address. -/
def withForm (s : Session) (a : Address) (act : FormId → Step) : Step :=
  match (s.records.find? a).bind Component.quickForm? with
  | some id => act id
  | none => s.done .missing []

/-- Takes over what one half of a submit leaves behind. -/
def advance (s : Session) (id : FormId) (p : Submission.Progress) : Session :=
  { s with records := s.records.setForm id p.form }

/-- The answer to a half that did not wait. -/
def outcome? (p : Submission.Progress) : Option Submission.Outcome :=
  match p.status with
  | .awaiting _ => none
  | .finished o => some o

/-- Delivers an answer to a record's submit. -/
def deliver (s : Session) (flight : Flight) (answer : NetworkAnswer) : Session ×
    Submission.Progress :=
  let form := s.records.forms.get flight.form
  let p := Submission.resume (s.surroundings flight.watched) form answer
  (s.advance flight.form p, p)

/-- Starts a submit under a name.  A name belongs to one submit: whichever waited under it before is
dropped, whatever becomes of the new one, and the record of the dropped one stays marked. -/
def submit (s : Session) (id : String) (a : Address) (source : Except String Fields)
    (watched : Bool) (answer : Option NetworkAnswer) : Step :=
  s.withForm a fun form =>
    let p := Submission.start (s.surroundings watched) (s.records.forms.get form) source
    let s := { s.advance form p with flights := s.flights.erase id }
    let flight : Flight := ⟨form, watched⟩
    match p.status, answer with
    | .finished o, _ => s.done (.progress (some o) p.form) p.effects
    | .awaiting _, none =>
      { s with flights := s.flights.insert id flight }.done (.progress none p.form) p.effects
    | .awaiting _, some answer =>
      let (s, q) := s.deliver flight answer
      s.done (.progress (outcome? q) q.form) (p.effects ++ q.effects)

def respond (s : Session) (id : String) (answer : Option NetworkAnswer) : Step :=
  match s.flights.get? id, answer with
  | none, _ => s.done .missing []
  | some flight, none => s.done (.progress none (s.records.forms.get flight.form)) []
  | some flight, some answer =>
    let (s, p) := s.deliver flight answer
    { s with flights := s.flights.erase id }.done (.progress (outcome? p) p.form) p.effects

/-- Drops a submit.  Its record stays marked. -/
def cancel (s : Session) (id : String) : Step :=
  match s.flights.get? id with
  | none => s.done .missing []
  | some flight =>
    { s with flights := s.flights.erase id }.done (.form (s.records.forms.get flight.form)) []

/-! ## One operation, and many -/

def step (s : Session) : Op → Step
  | .mount component slot element => s.mount component slot element
  | .inspect a => s.done (s.shown a) []
  | .copy a slot => s.copy a slot
  | .invoke a method inputs => s.invoke a method inputs
  | .takeBack a props => s.change a (Component.takeBack props)
  | .overwrite a amount submitting => s.change a (setFields amount submitting)
  | .save key text => s.save key text
  | .load key => s.done (.stored (s.store.get? key) s.store.size) [.load key]
  | .saveFlag key flag => s.save key (flagText flag)
  | .loadFlag key => s.loadFlag key
  | .setTag name content => { s with page := s.page.setTag name content }.done .none []
  | .bindRegion g => s.bindRegion g
  | .dropRegion g => s.dropRegion g
  | .viewRegion id => s.done (.region (s.records.bound? id)) []
  | .rebuild g hasRebuilder hasTarget => s.rebuild g hasRebuilder hasTarget
  | .submit id a source watched answer => s.submit id a source watched answer
  | .respond id answer => s.respond id answer
  | .cancel id => s.cancel id

/-- The state after some operations, and what each of them answered and did. -/
def run (s : Session) : List Op → Session × List (Answer × List Effect)
  | [] => (s, [])
  | op :: ops =>
    let t := s.step op
    let (last, rest) := t.session.run ops
    (last, (t.answer, t.effects) :: rest)

end Session

end AccountingPage
