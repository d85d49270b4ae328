import AccountingPage.Proofs.Operations

/-!
# One submit at a time

Two submits of one form must never be under way together, or a transaction is posted twice.  All
that prevents it is the form's mark, which submits set and clear while copies of the form, answers
in any order and swapped regions come between.

To say that the mark does its work, every submit is written down in a `Ledger` from what the
operations answer and do: which form it was started on, how many requests it has posted, and what
has become of it (`Fate`).  A submit that is dropped while it waits never finishes.

* `Ledger.Balanced` is the invariant: the unfinished submits of a form are as many as its mark says,
  and the submits under way are those that wait in the ledger.
* `Ledger.balanced_step` keeps it over one operation, `Ledger.Kept.run` over a run.
* `Session.single_flight` is what follows for every run from a session at rest.
-/

set_option autoImplicit false

namespace AccountingPage

/-! ## The ledger -/

/-- What has become of a submit. -/
inductive Fate where
  | ignored
  /-- It is under way, by this name. -/
  | waiting (name : String)
  /-- It was dropped while it was under way. -/
  | dropped
  | finished
deriving DecidableEq

/-- A submit in the ledger. -/
structure Attempt where
  form : FormId
  fate : Fate
  /-- How many requests it has posted. -/
  posts : Nat
deriving DecidableEq

namespace Attempt

/-- It was not ignored, and has not finished. -/
def isOpen (x : Attempt) : Bool :=
  match x.fate with
  | .waiting _ | .dropped => true
  | .ignored | .finished => false

def isWaiting (name : String) (x : Attempt) : Bool := x.fate = .waiting name

def openOn (f : FormId) (x : Attempt) : Bool := x.form = f ∧ x.isOpen

def waitingOn (name : String) (f : FormId) (x : Attempt) : Bool := x.form = f ∧ x.isWaiting name

/-- Drops the submit that is under way by a name. -/
def drop (name : String) (x : Attempt) : Attempt :=
  if x.isWaiting name then { x with fate := .dropped } else x

/-- Finishes the submit that is under way by a name, with the requests that it posts on the way. -/
def finish (name : String) (posts : Nat) (x : Attempt) : Attempt :=
  if x.isWaiting name then { x with fate := .finished, posts := x.posts + posts } else x

/-- Where a submit stands after its start, by the outcome that was answered. -/
def fateAfterStart (name : String) : Option Submission.Outcome → Fate
  | none => .waiting name
  | some .ignored => .ignored
  | some _ => .finished

end Attempt

/-- The submits of a session, the latest first. -/
abbrev Ledger := List Attempt

namespace Ledger

/-- How many submits of a form have been accepted and have not finished. -/
def unfinished (l : Ledger) (f : FormId) : Nat := l.countP (Attempt.openOn f)

/-- Enters what an operation does to the submits, as its answer and its effects show it.  A submit
that takes the name of another drops that one. -/
def record (l : Ledger) (s : Session) (op : Op) : Ledger :=
  let t := s.step op
  let posts := (Submission.requests t.effects).length
  match op, t.answer with
  | .submit name a _ _ _, .progress outcome _ =>
    match s.formAt? a with
    | some f => ⟨f, Attempt.fateAfterStart name outcome, posts⟩ :: l.map (Attempt.drop name)
    | none => l
  | .respond name _, .progress (some _) _ => l.map (Attempt.finish name posts)
  | .cancel name, .form _ => l.map (Attempt.drop name)
  | _, _ => l

/-- Enters the operations of a run, one after the other. -/
def recordAll (l : Ledger) (s : Session) : List Op → Ledger
  | [] => l
  | op :: ops => (l.record s op).recordAll (s.step op).session ops

end Ledger

/-- The ledger of a run. -/
def Session.ledger (s : Session) (ops : List Op) : Ledger := Ledger.recordAll [] s ops

/-! ## What dropping and finishing do to the counts

A dropped submit is as unfinished as one that waits, so dropping changes no count of unfinished
submits.  Finishing takes from the count exactly those that waited by the name. -/

namespace Attempt

theorem openOn_drop (name : String) (f : FormId) (x : Attempt) :
    (x.drop name).openOn f = x.openOn f := by
  rw [drop]
  split
  · rename_i h
    have hfate : x.fate = .waiting name := by simpa [isWaiting] using h
    simp [openOn, isOpen, hfate]
  · rfl

theorem waitingOn_drop (name name' : String) (f : FormId) (x : Attempt) :
    (x.drop name).waitingOn name' f = (decide (name' ≠ name) && x.waitingOn name' f) := by
  rw [drop]
  by_cases h : x.fate = .waiting name
  · by_cases hn : name' = name <;> simp [waitingOn, isWaiting, h, hn, Ne.symm]
  · by_cases hn : name' = name <;> simp [waitingOn, isWaiting, h, hn]

theorem waitingOn_finish (name name' : String) (posts : Nat) (f : FormId) (x : Attempt) :
    (x.finish name posts).waitingOn name' f = (decide (name' ≠ name) && x.waitingOn name' f) := by
  rw [finish]
  by_cases h : x.fate = .waiting name
  · by_cases hn : name' = name <;> simp [waitingOn, isWaiting, h, hn, Ne.symm]
  · by_cases hn : name' = name <;> simp [waitingOn, isWaiting, h, hn]

theorem waitingOn_eq_false {x : Attempt} (h : x.isOpen = false) (name : String) (f : FormId) :
    x.waitingOn name f = false := by
  cases hf : x.fate <;> simp [isOpen, hf] at h <;> simp [waitingOn, isWaiting, hf]

end Attempt

namespace Ledger

theorem countP_waitingOn_eq_zero {l : Ledger} {g : Attempt → Attempt} {name name' : String}
    {f : FormId}
    (hg : ∀ x, (g x).waitingOn name' f = (decide (name' ≠ name) && x.waitingOn name' f)) :
    (l.map g).countP (Attempt.waitingOn name' f) =
      if name' = name then 0 else l.countP (Attempt.waitingOn name' f) := by
  rw [List.countP_map]
  by_cases hn : name' = name
  · subst hn
    rw [if_pos rfl]
    exact List.countP_eq_zero.2 fun x _ => by simp [hg]
  · rw [if_neg hn]
    exact List.countP_congr fun x _ => by simp [hg, hn]

theorem unfinished_drop (l : Ledger) (name : String) (f : FormId) :
    unfinished (l.map (Attempt.drop name)) f = l.unfinished f := by
  rw [unfinished, List.countP_map]
  exact List.countP_congr fun x _ => by simp [Attempt.openOn_drop]

theorem unfinished_finish (l : Ledger) (name : String) (posts : Nat) (f : FormId) :
    unfinished (l.map (Attempt.finish name posts)) f + l.countP (Attempt.waitingOn name f) =
      l.unfinished f := by
  induction l with
  | nil => rfl
  | cons x l ih =>
    have hx : (if (x.finish name posts).openOn f then 1 else 0) +
        (if x.waitingOn name f then 1 else 0) = if x.openOn f then 1 else 0 := by
      rw [Attempt.finish]
      by_cases h : x.fate = .waiting name
      · by_cases hf : x.form = f <;>
          simp [Attempt.openOn, Attempt.waitingOn, Attempt.isOpen, Attempt.isWaiting, h, hf]
      · simp [Attempt.waitingOn, Attempt.isWaiting, h]
    simp only [unfinished, List.map_cons, List.countP_cons] at ih ⊢
    omega

/-! ## The invariant -/

/-- The ledger and the session agree: on how many submits of each form are unfinished, and on which
submits are under way. -/
structure Balanced (l : Ledger) (s : Session) : Prop where
  unfinished : ∀ f, l.unfinished f = (s.marked f).toNat
  waiting : ∀ name f, l.countP (Attempt.waitingOn name f) =
    if (s.flights.get? name).map Flight.form = some f then 1 else 0
  posts : ∀ x ∈ l, x.posts ≤ 1 ∧ (x.fate = .ignored → x.posts = 0)

variable {l : Ledger} {s t : Session}

/-- Only the marks and the submits under way matter. -/
theorem Balanced.congr (h : l.Balanced s) (hm : ∀ f, t.marked f = s.marked f)
    (hf : t.flights = s.flights) : l.Balanced t where
  unfinished f := (h.unfinished f).trans (congrArg Bool.toNat (hm f).symm)
  waiting name f := hf ▸ h.waiting name f
  posts := h.posts

theorem Balanced.drop (h : l.Balanced s) (name : String) :
    Balanced (l.map (Attempt.drop name)) { s with flights := s.flights.erase name } where
  unfinished f := (unfinished_drop l name f).trans (h.unfinished f)
  waiting name' f := by
    rw [countP_waitingOn_eq_zero (Attempt.waitingOn_drop name name' f), h.waiting,
      TextMap.get?_erase]
    by_cases hn : name' = name
    · simp [hn]
    · simp [hn, Ne.symm hn]
  posts := by
    refine List.forall_mem_map.2 fun x hx => ?_
    rw [Attempt.drop]
    split
    · exact ⟨(h.posts x hx).1, nofun⟩
    · exact h.posts x hx

/-- An ignored submit and one that has finished change no count. -/
theorem Balanced.cons (h : l.Balanced s) {x : Attempt} (hopen : x.isOpen = false)
    (hposts : x.posts ≤ 1) (hignored : x.fate = .ignored → x.posts = 0) :
    Balanced (x :: l) s where
  unfinished f := by
    rw [Ledger.unfinished, List.countP_cons_of_neg (by simp [Attempt.openOn, hopen])]
    exact h.unfinished f
  waiting name f := by
    rw [List.countP_cons_of_neg (by simp [Attempt.waitingOn_eq_false hopen])]
    exact h.waiting name f
  posts := List.forall_mem_cons.2 ⟨⟨hposts, hignored⟩, h.posts⟩

/-- A submit that goes under way takes the place that its form had free, by a name that was free. -/
theorem Balanced.cons_waiting (h : l.Balanced s) {f : FormId} {name : String}
    (hfree : s.flights.get? name = none) (hf : s.marked f = false)
    (hmarked : ∀ g, t.marked g = if g = f then true else s.marked g) (watched : Bool)
    (hflights : t.flights = s.flights.insert name ⟨f, watched⟩) :
    Balanced (⟨f, .waiting name, 1⟩ :: l) t where
  unfinished g := by
    have hg := h.unfinished g
    rw [Ledger.unfinished] at hg ⊢
    rw [List.countP_cons, hg, hmarked]
    by_cases hgf : g = f
    · subst hgf
      simp [Attempt.openOn, Attempt.isOpen, hf]
    · simp [Attempt.openOn, hgf, Ne.symm hgf]
  waiting name' g := by
    rw [List.countP_cons, h.waiting, hflights, TextMap.get?_insert]
    by_cases hn : name' = name
    · subst hn
      simp [Attempt.waitingOn, Attempt.isWaiting, hfree]
    · simp [Attempt.waitingOn, Attempt.isWaiting, Ne.symm hn]
  posts := List.forall_mem_cons.2 ⟨⟨Nat.le_refl _, nofun⟩, h.posts⟩

/-- A submit that finishes frees its form: it was the only unfinished one. -/
theorem Balanced.finish (h : l.Balanced s) {name : String} {flight : Flight}
    (hflight : s.flights.get? name = some flight)
    (hmarked : ∀ g, t.marked g = if g = flight.form then false else s.marked g)
    (hflights : t.flights = s.flights.erase name) :
    Balanced (l.map (Attempt.finish name 0)) t where
  unfinished g := by
    have hcount := unfinished_finish l name 0 g
    rw [h.waiting, h.unfinished, hflight, Option.map_some] at hcount
    have hle := Bool.toNat_le (s.marked g)
    rw [hmarked]
    by_cases hg : g = flight.form
    · rw [if_pos (congrArg some hg.symm)] at hcount
      rw [if_pos hg, Bool.toNat_false]
      omega
    · rw [if_neg fun heq => hg (Option.some.inj heq).symm] at hcount
      rw [if_neg hg]
      omega
  waiting name' g := by
    rw [countP_waitingOn_eq_zero (Attempt.waitingOn_finish name name' 0 g), h.waiting, hflights,
      TextMap.get?_erase]
    by_cases hn : name' = name
    · simp [hn]
    · simp [hn, Ne.symm hn]
  posts := by
    refine List.forall_mem_map.2 fun x hx => ?_
    rw [Attempt.finish]
    split
    · exact ⟨(h.posts x hx).1, nofun⟩
    · exact h.posts x hx

/-! ## One operation, and a run -/

theorem record_of_not_submit {op : Op} (h : op.isSubmit = false) : l.record s op = l := by
  cases op with
  | submit | respond | cancel => exact absurd h (by simp [Op.isSubmit])
  | _ => rfl

/-- What is entered of a submit that has started, be it ignored, over or under way. -/
theorem record_submit {name : String} {a : Address} {source : Except String Fields} {watched : Bool}
    {answer : Option NetworkAnswer} {t : Session.Step} {outcome : Option Submission.Outcome}
    {form : QuickForm} {f : FormId} (ht : s.step (.submit name a source watched answer) = t)
    (hanswer : t.answer = .progress outcome form) (hf : s.formAt? a = some f) :
    l.record s (.submit name a source watched answer) =
      ⟨f, Attempt.fateAfterStart name outcome, (Submission.requests t.effects).length⟩ ::
        l.map (Attempt.drop name) := by
  simp only [record, ht, hanswer, hf]

theorem fateAfterStart_ofResult (name : String) (result : Except Failure TransactionId) :
    Attempt.fateAfterStart name (some (.ofResult result)) = .finished := by
  cases result <;> rfl

theorem balanced_submit (hs : s.records.WellFormed) (h : l.Balanced s) (name : String) (a : Address)
    (source : Except String Fields) (watched : Bool) (answer : Option NetworkAnswer) :
    (l.record s (.submit name a source watched answer)).Balanced
      (s.step (.submit name a source watched answer)).session := by
  cases hf : s.formAt? a with
  | none =>
    have hstep := Session.submit_of_formAt?_eq_none hf name source watched answer
    simp only [record, hstep]
    exact h
  | some f =>
    have hlt := Session.lt_nextId_of_formAt? hs hf
    have hdrop := h.drop name
    cases hm : s.marked f with
    | true =>
      have hstep := Session.submit_of_marked hf hm name source watched answer
      rw [record_submit hstep rfl hf, hstep]
      exact hdrop.cons rfl (Nat.zero_le _) fun _ => rfl
    | false =>
      cases source with
      | error reason =>
        have hstep := Session.submit_unreadable hf hm name reason watched answer
        rw [record_submit hstep rfl hf, hstep]
        exact hdrop.cons rfl (by simp) (by simp [Attempt.fateAfterStart])
      | ok fields =>
        cases answer with
        | none =>
          have hstep := Session.submit_waiting hf hm name fields watched
          rw [record_submit hstep rfl hf, hstep]
          simp only [Submission.requests_append, Submission.requests_opening,
            Submission.requests_variableWarnings, Submission.requests_post,
            Submission.requests_nil]
          refine hdrop.cons_waiting (by simp) hm (Forms.marked_set_mark hlt) watched ?_
          refine TextMap.ext_get? fun k => ?_
          by_cases hk : name = k <;> simp [Session.waiting, hk]
        | some answer =>
          have hstep := Session.submit_answered hf hlt hm name fields watched answer
          rw [record_submit hstep rfl hf, hstep, fateAfterStart_ofResult]
          exact hdrop.cons rfl (by simp) (by simp)

theorem balanced_respond (h : l.Balanced s) (name : String) (answer : Option NetworkAnswer) :
    (l.record s (.respond name answer)).Balanced (s.step (.respond name answer)).session := by
  cases hflight : s.flights.get? name with
  | none =>
    simp only [record, Session.respond_of_get?_eq_none hflight]
    exact h
  | some flight =>
    cases answer with
    | none =>
      simp only [record, Session.respond_none_of_waiting hflight]
      exact h
    | some answer =>
      simp only [record, Session.respond_of_waiting hflight, Submission.requests_append,
        Submission.requests_statusLog, Submission.requests_ending, Submission.requests_redrawn]
      exact h.finish hflight (Forms.marked_set_free _ _) rfl

theorem balanced_cancel (h : l.Balanced s) (name : String) :
    (l.record s (.cancel name)).Balanced (s.step (.cancel name)).session := by
  cases hflight : s.flights.get? name with
  | none =>
    simp only [record, Session.cancel_of_get?_eq_none hflight]
    exact h
  | some flight =>
    simp only [record, Session.cancel_of_waiting hflight]
    exact h.drop name

theorem balanced_step (hs : s.records.WellFormed) (hw : s.registry.MakesIdle) (h : l.Balanced s)
    {op : Op} (hop : op.writesMark = false) : (l.record s op).Balanced (s.step op).session := by
  cases hsub : op.isSubmit with
  | false =>
    rw [record_of_not_submit hsub]
    exact h.congr (Session.calm_step hw hsub hop) (Session.flights_step hsub)
  | true =>
    cases op with
    | submit name a source watched answer => exact balanced_submit hs h name a source watched answer
    | respond name answer => exact balanced_respond h name answer
    | cancel name => exact balanced_cancel h name
    | _ => exact absurd hsub (by simp [Op.isSubmit])

/-- A session whose references are in its table, whose registry makes idle forms and whose submits
are written down in the ledger. -/
structure Kept (l : Ledger) (s : Session) : Prop where
  wellFormed : s.records.WellFormed
  makesIdle : s.registry.MakesIdle
  balanced : l.Balanced s

theorem Kept.step (h : l.Kept s) {op : Op} (hop : op.writesMark = false) :
    (l.record s op).Kept (s.step op).session where
  wellFormed := Session.wellFormed_step h.wellFormed op
  makesIdle := by
    rw [(Session.sameFrame_step op).registry]
    exact h.makesIdle
  balanced := balanced_step h.wellFormed h.makesIdle h.balanced hop

theorem Kept.run (h : l.Kept s) {ops : List Op} (hops : ∀ op ∈ ops, op.writesMark = false) :
    (l.recordAll s ops).Kept (s.run ops).1 := by
  induction ops generalizing l s with
  | nil => exact h
  | cons op ops ih =>
    obtain ⟨hop, hops⟩ := List.forall_mem_cons.1 hops
    exact ih (h.step hop) hops

end Ledger

/-! ## Every run from a session at rest -/

namespace Session

/-- No submit is under way and every form is idle, as the registry makes it. -/
structure AtRest (s : Session) : Prop where
  wellFormed : s.records.WellFormed
  makesIdle : s.registry.MakesIdle
  flights : s.flights = .empty
  unmarked : ∀ f, s.marked f = false

theorem atRest_start (config : Config) (page : Page) (store : Store) :
    (start config page store).AtRest :=
  ⟨Records.wellFormed_empty, Registry.makesIdle_standard, rfl, fun f => by
    simp [marked, Forms.marked, start, Records.empty, Forms.empty, Forms.get, QuickForm.idle]⟩

theorem AtRest.kept {s : Session} (h : s.AtRest) : Ledger.Kept [] s where
  wellFormed := h.wellFormed
  makesIdle := h.makesIdle
  balanced := ⟨fun f => by rw [h.unmarked]; rfl, fun name f => by simp [h.flights], nofun⟩

/-- What is promised of a session and the ledger of its submits. -/
structure SingleFlight (s : Session) (l : Ledger) : Prop where
  /-- A form never has two unfinished submits. -/
  unfinished_le : ∀ f, l.unfinished f ≤ 1
  /-- A form is marked just as long as it has one. -/
  marked_iff : ∀ f, s.marked f = true ↔ l.unfinished f = 1
  /-- The submits under way are those that wait in the ledger. -/
  waiting_iff : ∀ name f, (∃ watched, s.flights.get? name = some ⟨f, watched⟩) ↔
    ∃ x ∈ l, x.form = f ∧ x.fate = .waiting name
  /-- A submit posts once at most, and never if it was ignored. -/
  posts : ∀ x ∈ l, x.posts ≤ 1 ∧ (x.fate = .ignored → x.posts = 0)
  /-- Wherever the form is held, a submit of it is ignored while another one is unfinished. -/
  ignored : ∀ a f, s.formAt? a = some f → l.unfinished f = 1 →
    ∀ name source watched answer,
      let t := s.step (.submit name a source watched answer)
      t.answer = .progress (some .ignored) (s.records.forms.get f) ∧
        t.effects = [.log .alreadySubmitting] ∧ t.session.records = s.records
  /-- Otherwise it is accepted, and posts its request if the form can be read. -/
  accepted : ∀ a f, s.formAt? a = some f → l.unfinished f = 0 →
    ∀ name source watched answer,
      let t := s.step (.submit name a source watched answer)
      (∃ outcome form, t.answer = .progress outcome form ∧ outcome ≠ some .ignored) ∧
        Submission.requests t.effects =
          source.toOption.toList.map fun fields => .ofFields fields s.page s.config

theorem SingleFlight.of_kept {s : Session} {l : Ledger} (h : l.Kept s) : s.SingleFlight l where
  unfinished_le f := h.balanced.unfinished f ▸ Bool.toNat_le _
  marked_iff f := by
    rw [h.balanced.unfinished]
    cases s.marked f <;> simp
  waiting_iff name f := by
    have hcount := h.balanced.waiting name f
    have hmem : (∃ x ∈ l, x.form = f ∧ x.fate = .waiting name) ↔
        0 < l.countP (Attempt.waitingOn name f) := by
      rw [List.countP_pos_iff]
      simp [Attempt.waitingOn, Attempt.isWaiting]
    rw [hmem, hcount]
    cases s.flights.get? name with
    | none => simp
    | some flight =>
      obtain ⟨form, watched⟩ := flight
      by_cases hform : form = f <;> simp [hform]
  posts := h.balanced.posts
  ignored a f hf hone name source watched answer := by
    have hm : s.marked f = true := by
      rw [h.balanced.unfinished] at hone
      exact Bool.toNat_eq_one.1 hone
    rw [submit_of_marked hf hm]
    exact ⟨rfl, rfl, rfl⟩
  accepted a f hf hzero name source watched answer := by
    have hm : s.marked f = false := by
      rw [h.balanced.unfinished] at hzero
      exact Bool.toNat_eq_zero.1 hzero
    cases source with
    | error reason =>
      rw [submit_unreadable hf hm]
      exact ⟨⟨_, _, rfl, nofun⟩, by simp [Except.toOption]⟩
    | ok fields =>
      cases answer with
      | none =>
        rw [submit_waiting hf hm]
        exact ⟨⟨_, _, rfl, nofun⟩, by simp [Except.toOption]⟩
      | some answer =>
        rw [submit_answered hf (lt_nextId_of_formAt? h.wellFormed hf) hm]
        refine ⟨⟨_, _, rfl, ?_⟩, by simp [Except.toOption]⟩
        cases Submission.settled answer <;> exact nofun

/-- **One submit at a time.**  Start from a session at rest and do anything, in any order, on any
number of forms and copies of them, but do not write marks from outside: a form is marked exactly
as long as one of its submits is unfinished, and it never has two. -/
theorem single_flight {s : Session} (hs : s.AtRest) {ops : List Op}
    (hops : ∀ op ∈ ops, op.writesMark = false) :
    (s.run ops).1.SingleFlight (s.ledger ops) :=
  .of_kept (hs.kept.run hops)

/-- A form, a copy of it, and two clicks before the answer, one on each. -/
def doubleClick : List Op :=
  [.mount "quickTransactionForm" "form" .bare, .copy (.slot "form") "copy",
    .submit "first" (.slot "form") (.ok ⟨[]⟩) true none,
    .submit "second" (.slot "copy") (.ok ⟨[]⟩) true none]

theorem single_flight_doubleClick :
    let s := start .standard ⟨.empty, []⟩ .empty
    s.AtRest ∧ (∀ op ∈ doubleClick, op.writesMark = false) ∧
      s.ledger doubleClick = [⟨0, .ignored, 0⟩, ⟨0, .waiting "first", 1⟩] ∧
      (s.run doubleClick).1.SingleFlight (s.ledger doubleClick) :=
  ⟨atRest_start .., by decide, by decide +kernel, single_flight (atRest_start ..) (by decide)⟩

end Session

end AccountingPage
