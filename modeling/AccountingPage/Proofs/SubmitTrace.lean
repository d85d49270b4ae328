import Mathlib.Algebra.Ring.Nat
import Mathlib.Data.List.Basic
import AccountingPage.Proofs.Operations

/-!
# A submit from beginning to end

When nothing comes between a submit and its answer, what happens depends on three things alone:
whether the form was marked, what reading it gave, and what the network answered.

* `Submission.Trace` lists the six ways in which a submit can go, each with its effects in order
  and its outcome.  `Submission.Trace.unique` says that the three things leave no choice.
* `Submission.alertText?` is what the user is alerted of, read off the three things without a detour
  over failures; `Submission.Trace.alerts_eq` says that nothing else is.
* `Session.RunsThrough` is what is promised of a whole submit: its trace, its request, its alert, its
  log, and that the session is as before.
* `Session.submit_runsThrough` proves it for every form, and for both ways of delivering the answer.

The variables that the log warns about are described anew, by their entries
(`Fields.variableWarnings_eq`), and so is the header of the request (`Request.mem_headers_ofFields`).
-/

set_option autoImplicit false

namespace AccountingPage

/-! ## Variables that are too large -/

theorem Amount.ofDigits?_digitsOf_eq_none_iff {raw : String} (h : digitsOf raw ≠ "") :
    ofDigits? (digitsOf raw) = none ↔
      2 ^ 64 ≤ Text.decimalValue (raw.toList.filter Char.isDigit) := by
  have hne : (digitsOf raw).toList ≠ [] := fun hnil => h (String.toList_eq_nil_iff.1 hnil)
  rw [Amount.ofDigits?, if_neg (by simpa using hne), Amount.ofNat?, Nat.pow_eq, digitsOf,
    String.toList_ofList]
  split <;> simp <;> omega

namespace Fields

/-- The entry is a variable's, and its digits spell a number that is no amount. -/
def IsOversized (e : String × String) : Prop :=
  "var_".toList <+: e.1.toList ∧ 2 ^ 64 ≤ Text.decimalValue (e.2.toList.filter Char.isDigit)

instance : DecidablePred IsOversized := fun _ => inferInstanceAs (Decidable (_ ∧ _))

/-- What stands behind `var_` in the name of an entry. -/
def variableName (e : String × String) : String := String.ofList (e.1.toList.drop 4)

theorem oversizedVariable?_eq (e : String × String) :
    oversizedVariable? e = if IsOversized e then some (variableName e) else none := by
  rw [oversizedVariable?, variableText?]
  cases hname : variableStart.isPrefixOf? e.1.toList with
  | none =>
    have hpre : ¬"var_".toList <+: e.1.toList := by
      rintro ⟨name, h⟩
      rw [← List.isPrefixOf?_eq_some_iff_append_eq] at h
      exact absurd (hname.symm.trans h) (by simp)
    rw [if_neg fun h => hpre h.1]
    rfl
  | some name =>
    have happ := List.isPrefixOf?_eq_some_iff_append_eq.1 hname
    have hpre : "var_".toList <+: e.1.toList := ⟨name, happ⟩
    have hdrop : variableName e = String.ofList name := by
      rw [variableName, ← happ]
      rfl
    by_cases hdigits : digitsOf e.2 = ""
    · have hnil : e.2.toList.filter Char.isDigit = [] := String.ofList_eq_empty_iff.1 hdigits
      simp [hdigits, IsOversized, hnil, Text.decimalValue]
    · cases hvalue : Amount.ofDigits? (digitsOf e.2) with
      | none =>
        have hle := (Amount.ofDigits?_digitsOf_eq_none_iff hdigits).1 hvalue
        rw [if_pos ⟨hpre, hle⟩, hdrop]
        simp [hdigits, hvalue]
      | some amount =>
        have hlt : ¬IsOversized e := fun h => by
          have := (Amount.ofDigits?_digitsOf_eq_none_iff hdigits).2 h.2
          exact absurd (hvalue.symm.trans this) (by simp)
        rw [if_neg hlt]
        simp [hdigits, hvalue]

/-- There is one warning for each entry that is too large, in the order of the entries. -/
theorem variableWarnings_eq (f : Fields) :
    f.variableWarnings =
      (f.entries.filter IsOversized).map fun e => .log (.skippedVariable (variableName e)) := by
  rw [variableWarnings, oversizedVariables, ← List.filterMap_eq_map, ← List.filterMap_eq_map,
    List.filterMap_filterMap, List.filterMap_filter]
  refine List.filterMap_congr fun e _ => ?_
  rw [oversizedVariable?_eq]
  by_cases h : IsOversized e <;> simp [h]

end Fields

/-! ## The header of a request -/

theorem Page.filledTag?_eq_some_iff {p : Page} {name content : String} :
    p.filledTag? name = some content ↔ p.tags.get? name = some content ∧ content ≠ "" := by
  simp [filledTag?, Option.filter_eq_some_iff]

namespace Request

/-- The header is there just if both tags are there and say something, and then it says what they
say. -/
theorem mem_headers_ofFields {f : Fields} {p : Page} {c : Config} {header token : String} :
    (header, token) ∈ (ofFields f p c).headers ↔
      (p.tags.get? c.csrfHeaderMeta = some header ∧ header ≠ "") ∧
        p.tags.get? c.csrfTokenMeta = some token ∧ token ≠ "" := by
  rw [← Page.filledTag?_eq_some_iff, ← Page.filledTag?_eq_some_iff, ofFields, Option.mem_toList,
    Page.csrfHeader?]
  cases p.filledTag? c.csrfTokenMeta <;> cases p.filledTag? c.csrfHeaderMeta <;> simp

theorem length_headers_ofFields_le (f : Fields) (p : Page) (c : Config) :
    (ofFields f p c).headers.length ≤ 1 := by
  rw [ofFields]
  cases p.csrfHeader? c <;> simp

end Request

/-! ## The ways in which a submit can go -/

namespace Submission

/-- A request is made. -/
def sending (s : Surroundings) (fields : Fields) : List Effect :=
  ((fields.entries.filter Fields.IsOversized).map fun e =>
      .log (.skippedVariable (Fields.variableName e))) ++
    [.post (.ofFields fields s.page s.config)]

/-- A failure is reported. -/
def alarm (s : Surroundings) (e : Failure) : List Effect :=
  [.log (.failed e), .alert (s.config.alertPrefix ++ e.message)]

/-- **What a submit does**, in order, and its outcome.  The form was marked or not, reading it gave
its entries or a reason, and the network answered with a reply or a reason. -/
inductive Trace (s : Surroundings) :
    Bool → Except String Fields → NetworkAnswer → List Effect → Outcome → Prop where
  | ignored (source : Except String Fields) (answer : NetworkAnswer) :
    Trace s true source answer [.log .alreadySubmitting] .ignored
  | unreadable (reason : String) (answer : NetworkAnswer) :
    Trace s false (.error reason) answer
      (opening s ++ alarm s (.form reason) ++ s.redrawn false) (.failed (.form reason))
  | unanswered (fields : Fields) (reason : String) :
    Trace s false (.ok fields) (.error reason)
      (opening s ++ sending s fields ++ alarm s (.transport reason) ++ s.redrawn false)
      (.failed (.transport reason))
  | rejected (fields : Fields) {status : Nat} (body : String) (h : ¬(200 ≤ status ∧ status ≤ 299)) :
    Trace s false (.ok fields) (.ok ⟨status, body⟩)
      (opening s ++ sending s fields ++ [.log (.responseStatus status)] ++
        alarm s (.rejected status body) ++ s.redrawn false)
      (.failed (.rejected status body))
  | undecodable (fields : Fields) {status : Nat} {body : String} {e : Json.Error}
    (h : 200 ≤ status ∧ status ≤ 299) (he : TransactionId.ofJson body = .error e) :
    Trace s false (.ok fields) (.ok ⟨status, body⟩)
      (opening s ++ sending s fields ++ [.log (.responseStatus status)] ++
        alarm s (.decode e) ++ s.redrawn false)
      (.failed (.decode e))
  | created (fields : Fields) {status : Nat} {body : String} {id : TransactionId}
    (h : 200 ≤ status ∧ status ≤ 299) (hid : TransactionId.ofJson body = .ok id) :
    Trace s false (.ok fields) (.ok ⟨status, body⟩)
      (opening s ++ sending s fields ++ [.log (.responseStatus status)] ++
        [.log (.created id),
          .closeDialog s.config.quickModalId (s.page.hasDialog s.config.quickModalId),
          .navigate (s.config.transactionDetailPrefix ++ id.display)] ++
        s.redrawn false)
      (.created id)

variable {s : Surroundings} {marked : Bool} {source : Except String Fields} {answer : NetworkAnswer}
  {effects effects' : List Effect} {outcome outcome' : Outcome}

/-- There is one way at most. -/
theorem Trace.unique (h : Trace s marked source answer effects outcome)
    (h' : Trace s marked source answer effects' outcome') :
    effects = effects' ∧ outcome = outcome' := by
  cases h with
  | ignored => cases h'; exact ⟨rfl, rfl⟩
  | unreadable => cases h'; exact ⟨rfl, rfl⟩
  | unanswered => cases h'; exact ⟨rfl, rfl⟩
  | rejected _ _ hs =>
    cases h' with
    | rejected => exact ⟨rfl, rfl⟩
    | undecodable _ hs' | created _ hs' => exact absurd hs' hs
  | undecodable _ hs he =>
    cases h' with
    | rejected _ _ hs' => exact absurd hs hs'
    | undecodable _ _ he' =>
      cases he.symm.trans he'
      exact ⟨rfl, rfl⟩
    | created _ _ hid => exact absurd (he.symm.trans hid) nofun
  | created _ hs hid =>
    cases h' with
    | rejected _ _ hs' => exact absurd hs hs'
    | undecodable _ _ he => exact absurd (hid.symm.trans he) nofun
    | created _ _ hid' =>
      cases hid.symm.trans hid'
      exact ⟨rfl, rfl⟩

theorem settled_of_not_succeeded {status : Nat} (h : ¬(200 ≤ status ∧ status ≤ 299))
    (body : String) : settled (.ok ⟨status, body⟩) = .error (.rejected status body) := by
  rw [settled, Reply.created, if_neg]
  simp only [Reply.succeeded, Bool.and_eq_true, decide_eq_true_eq]
  omega

theorem settled_of_succeeded {status : Nat} (h : 200 ≤ status ∧ status ≤ 299) (body : String) :
    settled (.ok ⟨status, body⟩) = (TransactionId.ofJson body).mapError .decode := by
  rw [settled, Reply.created, if_pos]
  · cases TransactionId.ofJson body <;> rfl
  · simp only [Reply.succeeded, Bool.and_eq_true, decide_eq_true_eq]
    omega

/-- The way that a submit goes once its request is posted. -/
theorem trace_answered (s : Surroundings) (fields : Fields) (answer : NetworkAnswer) :
    Trace s false (.ok fields) answer
      (opening s ++ sending s fields ++ statusLog answer ++ ending s (settled answer) ++
        s.redrawn false)
      (.ofResult (settled answer)) := by
  cases answer with
  | error reason =>
    rw [statusLog, List.append_nil]
    exact .unanswered fields reason
  | ok reply =>
    obtain ⟨status, body⟩ := reply
    by_cases h : 200 ≤ status ∧ status ≤ 299
    · rw [settled_of_succeeded h]
      cases hid : TransactionId.ofJson body with
      | error e => exact .undecodable fields h hid
      | ok id => exact .created fields h hid
    · rw [settled_of_not_succeeded h]
      exact .rejected fields body h

/-! ### What all of them have in common -/

theorem filterMap_sending {α : Type} (pick : Effect → Option α) (s : Surroundings)
    (fields : Fields) :
    (sending s fields).filterMap pick =
      (fields.entries.filter Fields.IsOversized).filterMap
          (fun e => pick (.log (.skippedVariable (Fields.variableName e)))) ++
        (pick (.post (.ofFields fields s.page s.config))).toList := by
  rw [sending, List.filterMap_append, List.filterMap_map, List.filterMap_eq_flatMap_toList pick,
    List.flatMap_singleton]
  rfl

theorem requests_sending (s : Surroundings) (fields : Fields) :
    requests (sending s fields) = [.ofFields fields s.page s.config] := by
  rw [requests, filterMap_sending, List.filterMap_eq_nil_iff.2 fun _ _ => rfl]
  rfl

/-- A request is posted once, and only if the form was free and could be read. -/
theorem Trace.requests_eq (h : Trace s marked source answer effects outcome) :
    requests effects =
      if marked then [] else
        source.toOption.toList.map fun fields => .ofFields fields s.page s.config := by
  cases h <;>
    simp only [requests_append, requests_opening, requests_sending, requests_redrawn] <;> rfl

/-- The texts that the user is alerted of. -/
def alerts (effects : List Effect) : List String :=
  effects.filterMap fun
    | .alert text => some text
    | _ => none

theorem alerts_append (xs ys : List Effect) : alerts (xs ++ ys) = alerts xs ++ alerts ys :=
  List.filterMap_append

theorem alerts_redrawn (s : Surroundings) (b : Bool) : alerts (s.redrawn b) = [] :=
  filterMap_redrawn (fun _ => rfl) s b

theorem alerts_opening (s : Surroundings) : alerts (opening s) = [] :=
  filterMap_opening (fun _ => rfl) rfl s

theorem alerts_sending (s : Surroundings) (fields : Fields) : alerts (sending s fields) = [] := by
  rw [alerts, filterMap_sending, List.append_eq_nil_iff]
  exact ⟨List.filterMap_eq_nil_iff.2 fun _ _ => rfl, rfl⟩

/-- What the user has to be told: why the form could not be read, why there was no reply, the body of
a reply that turns the draft down, or what is wrong with a body that carries no id. -/
def alertText? : Bool → Except String Fields → NetworkAnswer → Option String
  | true, _, _ => none
  | false, .error reason, _ => some reason
  | false, .ok _, .error reason => some reason
  | false, .ok _, .ok reply =>
    if 200 ≤ reply.status ∧ reply.status ≤ 299 then
      match TransactionId.ofJson reply.body with
      | .ok _ => none
      | .error e => some e.message
    else some reply.body

/-- The user is alerted once at most, and of this. -/
theorem Trace.alerts_eq (h : Trace s marked source answer effects outcome) :
    alerts effects =
      (alertText? marked source answer).toList.map (s.config.alertPrefix ++ ·) := by
  cases h with
  | ignored => rfl
  | unreadable | unanswered =>
    simp only [alerts_append, alerts_opening, alerts_sending, alerts_redrawn]
    rfl
  | rejected _ body hs =>
    simp only [alerts_append, alerts_opening, alerts_sending, alerts_redrawn, alertText?, if_neg hs]
    rfl
  | undecodable _ hs he =>
    simp only [alerts_append, alerts_opening, alerts_sending, alerts_redrawn, alertText?, if_pos hs,
      he]
    rfl
  | created _ hs hid =>
    simp only [alerts_append, alerts_opening, alerts_sending, alerts_redrawn, alertText?, if_pos hs,
      hid]
    rfl

/-- The levels of what is logged, in order. -/
def levels (effects : List Effect) : List Level :=
  effects.filterMap fun
    | .log notice => some notice.level
    | _ => none

theorem levels_append (xs ys : List Effect) : levels (xs ++ ys) = levels xs ++ levels ys :=
  List.filterMap_append

theorem levels_redrawn (s : Surroundings) (b : Bool) : levels (s.redrawn b) = [] :=
  filterMap_redrawn (fun _ => rfl) s b

theorem levels_opening (s : Surroundings) : levels (opening s) = [.debug] :=
  filterMap_opening (fun _ => rfl) rfl s

theorem levels_sending (s : Surroundings) (fields : Fields) :
    levels (sending s fields) =
      .replicate (fields.entries.countP Fields.IsOversized) .warn := by
  rw [levels, filterMap_sending, List.countP_eq_length_filter, ← List.map_const',
    ← List.filterMap_eq_map]
  exact List.append_nil _

/-- The levels of what is logged before it is known how a submit ends: the endpoint, a warning for
each variable that is too large, and the status of the reply. -/
def stages : Except String Fields → NetworkAnswer → List Level
  | .error _, _ => [.debug]
  | .ok fields, .error _ => .debug :: .replicate (fields.entries.countP Fields.IsOversized) .warn
  | .ok fields, .ok _ =>
    .debug :: .replicate (fields.entries.countP Fields.IsOversized) .warn ++ [.debug]

/-- The levels of all that a submit logs.  Only a failure is logged as an error, and last of all. -/
def logged (source : Except String Fields) (answer : NetworkAnswer) : Outcome → List Level
  | .ignored => [.debug]
  | .created _ => stages source answer ++ [.debug]
  | .failed _ => stages source answer ++ [.error]

theorem Trace.levels_eq (h : Trace s marked source answer effects outcome) :
    levels effects = logged source answer outcome := by
  cases h with
  | ignored => rfl
  | _ =>
    simp only [levels_append, levels_opening, levels_sending, levels_redrawn]
    simp [levels, alarm, Notice.level, logged, stages]

end Submission

/-! ## Runs -/

namespace Session

/-- The answer comes at once, or as the next operation. -/
inductive Delivery where
  | atOnce
  | next
deriving DecidableEq

/-- The operations of one submit. -/
def Delivery.ops (d : Delivery) (name : String) (a : Address) (source : Except String Fields)
    (watched : Bool) (answer : NetworkAnswer) : List Op :=
  match d with
  | .atOnce => [.submit name a source watched (some answer)]
  | .next => [.submit name a source watched none, .respond name (some answer)]

/-- All effects of a run. -/
def allEffects (run : List (Answer × List Effect)) : List Effect := run.flatMap Prod.snd

/-- The outcomes that a run answers. -/
def outcomes (run : List (Answer × List Effect)) : List Submission.Outcome :=
  run.filterMap fun
    | (.progress outcome _, _) => outcome
    | _ => none

variable {s : Session} {a : Address} {f : FormId}

/-- A submit that is answered at once leaves the session as it was, but for the name. -/
theorem submit_trace (hs : s.records.WellFormed) (hf : s.formAt? a = some f) (name : String)
    (source : Except String Fields) (watched : Bool) (answer : NetworkAnswer) :
    ∃ effects outcome,
      Submission.Trace (s.surroundings watched) (s.marked f) source answer effects outcome ∧
        s.step (.submit name a source watched (some answer)) =
          ⟨{ s with flights := s.flights.erase name },
            .progress (some outcome) (s.records.forms.get f), effects⟩ := by
  cases hm : s.marked f with
  | true => exact ⟨_, _, .ignored source answer, submit_of_marked hf hm ..⟩
  | false =>
    cases source with
    | error reason =>
      refine ⟨_, _, .unreadable reason answer, ?_⟩
      rw [submit_unreadable hf hm, List.append_assoc]
      rfl
    | ok fields =>
      refine ⟨_, _, Submission.trace_answered (s.surroundings watched) fields answer, ?_⟩
      rw [submit_answered hf (lt_nextId_of_formAt? hs hf) hm, Fields.variableWarnings_eq]
      simp only [Submission.sending, List.append_assoc]
      rfl

/-- The answer takes back what the start of its submit did to the session. -/
theorem freed_waiting (hlt : f < s.records.forms.nextId) (hm : s.marked f = false) (name : String)
    (watched : Bool) :
    let t := s.waiting name f watched
    { t with
      records := t.records.setForm f { t.records.forms.get f with submitting := false }
      flights := t.flights.erase name } = { s with flights := s.flights.erase name } := by
  have hback : { s.records.forms.get f with submitting := false } = s.records.forms.get f := by
    rw [← show (s.records.forms.get f).submitting = false from hm]
  have hflights : (s.flights.insert name ⟨f, watched⟩).erase name = s.flights.erase name :=
    TextMap.ext_get? fun k => by
      simp only [TextMap.get?_erase, TextMap.get?_insert]
      split <;> rfl
  simp only [waiting, Records.setForm, Forms.get_set_self hlt, Forms.set_set, hback, Forms.set_get,
    hflights]

/-- It makes no difference whether the answer comes at once or next. -/
theorem run_next_answer (hs : s.records.WellFormed) (hf : s.formAt? a = some f) (name : String)
    (source : Except String Fields) (watched : Bool) (answer : NetworkAnswer) :
    let atOnce := s.run (Delivery.atOnce.ops name a source watched answer)
    let next := s.run (Delivery.next.ops name a source watched answer)
    next.1 = atOnce.1 ∧ allEffects next.2 = allEffects atOnce.2 ∧
      outcomes next.2 = outcomes atOnce.2 := by
  have hlt := lt_nextId_of_formAt? hs hf
  have hfree : (s.flights.erase name).get? name = none := by simp
  cases hm : s.marked f with
  | true =>
    -- the submit is over before the answer comes, and nothing is under way by its name
    simp only [Delivery.ops, run_cons, run_nil, submit_of_marked hf hm]
    rw [respond_of_get?_eq_none hfree]
    exact ⟨rfl, rfl, rfl⟩
  | false =>
    cases source with
    | error reason =>
      simp only [Delivery.ops, run_cons, run_nil, submit_unreadable hf hm]
      rw [respond_of_get?_eq_none hfree]
      refine ⟨rfl, ?_, rfl⟩
      simp [allEffects]
    | ok fields =>
      simp only [Delivery.ops, run_cons, run_nil, submit_waiting hf hm, submit_answered hf hlt hm]
      rw [respond_of_waiting (get?_flights_waiting s name f watched)]
      refine ⟨freed_waiting hlt hm name watched, ?_, rfl⟩
      simp [allEffects, waiting, surroundings]

/-- What is promised of a submit of a form and the answer to it, with nothing in between. -/
structure RunsThrough (s : Session) (f : FormId) (name : String) (source : Except String Fields)
    (watched : Bool) (answer : NetworkAnswer) (run : Session × List (Answer × List Effect)) :
    Prop where
  /-- It goes one of the ways, from its first effect to its last, and has one outcome. -/
  trace : ∃ outcome, outcomes run.2 = [outcome] ∧
    Submission.Trace (s.surroundings watched) (s.marked f) source answer (allEffects run.2) outcome
  /-- It can go no other way. -/
  only : ∀ effects outcome,
    Submission.Trace (s.surroundings watched) (s.marked f) source answer effects outcome →
      effects = allEffects run.2 ∧ outcomes run.2 = [outcome]
  /-- In the end all is as before, records and store and page; but the name is free. -/
  session : run.1 = { s with flights := s.flights.erase name }
  /-- The request is posted once, unless the form was marked or could not be read. -/
  posts : Submission.requests (allEffects run.2) =
    if s.marked f then [] else
      source.toOption.toList.map fun fields => .ofFields fields s.page s.config
  /-- It goes to the endpoint, with the header that the two meta tags describe and no other. -/
  request : ∀ request ∈ Submission.requests (allEffects run.2),
    request.path = s.config.transactionEndpoint ∧ request.headers.length ≤ 1 ∧
      ∀ header token, (header, token) ∈ request.headers ↔
        (s.page.tags.get? s.config.csrfHeaderMeta = some header ∧ header ≠ "") ∧
          s.page.tags.get? s.config.csrfTokenMeta = some token ∧ token ≠ ""
  /-- The user is alerted of a failure, in these words behind the prefix, and of nothing else. -/
  alerts : Submission.alerts (allEffects run.2) =
    (Submission.alertText? (s.marked f) source answer).toList.map (s.config.alertPrefix ++ ·)
  /-- An ignored submit logs one line; any other one says how far it came, and how it ended. -/
  log : ∀ outcome ∈ outcomes run.2,
    Submission.levels (allEffects run.2) = Submission.logged source answer outcome

theorem RunsThrough.of_trace {name : String} {source : Except String Fields} {watched : Bool}
    {answer : NetworkAnswer} {run : Session × List (Answer × List Effect)}
    {outcome : Submission.Outcome} (hout : outcomes run.2 = [outcome])
    (htrace : Submission.Trace (s.surroundings watched) (s.marked f) source answer
      (allEffects run.2) outcome)
    (hsession : run.1 = { s with flights := s.flights.erase name }) :
    s.RunsThrough f name source watched answer run where
  trace := ⟨outcome, hout, htrace⟩
  only effects' outcome' h := by
    obtain ⟨heffects, rfl⟩ := h.unique htrace
    exact ⟨heffects, hout⟩
  session := hsession
  posts := htrace.requests_eq
  request request hmem := by
    rw [htrace.requests_eq] at hmem
    split at hmem
    · exact absurd hmem (by simp)
    · obtain ⟨fields, -, rfl⟩ := List.mem_map.1 hmem
      exact ⟨rfl, Request.length_headers_ofFields_le .., fun _ _ => Request.mem_headers_ofFields⟩
  alerts := htrace.alerts_eq
  log := by
    rw [hout]
    exact List.forall_mem_singleton.2 htrace.levels_eq

/-- **A submit does exactly this.**  Submit any form of any session, whatever the configuration and
the page, whatever reading the form gives and whatever the network answers, at once or next: the
effects are those of `Submission.Trace`, each once and in that order, and the session is as before.
While the answer is awaited the form is marked.  References are in the table in every session that
a run can lead to, by `wellFormed_run`. -/
theorem submit_runsThrough (hs : s.records.WellFormed) (hf : s.formAt? a = some f) (name : String)
    (source : Except String Fields) (watched : Bool) (answer : NetworkAnswer) :
    (∀ d : Delivery, s.RunsThrough f name source watched answer
        (s.run (d.ops name a source watched answer))) ∧
      (s.step (.submit name a source watched none)).session.marked f =
        (s.marked f || source.toOption.isSome) := by
  obtain ⟨effects, outcome, htrace, hstep⟩ := submit_trace hs hf name source watched answer
  have hatOnce : s.run (Delivery.atOnce.ops name a source watched answer) =
      ({ s with flights := s.flights.erase name },
        [(.progress (some outcome) (s.records.forms.get f), effects)]) := by
    rw [Delivery.ops, run_cons, hstep, run_nil]
  have hlt := lt_nextId_of_formAt? hs hf
  refine ⟨fun d => ?_, ?_⟩
  · cases d with
    | atOnce =>
      rw [hatOnce]
      exact .of_trace rfl (by simpa [allEffects] using htrace) rfl
    | next =>
      obtain ⟨hsession, heffects, houtcomes⟩ := run_next_answer hs hf name source watched answer
      rw [hatOnce] at hsession heffects houtcomes
      refine .of_trace houtcomes ?_ hsession
      rw [heffects.trans (List.append_nil effects)]
      exact htrace
  · cases hm : s.marked f with
    | true =>
      rw [submit_of_marked hf hm]
      exact hm
    | false =>
      cases source with
      | error reason =>
        rw [submit_unreadable hf hm]
        exact hm
      | ok fields =>
        rw [submit_waiting hf hm]
        exact (Forms.marked_set_mark hlt f).trans (if_pos rfl)

/-- A session with one form, that nothing has been done with. -/
def oneForm : Session :=
  ((start .standard ⟨.empty, []⟩ .empty).run
    [.mount "quickTransactionForm" "form" .bare]).1

theorem submit_runsThrough_oneForm :
    oneForm.records.WellFormed ∧ oneForm.formAt? (.slot "form") = some 0 ∧
      oneForm.RunsThrough 0 "first" (.ok ⟨[("amount", "25000")]⟩) true
        (.ok ⟨201, "\x7b\"id\":7\x7d"⟩)
        (oneForm.run (Delivery.next.ops "first" (.slot "form") (.ok ⟨[("amount", "25000")]⟩) true
          (.ok ⟨201, "\x7b\"id\":7\x7d"⟩))) := by
  have hs : oneForm.records.WellFormed := wellFormed_run Records.wellFormed_empty _
  have hf : oneForm.formAt? (.slot "form") = some 0 := by decide +kernel
  exact ⟨hs, hf, (submit_runsThrough hs hf ..).1 .next⟩

end Session

end AccountingPage
