import AccountingPage.Proofs.Json.Soundness
import AccountingPage.Proofs.SubmitTrace

/-!
# What a reply must carry

A submit is reported as a success, and the page is left for that of the new transaction, just if
the reply has a good status and an id can be read from its body.  Which bodies these can be is said
here by the grammar of JSON texts and not by the reader.

* `TransactionId.InObject` is a body that is an object with one id among its members,
  `TransactionId.InList` one that is a list of an id alone.
* `TransactionId.carried_of_ofJson` says that no other body has an id to be read.
* `Session.Replied` are the operations by which a reply gets to its submit, `Submission.announced`
  is what the user sees of them.
* `Session.created_only_of_carried` is what follows for every submit that is replied to.
-/

set_option autoImplicit false

namespace AccountingPage

open Json.Grammar

/-! ## Bodies with an id -/

namespace TransactionId

/-- An id is a number or a string. -/
inductive IsId : Shape → Prop where
  | number (text : List Char) : IsId (.number text)
  | text (s : String) : IsId (.string s)

/-- The members that are called `id`. -/
def idMembers (members : List (String × Shape)) : List (String × Shape) :=
  members.filter fun m => m.1 == "id"

/-- The body is an object, and just one of its members is called `id`, and that is an id. -/
def InObject (body : String) : Prop :=
  ∃ members shape, ObjectText members body.toList ∧ idMembers members = [("id", shape)] ∧ IsId shape

/-- The body is a list of one item, and that is an id. -/
def InList (body : String) : Prop := ∃ shape, ListText [shape] body.toList ∧ IsId shape

theorem idField_sound {cs rest : List Char} {id : TransactionId}
    (h : idField cs = .ok (id, rest)) :
    ∃ shape t, Blanks cs t ∧ IsValue shape t rest ∧ IsId shape := by
  rw [idField] at h
  split at h
  · exact absurd h (by simp)
  · rename_i v rest hv
    obtain ⟨shape, t, ht, hshape, hsame⟩ := Json.value_sound hv
    split at h
    · rename_i hid
      cases h
      refine ⟨shape, t, ht, ⟨_, hshape⟩, ?_⟩
      cases hsame with
      | number n text => exact .number text
      | string s => exact .text s
      | null | boolean | array | object => exact absurd hid (by simp [ofValue?])
    · exact absurd h (by simp [Json.floatingFault])

theorem memberStep_leave {p : Progress} {cs rest : List Char} {id : TransactionId}
    (h : memberStep p cs = .ok (.leave id, rest)) :
    p.id?.isSome ∧ ∃ r, rest = '\x7d' :: r ∧ Blanks cs ('\x7d' :: r) := by
  rw [memberStep] at h
  split at h
  · exact absurd h (by simp)
  · rename_i hnext
    split at h
    · rename_i hid
      cases h
      exact ⟨hid ▸ rfl, Json.nextName_none hnext⟩
    · exact absurd h (by simp [Json.floatingFault])
  · split at h
    · split at h
      · exact absurd h (by simp [Json.floatingFault])
      · split at h
        · exact absurd h (by simp)
        · split at h <;> exact absurd h (by simp)
    · split at h
      · exact absurd h (by simp)
      · split at h <;> exact absurd h (by simp)

/-- A turn takes a member, and it is the id if there was none. -/
theorem memberStep_again {p p' : Progress} {cs rest : List Char}
    (h : memberStep p cs = .ok (.again p', rest)) :
    p'.first = false ∧ ∃ name shape t, Separator p.first cs t ∧ NamedMember (name, shape) t rest ∧
      if name = "id" then IsId shape ∧ p.id? = none ∧ p'.id?.isSome else p'.id? = p.id? := by
  rw [memberStep] at h
  split at h
  · exact absurd h (by simp)
  · split at h
    · exact absurd h (by simp)
    · exact absurd h (by simp [Json.floatingFault])
  · rename_i name mid hnext
    obtain ⟨t, hsep, hname⟩ := Json.nextName_some hnext
    split at h
    · rename_i hid
      split at h
      · exact absurd h (by simp [Json.floatingFault])
      · rename_i hfirst
        split at h
        · exact absurd h (by simp)
        · rename_i hcolon
          split at h
          · exact absurd h (by simp)
          · rename_i hfield
            cases h
            obtain ⟨shape, u, hu, hvalue, hshape⟩ := idField_sound hfield
            refine ⟨rfl, name, shape, _, hsep,
              .colon hname (Json.blanks_of_colon hcolon) hu hvalue, ?_⟩
            rw [if_pos hid]
            exact ⟨hshape, by simpa using hfirst, rfl⟩
    · rename_i hid
      split at h
      · exact absurd h (by simp)
      · rename_i hcolon
        split at h
        · exact absurd h (by simp)
        · rename_i hskip
          cases h
          obtain ⟨shape, u, hu, hvalue⟩ := Json.skipValue_sound hskip
          refine ⟨rfl, name, shape, _, hsep,
            .colon hname (Json.blanks_of_colon hcolon) hu ⟨_, hvalue⟩, ?_⟩
          rw [if_neg hid]

/-- The members that are still to come make up for what has been read: they have the id if it has
not been read, and else none. -/
def Completes (p : Progress) (members : List (String × Shape)) : Prop :=
  if p.id?.isSome then idMembers members = []
  else ∃ shape, idMembers members = [("id", shape)] ∧ IsId shape

theorem named_sound {cs rest : List Char} {id : TransactionId} (h : named cs = .ok (id, rest)) :
    ∃ members r, rest = '\x7d' :: r ∧ Pieces NamedMember '\x7d' true members cs r ∧
      Completes ⟨true, none⟩ members := by
  refine Json.iterate_induction (P := fun p cs _ rest => ∃ members r, rest = '\x7d' :: r ∧
    Pieces NamedMember '\x7d' p.first members cs r ∧ Completes p members) ?_ ?_ h
  · intro p cs id rest hstep
    obtain ⟨hid, r, hrest, hblanks⟩ := memberStep_leave hstep
    exact ⟨[], r, hrest, .close hblanks, by rw [Completes, if_pos hid]; rfl⟩
  · intro p cs p' mid id rest hstep ⟨members, r, hrest, hpieces, hids⟩
    obtain ⟨hfirst, name, shape, t, hsep, hmember, hname⟩ := memberStep_again hstep
    refine ⟨(name, shape) :: members, r, hrest, .piece hsep hmember (hfirst ▸ hpieces), ?_⟩
    by_cases hid : name = "id"
    · subst hid
      rw [if_pos rfl] at hname
      obtain ⟨hshape, hnone, hsome⟩ := hname
      rw [Completes, if_pos hsome] at hids
      rw [Completes, hnone, if_neg (by simp)]
      exact ⟨shape, by rw [idMembers, List.filter_cons_of_pos (by simp), ← idMembers, hids], hshape⟩
    · rw [if_neg hid] at hname
      have hskip : idMembers ((name, shape) :: members) = idMembers members :=
        List.filter_cons_of_neg (by simpa using hid)
      rw [Completes, hname] at hids
      rw [Completes, hskip]
      exact hids

theorem listed_sound {cs rest mid : List Char} {id : TransactionId} (h : listed cs = .ok (id, mid))
    (hclose : Blanks mid (']' :: rest)) :
    ∃ shape, Pieces IsValue ']' true [shape] cs rest ∧ IsId shape := by
  rw [listed] at h
  split at h
  · exact absurd h (by simp)
  · exact absurd h (by simp [Json.floatingFault])
  · rename_i hnext
    obtain ⟨shape, t, ht, hshape, hid⟩ := idField_sound h
    exact ⟨shape, .piece ((Json.nextItem_true hnext).trans ht) hshape (.close hclose), hid⟩

/-- **An id is read only from a body that carries one.** -/
theorem carried_of_ofJson {body : String} {id : TransactionId} (h : ofJson body = .ok id) :
    InObject body ∨ InList body := by
  obtain ⟨rest, hread, hend⟩ := Json.document_sound h
  rcases Json.record_sound hread with ⟨t, mid, ht, hnamed, hrest⟩ | ⟨t, mid, ht, hlisted, hclose⟩
  · obtain ⟨members, r, rfl, hpieces, shape, hids, hid⟩ := named_sound hnamed
    obtain rfl : rest = r := hrest
    exact .inl ⟨members, shape, ⟨t, rest, ht, hpieces, hend⟩, hids, hid⟩
  · obtain ⟨shape, hpieces, hid⟩ := listed_sound hlisted hclose
    exact .inr ⟨shape, ⟨t, rest, ht, hpieces, hend⟩, hid⟩

end TransactionId

/-! ## What the user sees -/

namespace Submission

/-- The alerts, the dialogs that close and the pages that are gone to, in order. -/
def announced (effects : List Effect) : List Effect :=
  effects.filter fun
    | .alert _ | .closeDialog .. | .navigate _ => true
    | _ => false

theorem announced_append (xs ys : List Effect) :
    announced (xs ++ ys) = announced xs ++ announced ys :=
  List.filter_append ..

theorem announced_redrawn (s : Surroundings) (b : Bool) : announced (s.redrawn b) = [] := by
  rw [Surroundings.redrawn]
  split <;> rfl

theorem announced_opening (s : Surroundings) : announced (opening s) = [] := by
  rw [opening, announced_append, announced_append, announced_redrawn]
  split <;> rfl

theorem announced_variableWarnings (fields : Fields) : announced fields.variableWarnings = [] := by
  refine List.filter_eq_nil_iff.2 fun e he => ?_
  obtain ⟨name, -, rfl⟩ := List.mem_map.1 he
  exact Bool.false_ne_true

theorem announced_statusLog (answer : NetworkAnswer) : announced (statusLog answer) = [] := by
  cases answer <;> rfl

/-- Of the second half the user sees how the submit ends. -/
theorem announced_answered (s : Surroundings) (answer : NetworkAnswer) :
    announced (statusLog answer ++ (ending s (settled answer) ++ s.redrawn false)) =
      announced (ending s (settled answer)) := by
  rw [announced_append, announced_statusLog, announced_append, announced_redrawn,
    List.append_nil, List.nil_append]

/-- Of the first half the user sees nothing. -/
theorem announced_request (s : Surroundings) (fields : Fields) :
    announced (opening s ++ fields.variableWarnings ++
      [.post (.ofFields fields s.page s.config)]) = [] := by
  rw [announced_append, announced_append, announced_opening, announced_variableWarnings]
  rfl

end Submission

namespace Session

variable {s : Session} {reply : Reply} {op : Op}

/-- The operations by which a reply gets to its submit: with the submit of a free form, whose
entries can be read, or later to a submit that is under way. -/
inductive Replied (s : Session) (reply : Reply) : Op → Prop where
  | atOnce {a : Address} {f : FormId} (hf : s.formAt? a = some f) (hm : s.marked f = false)
    (name : String) (fields : Fields) (watched : Bool) :
    Replied s reply (.submit name a (.ok fields) watched (some (.ok reply)))
  | later {name : String} {flight : Flight} (h : s.flights.get? name = some flight) :
    Replied s reply (.respond name (some (.ok reply)))

/-- A reply settles its submit, and that is what the user sees. -/
theorem Replied.step_eq (h : s.Replied reply op) :
    ∃ form watched, (s.step op).answer = .progress (some (.ofResult reply.created)) form ∧
      Submission.announced (s.step op).effects =
        Submission.announced (Submission.ending (s.surroundings watched) reply.created) := by
  cases h with
  | atOnce hf hm name fields watched =>
    rw [step, submit, withForm_of_formAt? hf]
    simp only [Submission.start_readable hm, advance, deliver_eq]
    refine ⟨_, watched, rfl, ?_⟩
    exact (Submission.announced_append ..).trans (congrArg₂ (· ++ ·)
      (Submission.announced_request (s.surroundings watched) fields)
      (Submission.announced_answered (s.surroundings watched) (.ok reply)))
  | @later name flight hflight =>
    rw [respond_of_waiting hflight]
    exact ⟨_, flight.watched, rfl, Submission.announced_answered _ (.ok reply)⟩

/-- The submit is reported as a success: its dialog is closed, and then the page is left for that
of the transaction. -/
def ReportsCreated (s : Session) (t : Step) (id : TransactionId) : Prop :=
  (∃ form, t.answer = .progress (some (.created id)) form) ∧
    Submission.announced t.effects =
      [.closeDialog s.config.quickModalId (s.page.hasDialog s.config.quickModalId),
        .navigate (s.config.transactionDetailPrefix ++ id.display)]

/-- The submit is reported as a failure to read the reply: there is one alert, and the page stays. -/
def ReportsUnreadable (s : Session) (t : Step) (e : Json.Error) : Prop :=
  (∃ form, t.answer = .progress (some (.failed (.decode e))) form) ∧
    Submission.announced t.effects = [.alert (s.config.alertPrefix ++ e.message)]

/-- What is reported of a good reply depends on whether an id can be read from its body. -/
theorem Replied.reports (h : s.Replied reply op) (hstatus : 200 ≤ reply.status ∧ reply.status ≤ 299) :
    match TransactionId.ofJson reply.body with
    | .ok id => s.ReportsCreated (s.step op) id
    | .error e => s.ReportsUnreadable (s.step op) e := by
  obtain ⟨form, watched, hanswer, hseen⟩ := h.step_eq
  have hcreated : reply.created = (TransactionId.ofJson reply.body).mapError .decode :=
    Submission.settled_of_succeeded hstatus reply.body
  rw [hcreated] at hanswer hseen
  cases hid : TransactionId.ofJson reply.body with
  | ok id =>
    rw [hid] at hanswer hseen
    exact ⟨⟨form, hanswer⟩, hseen⟩
  | error e =>
    rw [hid] at hanswer hseen
    exact ⟨⟨form, hanswer⟩, hseen⟩

/-- **A success is only reported of a body that carries an id.**  Whatever the session, the submit
and the way in which a reply with a good status gets to it: if the outcome is that a transaction was
created, the dialog is closed and the page is left, and then the body is an object with just one
member called `id`, a number or a string, or a list of just one item, a number or a string.  For
every other body the outcome is that the reply could not be read, with one alert and nothing else
for the user to see. -/
theorem created_only_of_carried (h : s.Replied reply op)
    (hstatus : 200 ≤ reply.status ∧ reply.status ≤ 299) :
    (∀ id form, (s.step op).answer = .progress (some (.created id)) form →
        s.ReportsCreated (s.step op) id ∧
          (TransactionId.InObject reply.body ∨ TransactionId.InList reply.body)) ∧
      (¬(TransactionId.InObject reply.body ∨ TransactionId.InList reply.body) →
        ∃ e, s.ReportsUnreadable (s.step op) e) := by
  have hreports := h.reports hstatus
  cases hid : TransactionId.ofJson reply.body with
  | ok id =>
    rw [hid] at hreports
    have hbody := TransactionId.carried_of_ofJson hid
    refine ⟨fun id' form hanswer => ⟨?_, hbody⟩, fun hnot => absurd hbody hnot⟩
    obtain ⟨form', hanswer'⟩ := hreports.1
    obtain rfl : id' = id := by
      cases hanswer.symm.trans hanswer'
      rfl
    exact hreports
  | error e =>
    rw [hid] at hreports
    refine ⟨fun id form hanswer => ?_, fun _ => ⟨e, hreports⟩⟩
    obtain ⟨form', hanswer'⟩ := hreports.1
    exact absurd (hanswer.symm.trans hanswer') (by simp)

/-- The submit of a session with one form, and the reply to it. -/
def oneSubmit (reply : Reply) : Op :=
  .submit "first" (.slot "form") (.ok ⟨[("amount", "25000")]⟩) true (some (.ok reply))

theorem replied_oneSubmit (reply : Reply) : oneForm.Replied reply (oneSubmit reply) :=
  .atOnce (f := 0) (by decide +kernel) (by decide +kernel) ..

/-- The path of the transaction that a body carries the id of. -/
def pathOf? (body : String) : Option String :=
  (TransactionId.ofJson body).toOption.map fun id =>
    oneForm.config.transactionDetailPrefix ++ id.display

theorem reports_of_pathOf? {body path : String} (h : pathOf? body = some path) :
    ∃ id, oneForm.ReportsCreated (oneForm.step (oneSubmit ⟨200, body⟩)) id ∧
      oneForm.config.transactionDetailPrefix ++ id.display = path := by
  have hreports := (replied_oneSubmit ⟨200, body⟩).reports (by simp)
  rw [pathOf?] at h
  cases hid : TransactionId.ofJson body with
  | error e =>
    rw [hid] at h
    exact absurd h (by simp [Except.toOption])
  | ok id =>
    rw [hid] at h hreports
    exact ⟨id, hreports, Option.some.inj h⟩

theorem created_only_of_carried_text :
    let reply : Reply := ⟨200, " \x7b\"note\":[null],\"id\":\"T-7\"\x7d"⟩
    oneForm.Replied reply (oneSubmit reply) ∧ (200 ≤ reply.status ∧ reply.status ≤ 299) ∧
      ∃ id, oneForm.ReportsCreated (oneForm.step (oneSubmit reply)) id ∧
        oneForm.config.transactionDetailPrefix ++ id.display = "/transactions/T-7" ∧
          (TransactionId.InObject reply.body ∨ TransactionId.InList reply.body) := by
  intro reply
  have hreplied := replied_oneSubmit reply
  have hstatus : 200 ≤ reply.status ∧ reply.status ≤ 299 := by simp [reply]
  have hpath : pathOf? reply.body = some "/transactions/T-7" := by decide +kernel
  obtain ⟨id, hreports, hid⟩ := reports_of_pathOf? hpath
  obtain ⟨form, hanswer⟩ := hreports.1
  exact ⟨hreplied, hstatus, id, hreports, hid,
    ((created_only_of_carried hreplied hstatus).1 id form hanswer).2⟩

/-- A list is no object and has no member called `id`, and yet a transaction is reported of it: the
page is left for that of a transaction with the number that stands in the list. -/
theorem created_of_list :
    oneForm.Replied ⟨200, "[42]"⟩ (oneSubmit ⟨200, "[42]"⟩) ∧ ¬TransactionId.InObject "[42]" ∧
      ∃ id, oneForm.ReportsCreated (oneForm.step (oneSubmit ⟨200, "[42]"⟩)) id ∧
        oneForm.config.transactionDetailPrefix ++ id.display = "/transactions/42" := by
  have hpath : pathOf? "[42]" = some "/transactions/42" := by decide +kernel
  refine ⟨replied_oneSubmit _, ?_, reports_of_pathOf? hpath⟩
  rintro ⟨members, shape, ⟨t, r, hblanks, -⟩, -⟩
  have htext : "[42]".toList = ['[', '4', '2', ']'] := rfl
  rw [htext] at hblanks
  cases hblanks with
  | more hc => exact absurd hc (by decide)

end Session

end AccountingPage
