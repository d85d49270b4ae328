import AccountingPage.Proofs.Json.Skipping
import AccountingPage.Proofs.ReplyBody

/-!
# From the reply to the path

When a transaction has been made, the page is left for the transaction's own, and the path ends in
the id that the server has given it.  An id that was rounded, or cut short, or taken from another
member, would open the page of another transaction.

* `TransactionId.Carries` is a body with one id, among any other members, and
  `TransactionId.Names` says what an id of each kind puts into the path: a whole number the digits
  with which it is written, a string the text that it spells.
* `TransactionId.named_of_pieces` goes through the members, `TransactionId.ofJson_of_carries`
  through the whole body.
* `TransactionId.Names.eq_or_respells` says which ids share a path.
* `Session.navigates_to_id` is what follows for every submit that is replied to.
-/

set_option autoImplicit false

namespace AccountingPage

open Json.Grammar

namespace TransactionId

/-! ## Ids and their texts -/

/-- The body is an object, and just one of its members is called `id`.  Of the names of the others
it is only asked that they spell something, and nothing at all of their values. -/
def Carries (body : String) (shape : Shape) : Prop :=
  ∃ members, ObjectText members body.toList ∧ idMembers members = [("id", shape)]

/-- A whole number that is written in the shortest way, or a string; the id that it makes, and the
text of that id in a path. -/
inductive Names : Shape → TransactionId → String → Prop where
  | integer {n : Int} (hlow : -2 ^ 63 ≤ n) (hhigh : n < 2 ^ 64) :
    Names (.number (toString n).toList) (.number (.integer n)) (toString n)
  | text (s : String) : Names (.string s) (.text s) s

/-- The second id is the text with which the first one, a number, is written. -/
def Respells (id id' : TransactionId) : Prop :=
  ∃ n : Int, id = .number (.integer n) ∧ id' = .text (toString n)

variable {shape shape' : Shape} {id id' : TransactionId} {text : String} {cs t r : List Char}

theorem Names.display_eq (h : Names shape id text) : id.display = text := by
  cases h <;> rfl

/-- A whole number is known by its text. -/
theorem toString_integer_inj {n n' : Int} (hlow : -2 ^ 63 ≤ n) (hhigh : n < 2 ^ 64)
    (hlow' : -2 ^ 63 ≤ n') (hhigh' : n' < 2 ^ 64) (h : toString n = toString n') : n = n' := by
  have hread : ∀ {m : Int}, -2 ^ 63 ≤ m → m < 2 ^ 64 →
      Json.value 0 ((toString m).toList ++ []) = .ok (.number (.integer m), []) := fun hl hh =>
    Json.value_write (.integer hl hh) [] ⟨by simp, rfl⟩
  have heq := (hread hlow hhigh).symm.trans (h ▸ hread hlow' hhigh')
  simpa using heq

/-- **Different ids have different texts**, unless one is the text of the other. -/
theorem Names.eq_or_respells (h : Names shape id text) (h' : Names shape' id' text) :
    id' = id ∨ Respells id id' ∨ Respells id' id := by
  cases h with
  | @integer n hlow hhigh =>
    generalize htext : toString n = text at h'
    cases h' with
    | integer hlow' hhigh' =>
      obtain rfl := toString_integer_inj hlow hhigh hlow' hhigh' htext
      exact .inl rfl
    | text => exact .inr (.inl ⟨n, rfl, by rw [htext]⟩)
  | text =>
    cases h' with
    | integer => exact .inr (.inr ⟨_, rfl, rfl⟩)
    | text => exact .inl rfl

/-! ## Reading the members -/

/-- The id is read as it is written. -/
theorem idField_of_names (hid : Names shape id text) (hblanks : Blanks cs t)
    (h : IsValue shape t r) (hr : Json.EndsNumber r) : idField cs = .ok (id, r) := by
  rw [idField, Json.value_of_blanks hblanks]
  cases hid with
  | @integer n hlow hhigh =>
    rcases h.scalar_or with hscalar | ⟨hshape, -⟩ | ⟨hshape, -⟩
    · cases hscalar with
      | number =>
        have hvalue : Json.value (Json.maxDepth - 1) ((toString n).toList ++ r) =
            .ok (.number (.integer n), r) := Json.value_write (.integer hlow hhigh) r hr
        rw [hvalue]
        rfl
    · exact absurd hshape (by simp)
    · exact absurd hshape (by simp)
  | text s =>
    obtain ⟨u, rfl, hs⟩ := h.of_string
    rw [Json.value_of_other rfl, Json.scalar, if_pos rfl, Json.quotation_of_spells hs]
    simp [ofValue?]

theorem memberStep_of_brace {p : Progress} (hid : p.id? = some id)
    (h : Blanks cs ('\x7d' :: r)) : memberStep p cs = .ok (.leave id, '\x7d' :: r) := by
  rw [memberStep, Json.nextName_of_brace h]
  simp [hid]

/-- The id is kept. -/
theorem memberStep_of_id {p : Progress} (hnone : p.id? = none) (hid : Names shape id text)
    (hsep : Separator p.first cs t) (h : NamedMember ("id", shape) t r) (hr : Json.EndsNumber r) :
    memberStep p cs = .ok (.again ⟨false, some id⟩, r) := by
  cases h with
  | colon hname hcolon hblanks hvalue =>
    rw [memberStep, Json.nextName_of_quote hsep hname, String.ofList_toList]
    simp [hnone, Json.colon_of_blanks hcolon, idField_of_names hid hblanks hvalue hr]

/-- Any other member is passed over, whatever its value. -/
theorem memberStep_of_other {p : Progress} {name : String} (hname : name ≠ "id")
    (hsep : Separator p.first cs t) (h : NamedMember (name, shape) t r) (hr : Json.EndsNumber r) :
    memberStep p cs = .ok (.again ⟨false, p.id?⟩, r) := by
  cases h with
  | colon hspells hcolon hblanks hvalue =>
    rw [memberStep, Json.nextName_of_quote hsep hspells, String.ofList_toList]
    simp [hname, Json.colon_of_blanks hcolon, Json.skip_of_isValue hblanks hvalue hr]

theorem advances_memberStep : Json.Advances memberStep := by
  intro p cs p' rest h
  obtain ⟨-, name, shape, t, hsep, hmember, -⟩ := memberStep_again h
  exact Nat.lt_of_lt_of_le (NamedMember.length_lt hmember) hsep.length_le

/-- The id has been read, and does not come again; or it is still to come, once. -/
def Awaits (shape : Shape) (id : TransactionId) (p : Progress) (members : List (String × Shape)) :
    Prop :=
  (p.id? = some id ∧ idMembers members = []) ∨ (p.id? = none ∧ idMembers members = [("id", shape)])

/-- A turn takes a member, and the id is still there or still to come. -/
theorem memberStep_of_awaits {p : Progress} {m : String × Shape} {members : List (String × Shape)}
    (hid : Names shape id text) (hp : Awaits shape id p (m :: members))
    (hsep : Separator p.first cs t) (h : NamedMember m t r) (hr : Json.EndsNumber r) :
    ∃ p', memberStep p cs = .ok (.again p', r) ∧ p'.first = false ∧ Awaits shape id p' members := by
  obtain ⟨name, shape'⟩ := m
  by_cases hname : name = "id"
  · subst hname
    have hids : idMembers (("id", shape') :: members) = ("id", shape') :: idMembers members :=
      List.filter_cons_of_pos rfl
    rw [Awaits, hids] at hp
    rcases hp with ⟨-, hnil⟩ | ⟨hnone, hone⟩
    · exact absurd hnil (by simp)
    · obtain ⟨hshape, hrest⟩ := List.cons.inj hone
      obtain rfl := (Prod.mk.inj hshape).2
      exact ⟨_, memberStep_of_id hnone hid hsep h hr, rfl, .inl ⟨rfl, hrest⟩⟩
  · have hids : idMembers ((name, shape') :: members) = idMembers members :=
      List.filter_cons_of_neg (by simpa using hname)
    rw [Awaits, hids] at hp
    exact ⟨_, memberStep_of_other hname hsep h hr, rfl, hp⟩

theorem named_of_pieces {members : List (String × Shape)}
    (h : Pieces NamedMember '\x7d' true members t r) (hids : idMembers members = [("id", shape)])
    (hid : Names shape id text) : named t = .ok (id, '\x7d' :: r) := by
  refine Json.iterate_pieces advances_memberStep Progress.first
    (fun p members _ => Awaits shape id p members) ('\x7d' :: ·) (.inr rfl) ?_ ?_ h
    (.inr ⟨rfl, hids⟩)
  · intro p t r hp hblanks
    rcases hp with ⟨hsome, -⟩ | ⟨-, hone⟩
    · exact memberStep_of_brace hsome hblanks
    · exact absurd hone (by simp [idMembers])
  · intro p m members t u v hp hsep hmember hv
    exact memberStep_of_awaits hid hp hsep hmember hv

/-- **The id is read from every body that carries it.** -/
theorem ofJson_of_carries {body : String} (h : Carries body shape) (hid : Names shape id text) :
    ofJson body = .ok id := by
  obtain ⟨members, ⟨t, r, hblanks, hpieces, hend⟩, hids⟩ := h
  exact Json.document_of_blanks
    (Json.record_of_object hblanks (named_of_pieces hpieces hids hid)) hend

end TransactionId

/-! ## Leaving the page -/

namespace Submission

/-- The paths that the page is left for, in order. -/
def navigated (effects : List Effect) : List String :=
  effects.filterMap fun
    | .navigate path => some path
    | _ => none

/-- The user sees each of them. -/
theorem navigated_announced (effects : List Effect) :
    navigated (announced effects) = navigated effects := by
  rw [navigated, announced, List.filterMap_filter]
  refine List.filterMap_congr fun e _ => ?_
  cases e <;> rfl

end Submission

namespace Session

variable {s : Session} {reply : Reply} {op : Op} {shape : Shape} {id : TransactionId}
  {text : String}

theorem ReportsCreated.navigated_eq {t : Step} (h : s.ReportsCreated t id) :
    Submission.navigated t.effects = [s.config.transactionDetailPrefix ++ id.display] := by
  rw [← Submission.navigated_announced, h.2]
  rfl

theorem Replied.reportsCreated (h : s.Replied reply op)
    (hstatus : 200 ≤ reply.status ∧ reply.status ≤ 299)
    (hbody : TransactionId.Carries reply.body shape) (hid : TransactionId.Names shape id text) :
    s.ReportsCreated (s.step op) id := by
  have hreports := h.reports hstatus
  rw [TransactionId.ofJson_of_carries hbody hid] at hreports
  exact hreports

/-- **The id reaches the path unchanged.**  Whatever the session, the submit and the way in which a
reply with a good status gets to it: if the body is an object with just one member called `id`, and
that is a whole number from `-2 ^ 63` up to `2 ^ 64` or a string, then a transaction with this id is
reported, and the page is left for the path that ends in the number's digits, or in the text that
the string spells.  Two replies lead to the same path only if their ids are the same, or if one is
the number and the other one the text of its digits. -/
theorem navigates_to_id (h : s.Replied reply op)
    (hstatus : 200 ≤ reply.status ∧ reply.status ≤ 299)
    (hbody : TransactionId.Carries reply.body shape) (hid : TransactionId.Names shape id text) :
    s.ReportsCreated (s.step op) id ∧
      Submission.navigated (s.step op).effects = [s.config.transactionDetailPrefix ++ text] ∧
      ∀ (s' : Session) (reply' : Reply) (op' : Op) (shape' : Shape) (id' : TransactionId)
        (text' : String), s'.config.transactionDetailPrefix = s.config.transactionDetailPrefix →
        s'.Replied reply' op' → 200 ≤ reply'.status ∧ reply'.status ≤ 299 →
        TransactionId.Carries reply'.body shape' → TransactionId.Names shape' id' text' →
        Submission.navigated (s'.step op').effects = Submission.navigated (s.step op).effects →
        id' = id ∨ TransactionId.Respells id id' ∨ TransactionId.Respells id' id := by
  have hcreated := h.reportsCreated hstatus hbody hid
  have hpath := hcreated.navigated_eq
  rw [hid.display_eq] at hpath
  refine ⟨hcreated, hpath, ?_⟩
  intro s' reply' op' shape' id' text' hfront h' hstatus' hbody' hid' hsame
  have hpath' := (h'.reportsCreated hstatus' hbody' hid').navigated_eq
  rw [hsame, hpath, hfront, hid'.display_eq] at hpath'
  obtain rfl := (String.append_right_inj _).1 (List.cons.inj hpath').1
  exact hid.eq_or_respells hid'

/-! ### At the limit -/

theorem whole_toDigits (n : Nat) : Whole (Nat.toDigits 10 n) := by
  refine ⟨⟨Nat.toDigits_ne_nil, fun c hc => isDigit_of_mem_toDigits hc⟩, fun hzero => ?_⟩
  cases n with
  | zero => rfl
  | succ n => exact absurd hzero (head?_toDigits_ne (Nat.succ_pos n))

/-- A whole number is written as a number of the grammar. -/
theorem numberText_toString (n : Int) : NumberText (toString n).toList := by
  have hnumeral : ∀ m, Numeral (Nat.toDigits 10 m) := fun m => by
    have hparts := Numeral.parts (whole_toDigits m) .none .none
    rwa [List.append_nil, List.append_nil] at hparts
  have hwrite := Json.write_integer n
  rw [Json.Value.write, Json.Number.write] at hwrite
  rw [hwrite]
  split
  · exact .plain (hnumeral _)
  · exact .negative (hnumeral _)

/-- The member with the id, and the closing bracket. -/
def lastMember (digits : List Char) : List Char :=
  '"' :: 'i' :: 'd' :: '"' :: ':' :: (digits ++ ['\x7d'])

/-- An object with the id behind a member that is passed over. -/
def idBehind (ignored digits : List Char) : String :=
  String.ofList ('\x7b' :: '"' :: 'a' :: '"' :: ':' :: (ignored ++ ',' :: lastMember digits))

theorem carries_idBehind {ignored digits : List Char} (hdigits : NumberText digits)
    (hskip : Json.skip (ignored ++ ',' :: lastMember digits) = .ok (',' :: lastMember digits)) :
    TransactionId.Carries (idBehind ignored digits) (.number digits) := by
  obtain ⟨shape, t, ht, hshape⟩ := Json.skipValue_sound hskip
  have hother : NamedMember ("a", shape) ('"' :: 'a' :: '"' :: ':' ::
      (ignored ++ ',' :: lastMember digits)) (',' :: lastMember digits) :=
    .colon (spells_of_forall_plain (by simp [Plain]) _) .none ht ⟨_, hshape⟩
  have hid : NamedMember ("id", .number digits) (lastMember digits) ['\x7d'] :=
    .colon (spells_of_forall_plain (by simp [Plain]) _) .none .none ⟨0, .number hdigits⟩
  have hpieces :=
    Pieces.piece (.first .none) hother (.piece (.comma .none .none) hid (.close .none))
  refine ⟨_, ⟨_, [], ?_, hpieces, .none⟩, rfl⟩
  rw [idBehind, String.toList_ofList]
  exact .none

/-- The greatest number that there is for an id, behind a member whose value has a number called
`id` in it, and a double that is out of range. -/
theorem navigates_to_id_greatest :
    let digits := (toString (18446744073709551615 : Int)).toList
    let reply : Reply := ⟨201, idBehind "[\x7b\"id\":1\x7d,1e999]".toList digits⟩
    oneForm.Replied reply (oneSubmit reply) ∧ (200 ≤ reply.status ∧ reply.status ≤ 299) ∧
      TransactionId.Carries reply.body (.number digits) ∧
      TransactionId.Names (.number digits) (.number (.integer 18446744073709551615))
        "18446744073709551615" ∧
      Submission.navigated (oneForm.step (oneSubmit reply)).effects =
        ["/transactions/18446744073709551615"] := by
  intro digits reply
  have hreplied := replied_oneSubmit reply
  have hstatus : 200 ≤ reply.status ∧ reply.status ≤ 299 := by simp [reply]
  have hbody : TransactionId.Carries reply.body (.number digits) :=
    carries_idBehind (numberText_toString _) (by rfl)
  have htext : toString (18446744073709551615 : Int) = "18446744073709551615" := by decide +kernel
  have hid : TransactionId.Names (.number digits) (.number (.integer 18446744073709551615))
      "18446744073709551615" := htext ▸ .integer (by decide) (by decide)
  have hpath : oneForm.config.transactionDetailPrefix ++ "18446744073709551615" =
      "/transactions/18446744073709551615" := by decide +kernel
  exact ⟨hreplied, hstatus, hbody, hid, hpath ▸ (navigates_to_id hreplied hstatus hbody hid).2.1⟩

end Session
end AccountingPage
