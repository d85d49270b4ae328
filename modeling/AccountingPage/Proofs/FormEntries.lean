import AccountingPage.Proofs.AccountNames
import AccountingPage.Proofs.DraftBody
import AccountingPage.Proofs.FormulaVariables
import AccountingPage.Proofs.Isolation

/-!
# Which entries of a form count

A form is a list of entries, and its request reads the list in two ways that go against each other.
Six entries are found by their plain names, and of those the first of a name counts.  The others
are gathered into the accounts and the variables, and of those the last one counts.

* `Fields.PlainName` has the six names, `Fields.PlainName.Says` what becomes of their values.
* `Request.ofFields_erase` says which entries may be taken away without a trace: those that an
  earlier one hides, or a later one replaces, or that say nothing to begin with.
* `Request.ofFields_perm` says when the order does not matter.
* `Request.Determined` is what is promised of a request, and `Request.ofFields_determined` proves it
  for every form, every page and every configuration.
-/

set_option autoImplicit false

namespace AccountingPage

namespace Fields

/-! ## The plain names -/

/-- The entries that are read by their names. -/
inductive PlainName where
  | templateId
  | amount
  | description
  | transactionDate
  | referenceNumber
  | notes

def PlainName.key : PlainName → String
  | templateId => "templateId"
  | amount => "amount"
  | description => "description"
  | transactionDate => "transactionDate"
  | referenceNumber => "referenceNumber"
  | notes => "notes"

/-- What a draft says under the name when the form has this value there, or none. -/
def PlainName.Says (d : Draft) (value : Option String) : PlainName → Prop
  | templateId => d.templateId = value
  | amount => d.amount = (value.map Amount.leading).getD 0
  | description => d.description = value
  | transactionDate => d.transactionDate = value
  | referenceNumber => d.referenceNumber = value.getD ""
  | notes => d.notes = value.getD ""

theorem PlainName.says_ofFields (f : Fields) (k : PlainName) :
    k.Says (Draft.ofFields f) (f.get? k.key) := by
  cases k <;> rfl

/-- No account is chosen under a plain name. -/
theorem PlainName.not_chooses (k : PlainName) {e : String × String} (he : e.1 = k.key)
    (line : String) : ¬Chooses line e := by
  rintro ⟨-, hname⟩
  rw [he, ← accountName?_eq_some_iff] at hname
  have hnone : accountName? k.key = none := by cases k <;> decide
  exact absurd (hname.symm.trans hnone) (by simp)

/-- No variable is set under a plain name. -/
theorem PlainName.not_sets (k : PlainName) {e : String × String} (he : e.1 = k.key)
    (name : String) (n : Nat) : ¬Sets name n e := by
  rintro ⟨⟨hkey, -⟩, -⟩
  have hbegins : "var_".toList <+: k.key.toList := ⟨name.toList, by
    rw [← he, hkey, String.toList_append]⟩
  cases k <;> exact absurd hbegins (by decide)

/-- The first entry of a name counts. -/
theorem get?_eq_lookupEntry (f : Fields) (key : String) :
    f.get? key = TextMap.lookupEntry key f.entries := by
  obtain ⟨entries⟩ := f
  induction entries with
  | nil => rfl
  | cons e entries ih =>
    rw [get?, List.find?_cons, TextMap.lookupEntry]
    by_cases h : e.1 = key
    · rw [beq_iff_eq.2 h, if_pos h]
      rfl
    · rw [beq_eq_false_iff_ne.2 h, if_neg h]
      exact ih

/-- The first entry of a name is found. -/
theorem get?_of_notMem {before after : List (String × String)} {key value : String}
    (h : key ∉ before.map Prod.fst) : get? ⟨before ++ (key, value) :: after⟩ key = some value := by
  rw [get?_eq_lookupEntry, TextMap.lookupEntry_first h]

theorem get?_eq_none_of_notMem {f : Fields} {key : String} (h : key ∉ f.entries.map Prod.fst) :
    f.get? key = none := by
  rw [get?_eq_lookupEntry, TextMap.lookupEntry_eq_none_iff.2 h]

/-- An entry is not found behind another one of its name. -/
theorem get?_erase {before after : List (String × String)} {e : String × String} {key : String}
    (h : e.1 = key → key ∈ before.map Prod.fst) :
    get? ⟨before ++ e :: after⟩ key = get? ⟨before ++ after⟩ key := by
  simp only [get?, List.find?_append]
  cases hbefore : before.find? fun e => e.1 == key with
  | some e' => rfl
  | none =>
    have hne : e.1 ≠ key := fun heq => by
      obtain ⟨e', he', heq'⟩ := List.mem_map.1 (h heq)
      exact absurd heq' (by simpa using List.find?_eq_none.1 hbefore e' he')
    rw [List.find?_cons_of_neg (by simpa using hne)]

theorem get?_perm {l l' : List (String × String)} (hperm : l.Perm l')
    (hkeys : (l.map Prod.fst).Nodup) (key : String) : get? ⟨l'⟩ key = get? ⟨l⟩ key := by
  rw [get?_eq_lookupEntry, get?_eq_lookupEntry, TextMap.lookupEntry_perm hperm hkeys]

/-! ## The gathered names -/

theorem get?_push_chooses (f : Fields) {key value line : String} (h : Chooses line (key, value)) :
    (f.push key value).accountMappings.get? line = some value :=
  get?_accountMappings_eq_some_iff.2 ⟨f.entries, _, [], rfl, h, rfl, by simp⟩

theorem get?_push_sets (f : Fields) {key value name : String} {n : Nat}
    (h : Sets name n (key, value)) :
    ((f.push key value).formulaVariables.get? name).map UInt64.toNat = some n :=
  get?_formulaVariables_eq_some_iff.2 ⟨f.entries, _, [], rfl, h, by simp⟩

/-- An account may be chosen under the name of a variable. -/
theorem chooses_and_sets {line value : String} {n : Nat} (hne : line ≠ "")
    (hmem : ']' ∉ line.toList) (hnumeral : IsNumeral n (value.toList.filter Char.isDigit))
    (hlt : n < 2 ^ 64) :
    Chooses line ("var_accountMapping[" ++ line ++ "]", value) ∧
      Sets ("accountMapping[" ++ line ++ "]") n ("var_accountMapping[" ++ line ++ "]", value) := by
  have hopen : "var_accountMapping[" = "var_" ++ "accountMapping[" := by decide
  have hkey : "var_accountMapping[" ++ line ++ "]" =
      "var_" ++ ("accountMapping[" ++ line ++ "]") := by
    simp only [hopen, String.append_assoc]
  have hvalue : value ≠ "" := by
    rintro rfl
    exact ((isNumeral_iff (by simp)).1 hnumeral).1 rfl
  exact ⟨⟨hvalue, accountName?_eq_some_iff.1 (accountName?_variable hne hmem)⟩,
    ⟨hkey, hnumeral⟩, hlt⟩

/-- Entries for different lines may change places. -/
theorem accountMappings_perm {l l' : List (String × String)} (hperm : l.Perm l')
    (h : l.Pairwise fun e e' => ∀ line, ¬(Chooses line e ∧ Chooses line e')) :
    accountMappings ⟨l'⟩ = accountMappings ⟨l⟩ := by
  refine (TextMap.gather_perm hperm (h.imp fun hne line _ _ hboth => hne line ?_)).symm
  exact hboth.imp (fun he => (chosenAccount?_eq_some_iff.1 he).1)
    fun he => (chosenAccount?_eq_some_iff.1 he).1

/-- Entries of different names set different variables. -/
theorem formulaVariables_perm {l l' : List (String × String)} (hperm : l.Perm l')
    (hkeys : (l.map Prod.fst).Nodup) : formulaVariables ⟨l'⟩ = formulaVariables ⟨l⟩ := by
  refine (TextMap.gather_perm hperm ((List.pairwise_map.1 hkeys).imp ?_)).symm
  rintro e e' hne name a a' ⟨ha, ha'⟩
  have hkey := (variableValue?_eq_some_iff.1 ha).1.key
  exact hne (hkey.trans (variableValue?_eq_some_iff.1 ha').1.key.symm)

/-- The entries choose the same account for the same line, or both choose none. -/
def ChooseAlike (e e' : String × String) : Prop :=
  ∀ line account, Chooses line e ∧ e.2 = account ↔ Chooses line e' ∧ e'.2 = account

/-- The entries set the same variable to the same number, or both set none. -/
def SetAlike (e e' : String × String) : Prop := ∀ name n, Sets name n e ↔ Sets name n e'

theorem accountMappings_congr {f f' : Fields} (h : List.Forall₂ ChooseAlike f.entries f'.entries) :
    f'.accountMappings = f.accountMappings := by
  have halike : List.Forall₂ (fun e e' => chosenAccount? e = chosenAccount? e')
      f.entries f'.entries := h.imp fun e e' hee => Option.ext fun ⟨line, account⟩ => by
    rw [chosenAccount?_eq_some_iff, chosenAccount?_eq_some_iff]
    exact hee line account
  rw [accountMappings, accountMappings, TextMap.gather_congr halike]

theorem formulaVariables_congr {f f' : Fields} (h : List.Forall₂ SetAlike f.entries f'.entries) :
    f'.formulaVariables = f.formulaVariables := by
  have halike : List.Forall₂ (fun e e' => variableValue? e = variableValue? e')
      f.entries f'.entries := h.imp fun e e' hee => Option.ext fun ⟨name, a⟩ => by
    rw [variableValue?_eq_some_iff, variableValue?_eq_some_iff]
    exact hee name a.toNat
  rw [formulaVariables, formulaVariables, TextMap.gather_congr halike]

end Fields

/-! ## The request -/

/-- A draft depends on six entries and two maps, and on nothing else in a form. -/
theorem Draft.ofFields_congr {f f' : Fields}
    (hplain : ∀ k : Fields.PlainName, f'.get? k.key = f.get? k.key)
    (haccounts : f'.accountMappings = f.accountMappings)
    (hvariables : f'.formulaVariables = f.formulaVariables) : ofFields f' = ofFields f := by
  have htemplate : f'.get? "templateId" = f.get? "templateId" := hplain .templateId
  have hamount : f'.get? "amount" = f.get? "amount" := hplain .amount
  have hdescription : f'.get? "description" = f.get? "description" := hplain .description
  have hdate : f'.get? "transactionDate" = f.get? "transactionDate" := hplain .transactionDate
  have hreference : f'.get? "referenceNumber" = f.get? "referenceNumber" := hplain .referenceNumber
  have hnotes : f'.get? "notes" = f.get? "notes" := hplain .notes
  simp only [ofFields, htemplate, hamount, hdescription, hdate, hreference, hnotes, haccounts,
    hvariables]

/-- Without variables the draft has no map of them, so there is nothing to be found either way. -/
theorem Draft.exists_formulaVariables_iff {f : Fields} {name : String} {n : Nat} :
    (∃ vs, (ofFields f).formulaVariables = some vs ∧ (vs.get? name).map UInt64.toNat = some n) ↔
      (f.formulaVariables.get? name).map UInt64.toNat = some n := by
  simp only [formulaVariables_ofFields_eq_some_iff]
  constructor
  · rintro ⟨vs, ⟨rfl, -⟩, h⟩
    exact h
  · refine fun h => ⟨_, ⟨rfl, fun hempty => ?_⟩, h⟩
    rw [hempty, TextMap.get?_empty] at h
    exact absurd h (by simp)

namespace Request

open Fields (Chooses Sets ChooseAlike SetAlike PlainName)

variable {p : Page} {c : Config}

/-- **Entries that leave no trace.**  An entry may be taken away if an earlier one has its plain
name, a later one chooses an account for its line, and a later one sets its variable, as far as it
has any of them. -/
theorem ofFields_erase {before after : List (String × String)} {e : String × String}
    (hplain : ∀ k : PlainName, e.1 = k.key → k.key ∈ before.map Prod.fst)
    (hline : ∀ line, Chooses line e → ∃ e' ∈ after, Chooses line e')
    (hvariable : ∀ name n, Sets name n e → ∃ e' ∈ after, ∃ n', Sets name n' e') :
    ofFields ⟨before ++ after⟩ p c = ofFields ⟨before ++ e :: after⟩ p c := by
  have hdraft : Draft.ofFields ⟨before ++ after⟩ = Draft.ofFields ⟨before ++ e :: after⟩ :=
    Draft.ofFields_congr (fun k => (Fields.get?_erase (hplain k)).symm)
      (Fields.accountMappings_erase hline).symm (Fields.formulaVariables_erase hvariable).symm
  rw [ofFields, ofFields, hdraft]

/-- **When the order does not matter.** -/
theorem ofFields_perm {l l' : List (String × String)} (hperm : l.Perm l')
    (hkeys : (l.map Prod.fst).Nodup)
    (hlines : l.Pairwise fun e e' => ∀ line, ¬(Chooses line e ∧ Chooses line e')) :
    ofFields ⟨l'⟩ p c = ofFields ⟨l⟩ p c := by
  have hdraft : Draft.ofFields ⟨l'⟩ = Draft.ofFields ⟨l⟩ :=
    Draft.ofFields_congr (fun k => Fields.get?_perm hperm hkeys k.key)
      (Fields.accountMappings_perm hperm hlines) (Fields.formulaVariables_perm hperm hkeys)
  rw [ofFields, ofFields, hdraft]

/-- The first note counts, and the last account; one entry sets a variable besides. -/
example :
    let d := Draft.ofFields ⟨[("notes", ""), ("var_accountMapping[a]", "7"), ("notes", "b"),
      ("accountMapping[a]", "8")]⟩
    d.notes = "" ∧ d.accountMappings.get? "a" = some "8" ∧
      d.formulaVariables.map (·.get? "accountMapping[a]") = some (some 7) := by decide +kernel

/-- The draft that the server reads in the request. -/
def draft? (r : Request) : Option Draft := Draft.ofBody? r.body

/-- The draft can be read back from the request. -/
theorem draft?_ofFields (f : Fields) (p : Page) (c : Config) :
    (ofFields f p c).draft? = some (Draft.ofFields f) := Draft.ofBody?_body _

/-- What a request depends on, and what it does not. -/
structure Determined (f : Fields) (p : Page) (c : Config) : Prop where
  /-- Not on the order of entries with different names that choose accounts for different lines. -/
  perm : ∀ entries, f.entries.Perm entries → (f.entries.map Prod.fst).Nodup →
    (f.entries.Pairwise fun e e' => ∀ line, ¬(Chooses line e ∧ Chooses line e')) →
    ofFields ⟨entries⟩ p c = ofFields f p c
  /-- Not on an entry that has none of the plain names, chooses no account and sets no variable. -/
  idle : ∀ before e after, f.entries = before ++ e :: after → (∀ k : PlainName, e.1 ≠ k.key) →
    (∀ line, ¬Chooses line e) → (∀ name n, ¬Sets name n e) →
    ofFields ⟨before ++ after⟩ p c = ofFields f p c
  /-- Not on an entry with a plain name that an earlier entry has. -/
  later : ∀ before e after, f.entries = before ++ e :: after → ∀ k : PlainName, e.1 = k.key →
    k.key ∈ before.map Prod.fst → ofFields ⟨before ++ after⟩ p c = ofFields f p c
  /-- Under a plain name the draft says what the first entry of the name says, be it empty. -/
  first : ∀ (k : PlainName) (before : List (String × String)) value after,
    f.entries = before ++ (k.key, value) :: after → k.key ∉ before.map Prod.fst →
    ∃ d, (ofFields f p c).draft? = some d ∧ k.Says d (some value)
  missing : ∀ k : PlainName, k.key ∉ f.entries.map Prod.fst →
    ∃ d, (ofFields f p c).draft? = some d ∧ k.Says d none
  /-- Not on an entry whose line gets its account, and its variable its number, from later ones. -/
  earlier : ∀ before e after, f.entries = before ++ e :: after → (∀ k : PlainName, e.1 ≠ k.key) →
    (∀ line, Chooses line e → ∃ e' ∈ after, Chooses line e') →
    (∀ name n, Sets name n e → ∃ e' ∈ after, ∃ n', Sets name n' e') →
    ofFields ⟨before ++ after⟩ p c = ofFields f p c
  /-- The draft has the account that the last entry chooses for a line, and the number to which the
  last entry sets a variable, each whatever the other may be. -/
  last : ∃ d, (ofFields f p c).draft? = some d ∧
    (∀ line account, d.accountMappings.get? line = some account ↔
      ∃ before e after, f.entries = before ++ e :: after ∧ Chooses line e ∧ e.2 = account ∧
        ∀ e' ∈ after, ¬Chooses line e') ∧
    ∀ name n, (∃ vs, d.formulaVariables = some vs ∧ (vs.get? name).map UInt64.toNat = some n) ↔
      ∃ before e after, f.entries = before ++ e :: after ∧ Sets name n e ∧
        ∀ e' ∈ after, ∀ n', ¬Sets name n' e'
  /-- The accounts depend only on what the entries choose, and the variables only on what they
  set. -/
  apart : ∀ f' : Fields,
    (List.Forall₂ ChooseAlike f.entries f'.entries →
      (ofFields f' p c).draft?.map Draft.accountMappings =
        (ofFields f p c).draft?.map Draft.accountMappings) ∧
    (List.Forall₂ SetAlike f.entries f'.entries →
      (ofFields f' p c).draft?.map Draft.formulaVariables =
        (ofFields f p c).draft?.map Draft.formulaVariables)
  /-- One entry may do both. -/
  both : ∀ line value n, line ≠ "" → ']' ∉ line.toList →
    IsNumeral n (value.toList.filter Char.isDigit) → n < 2 ^ 64 →
    ∃ d vs, (ofFields (f.push ("var_accountMapping[" ++ line ++ "]") value) p c).draft? = some d ∧
      d.accountMappings.get? line = some value ∧ d.formulaVariables = some vs ∧
      (vs.get? ("accountMapping[" ++ line ++ "]")).map UInt64.toNat = some n
  /-- Of the page, the request depends only on the two tags for the header. -/
  page : ∀ p' : Page, p'.tags.get? c.csrfTokenMeta = p.tags.get? c.csrfTokenMeta →
    p'.tags.get? c.csrfHeaderMeta = p.tags.get? c.csrfHeaderMeta →
    ofFields f p' c = ofFields f p c

/-- **A request is determined by what counts in the form**, whatever the form, the page and the
configuration. -/
theorem ofFields_determined (f : Fields) (p : Page) (c : Config) : Determined f p c where
  perm entries hperm hkeys hlines := ofFields_perm hperm hkeys hlines
  idle before e after hf hplain hline hvariable := by
    obtain rfl := Fields.eq_of_entries_eq hf
    exact ofFields_erase (fun k hk => absurd hk (hplain k)) (fun line h => absurd h (hline line))
      fun name n h => absurd h (hvariable name n)
  later before e after hf k hk hmem := by
    obtain rfl := Fields.eq_of_entries_eq hf
    refine ofFields_erase (fun k' hk' => ?_) (fun line h => absurd h (k.not_chooses hk line))
      fun name n h => absurd h (k.not_sets hk name n)
    rwa [← hk', hk]
  first k before value after hf hmem := by
    obtain rfl := Fields.eq_of_entries_eq hf
    have hsays := k.says_ofFields ⟨before ++ (k.key, value) :: after⟩
    rw [Fields.get?_of_notMem hmem] at hsays
    exact ⟨_, draft?_ofFields .., hsays⟩
  missing k hmem := by
    have hsays := k.says_ofFields f
    rw [Fields.get?_eq_none_of_notMem hmem] at hsays
    exact ⟨_, draft?_ofFields .., hsays⟩
  earlier before e after hf hplain hline hvariable := by
    obtain rfl := Fields.eq_of_entries_eq hf
    exact ofFields_erase (fun k hk => absurd hk (hplain k)) hline hvariable
  last := by
    refine ⟨_, draft?_ofFields .., fun line account => ?_, fun name n => ?_⟩
    · exact Fields.get?_accountMappings_eq_some_iff
    · rw [← Fields.get?_formulaVariables_eq_some_iff]
      exact Draft.exists_formulaVariables_iff
  apart f' := by
    simp only [draft?_ofFields, Option.map_some, Option.some_inj]
    refine ⟨fun h => Fields.accountMappings_congr h, fun h => ?_⟩
    simp only [Draft.ofFields, Fields.formulaVariables_congr h]
  both line value n hne hmem hnumeral hlt := by
    obtain ⟨hchooses, hsets⟩ := Fields.chooses_and_sets hne hmem hnumeral hlt
    obtain ⟨vs, hvs, hvariable⟩ :=
      Draft.exists_formulaVariables_iff.2 (Fields.get?_push_sets f hsets)
    exact ⟨_, vs, draft?_ofFields .., Fields.get?_push_chooses f hchooses, hvs, hvariable⟩
  page p' htoken hheader := ofFields_congr htoken hheader

end Request
end AccountingPage
