import AccountingPage.Draft
import AccountingPage.Proofs.Json.RoundTrip
import AccountingPage.Proofs.TextMap

/-!
# The text of a draft loses nothing

The server knows of a draft what its text says.  So the text has to say all of it: which of the
optional entries are there, every account and every variable under its own name, and every amount
to the last rupiah, whatever characters a person has typed.

* `Draft.ofBody?` reads a draft off a text, by the names of the members.
* `Draft.Spells` describes the members, `Draft.Lossless` is what is promised of a text.
* `Draft.body_lossless` proves it for every draft.
-/

set_option autoImplicit false

namespace AccountingPage

/-- The code points of a text. -/
def codePoints (s : String) : List Nat := s.toList.map Char.toNat

theorem codePoints_lt {s t : String} (h : s < t) : codePoints s < codePoints t :=
  List.map_lt (fun _ _ hlt => hlt) h

namespace Draft

/-! ## Reading a draft -/

def textOrNull? : Json.Value → Option (Option String)
  | .null => some none
  | .string s => some (some s)
  | _ => none

def amount? : Json.Value → Option Amount
  | .number (.integer (.ofNat n)) => Amount.ofNat? n
  | _ => none

/-- A map whose values are all of one kind. -/
def map? {α : Type} (read : Json.Value → Option α) : Json.Value → Option (TextMap α)
  | .object members => (members.mapM fun m => (read m.2).map (m.1, ·)).map .ofList
  | _ => none

/-- A draft by the names of its members, in whichever order they come.  Only the variables may be
missing. -/
def ofMembers? (members : List (String × Json.Value)) : Option Draft := do
  let member? := fun name => TextMap.lookupEntry name members
  let templateId ← member? "templateId" >>= textOrNull?
  let amount ← member? "amount" >>= amount?
  let description ← member? "description" >>= textOrNull?
  let transactionDate ← member? "transactionDate" >>= textOrNull?
  let referenceNumber ← member? "referenceNumber" >>= Json.Value.text?
  let notes ← member? "notes" >>= Json.Value.text?
  let accountMappings ← member? "accountMappings" >>= map? Json.Value.text?
  let formulaVariables ←
    match member? "variables" with
    | some v => (map? amount? v).map some
    | none => some none
  return ⟨templateId, amount, description, transactionDate, referenceNumber, notes,
    accountMappings, formulaVariables⟩

/-- Reads a draft back from its text. -/
def ofBody? (text : String) : Option Draft :=
  match Json.parse text with
  | .ok (.object members) => ofMembers? members
  | _ => none

/-! ## What was written is read -/

theorem textOrNull?_optionalText (s : Option String) : textOrNull? (optionalText s) = some s := by
  cases s <;> rfl

theorem amount?_amountValue (a : Amount) : amount? (amountValue a) = some a :=
  Amount.ofNat?_eq_some_iff.2 rfl

/-- A map is read back from its entries if its values are. -/
theorem map?_entries {α : Type} {read : Json.Value → Option α} {write : α → Json.Value}
    (h : ∀ a, read (write a) = some a) (m : TextMap α) :
    map? read (.object (m.map write).entries) = some m := by
  have hentries : ∀ l : List (String × α),
      ((l.map fun e => (e.1, write e.2)).mapM fun m => (read m.2).map (m.1, ·)) = some l := by
    intro l
    induction l with
    | nil => rfl
    | cons e l ih => simp [List.mapM_cons, h, ih]
  rw [map?, TextMap.map, hentries, Option.map_some, TextMap.ofList_entries]

/-- The members of a draft's text, in their order. -/
def members (d : Draft) : List (String × Json.Value) :=
  [("templateId", optionalText d.templateId),
    ("amount", amountValue d.amount),
    ("description", optionalText d.description),
    ("transactionDate", optionalText d.transactionDate),
    ("referenceNumber", .string d.referenceNumber),
    ("notes", .string d.notes),
    ("accountMappings", .object (d.accountMappings.map Json.Value.string).entries)] ++
  match d.formulaVariables with
  | some vs => [("variables", .object (vs.map amountValue).entries)]
  | none => []

theorem toJson_eq (d : Draft) : d.toJson = .object d.members := rfl

/-- **A draft is read back from its members.** -/
theorem ofMembers?_members (d : Draft) : ofMembers? d.members = some d := by
  have htext : ∀ s, Json.Value.text? (.string s) = some s := fun _ => rfl
  have haccounts := map?_entries htext d.accountMappings
  obtain ⟨templateId, amount, description, transactionDate, referenceNumber, notes, accounts,
    formulaVariables⟩ := d
  cases formulaVariables with
  | none =>
    simp [ofMembers?, members, TextMap.lookupEntry, textOrNull?_optionalText, amount?_amountValue,
      Json.Value.text?, haccounts]
  | some vs =>
    have hvariables := map?_entries amount?_amountValue vs
    simp [ofMembers?, members, TextMap.lookupEntry, textOrNull?_optionalText, amount?_amountValue,
      Json.Value.text?, haccounts, hvariables]

theorem fits_optionalText (s : Option String) (room : Nat) : (optionalText s).Fits room := by
  cases s with
  | none => exact .null
  | some s => exact .string s

theorem fits_amountValue (a : Amount) (room : Nat) : (amountValue a).Fits room :=
  .integer (by omega) (by have := a.toNat_lt; omega)

theorem fits_entries {α : Type} {write : α → Json.Value} {room : Nat}
    (h : ∀ a, (write a).Fits room) (m : TextMap α) :
    (Json.Value.object (m.map write).entries).Fits (room + 1) := by
  refine .object fun member hmember => ?_
  obtain ⟨e, -, rfl⟩ := List.mem_map.1 hmember
  exact h e.2

/-- A draft has few brackets within brackets. -/
theorem fits_toJson (d : Draft) : d.toJson.Fits Json.maxDepth := by
  refine .object fun member hmember => ?_
  rcases List.mem_append.1 hmember with hmember | hmember
  · simp only [List.mem_cons, List.not_mem_nil, or_false] at hmember
    rcases hmember with rfl | rfl | rfl | rfl | rfl | rfl | rfl
    · exact fits_optionalText _ _
    · exact fits_amountValue _ _
    · exact fits_optionalText _ _
    · exact fits_optionalText _ _
    · exact .string _
    · exact .string _
    · exact fits_entries .string _
  · cases hvariables : d.formulaVariables with
    | none => simp [hvariables] at hmember
    | some vs =>
      simp only [hvariables, List.mem_singleton] at hmember
      subst hmember
      exact fits_entries (fits_amountValue · _) vs

/-- The text of a draft is read as its members. -/
theorem parse_body (d : Draft) : Json.parse d.body = .ok (.object d.members) := by
  rw [body, Json.parse_render (fits_toJson d), toJson_eq]

/-- **A draft is read back from its text.** -/
theorem ofBody?_body (d : Draft) : ofBody? d.body = some d := by
  rw [ofBody?, parse_body]
  exact ofMembers?_members d

/-! ## What the text says -/

/-- The members are the entries of the map, in ascending order of the code points of their names. -/
structure Lists {α : Type} (write : α → Json.Value) (m : TextMap α)
    (members : List (String × Json.Value)) : Prop where
  entries : members = m.entries.map fun e => (e.1, write e.2)
  ascending : members.Pairwise fun a b => codePoints a.1 < codePoints b.1

theorem lists_map {α : Type} (write : α → Json.Value) (m : TextMap α) :
    Lists write m (m.map write).entries :=
  ⟨rfl, (m.map write).ascending.imp codePoints_lt⟩

/-- What the members of a draft's text are, found by their names. -/
structure Spells (d : Draft) (members : List (String × Json.Value)) : Prop where
  /-- No name comes twice, and the variables are there only if the draft has a map of them. -/
  names : (members.map Prod.fst).Nodup ∧ members.map Prod.fst =
    ["templateId", "amount", "description", "transactionDate", "referenceNumber", "notes",
      "accountMappings"] ++ if d.formulaVariables.isSome then ["variables"] else []
  /-- An entry that the form does not have is null, and no other one is. -/
  optional : ∀ e ∈ [("templateId", d.templateId), ("description", d.description),
      ("transactionDate", d.transactionDate)],
    (TextMap.lookupEntry e.1 members = some .null ↔ e.2 = none) ∧
      ∀ s, TextMap.lookupEntry e.1 members = some (.string s) ↔ e.2 = some s
  amount : TextMap.lookupEntry "amount" members = some (.number (.integer d.amount.toNat))
  texts : TextMap.lookupEntry "referenceNumber" members = some (.string d.referenceNumber) ∧
    TextMap.lookupEntry "notes" members = some (.string d.notes)
  accounts : ∃ ms, TextMap.lookupEntry "accountMappings" members = some (.object ms) ∧
    Lists .string d.accountMappings ms
  variables_iff : (TextMap.lookupEntry "variables" members).isSome ↔ d.formulaVariables.isSome
  variables_some : ∀ vs, d.formulaVariables = some vs →
    ∃ ms, TextMap.lookupEntry "variables" members = some (.object ms) ∧
      Lists (fun a => .number (.integer a.toNat)) vs ms

/-- A member that is null is told from a member that is a text, even an empty one. -/
theorem optionalText_iff {found : Option Json.Value} {s : Option String}
    (h : found = some (optionalText s)) :
    (found = some .null ↔ s = none) ∧ ∀ t, found = some (.string t) ↔ s = some t := by
  subst h
  cases s <;> simp [optionalText]

theorem spells_members (d : Draft) : d.Spells d.members where
  names := by
    cases h : d.formulaVariables <;> simp [members, h]
  optional e he := by
    simp only [List.mem_cons, List.not_mem_nil, or_false] at he
    rcases he with rfl | rfl | rfl <;>
      exact optionalText_iff (by simp [members, TextMap.lookupEntry])
  amount := by simp [members, TextMap.lookupEntry, amountValue]
  texts := by simp [members, TextMap.lookupEntry]
  accounts := by
    refine ⟨_, ?_, lists_map .string d.accountMappings⟩
    simp [members, TextMap.lookupEntry]
  variables_iff := by
    cases h : d.formulaVariables <;> simp [members, h, TextMap.lookupEntry]
  variables_some vs h := by
    refine ⟨(vs.map amountValue).entries, ?_, lists_map amountValue vs⟩
    simp [members, h, TextMap.lookupEntry]

/-- What is promised of the text of a draft. -/
structure Lossless (d : Draft) : Prop where
  /-- It is one object, and its members say what the draft holds. -/
  object : ∃ members, Json.parse d.body = .ok (.object members) ∧ d.Spells members
  /-- Read by the names of the members, it gives back the draft. -/
  decoded : ofBody? d.body = some d
  /-- No other draft has it. -/
  injective : ∀ d' : Draft, d'.body = d.body → d' = d
  /-- It does not matter in which order the accounts were entered. -/
  accounts_perm : ∀ l l' : List (String × String), l.Perm l' → (l.map Prod.fst).Nodup →
    { d with accountMappings := .ofList l }.body = { d with accountMappings := .ofList l' }.body
  /-- Nor in which order the variables were. -/
  variables_perm : ∀ l l' : List (String × Amount), l.Perm l' → (l.map Prod.fst).Nodup →
    { d with formulaVariables := some (.ofList l) }.body =
      { d with formulaVariables := some (.ofList l') }.body

/-- **The text of a draft loses nothing.** -/
theorem body_lossless (d : Draft) : d.Lossless where
  object := ⟨d.members, parse_body d, spells_members d⟩
  decoded := ofBody?_body d
  injective d' h := by
    have hdecoded := ofBody?_body d'
    rw [h, ofBody?_body d] at hdecoded
    exact (Option.some.inj hdecoded).symm
  accounts_perm l l' hperm hnodup := by rw [TextMap.ofList_perm hperm hnodup]
  variables_perm l l' hperm hnodup := by rw [TextMap.ofList_perm hperm hnodup]

end Draft
end AccountingPage
