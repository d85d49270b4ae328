import Mathlib.Tactic.IntervalCases
import AccountingPage.Draft
import AccountingPage.Proofs.TextMap

/-!
# The accounts that a form chooses

A form chooses an account for a line of a template by an entry whose key has the line's name in
brackets, anywhere in the key.  Keys are written by whoever writes the template, so a key may have
several brackets, or none that is closed, or characters of any size.

* `IsAccountName` says which name a key has, without a search: the one that stands furthest to the
  left.
* `accountNameIn?_eq_or` says that the search misses no name when it goes on behind an opening,
  because the opening does not overlap itself; `accountName?_eq_some_iff` that it finds the name.
* `Fields.Chooses` says which line an entry chooses an account for.
* `StandsAt` is about the bytes of a text; `StandsAt.isValid` says that no text stands across the
  characters of another.
* `Fields.AccountsExact` is what is promised of the accounts of a form, and
  `Fields.accountMappings_exact` proves it of every form.
-/

set_option autoImplicit false

namespace AccountingPage

/-! ## A name at one place -/

/-- Behind `before`, the key goes on with a name in brackets: the name has at least one character,
and the first closing bracket after the opening one stands behind it. -/
structure NamedAfter (key before name : String) : Prop where
  split : ∃ after, key = before ++ "accountMapping[" ++ name ++ "]" ++ after
  ne_empty : name ≠ ""
  notMem : ']' ∉ name.toList

/-- The name of the key's account: no name stands further to the left. -/
def IsAccountName (key name : String) : Prop :=
  ∃ before, NamedAfter key before name ∧
    ∀ before' name', NamedAfter key before' name' → before.length ≤ before'.length

theorem takeWhile_append_bracket {name : List Char} (h : ']' ∉ name) (after : List Char) :
    (name ++ ']' :: after).takeWhile (· ≠ ']') = name := by
  have hname : ∀ c ∈ name, decide (c ≠ ']') = true := fun c hc =>
    decide_eq_true fun heq => h (heq ▸ hc)
  rw [List.takeWhile_append_of_pos hname, List.takeWhile_cons_of_neg (by simp), List.append_nil]

theorem closedName?_eq_some_iff {rest name : List Char} :
    closedName? rest = some name ↔
      (∃ after, rest = name ++ ']' :: after) ∧ name ≠ [] ∧ ']' ∉ name := by
  rw [closedName?]
  constructor
  · intro h
    obtain ⟨hif, hname⟩ := Option.ite_none_left_eq_some.1 h
    obtain ⟨hne, hmem⟩ := not_or.1 hif
    obtain ⟨as, after, rfl, has⟩ := List.eq_append_cons_of_mem (Decidable.not_not.1 hmem)
    rw [takeWhile_append_bracket has] at hname hne
    cases hname
    exact ⟨⟨after, rfl⟩, hne, has⟩
  · rintro ⟨⟨after, rfl⟩, hne, hnot⟩
    simp only [takeWhile_append_bracket hnot]
    exact if_neg (by simp [hne])

/-- The name behind an opening right at the front. -/
def accountNameHere? (cs : List Char) : Option (List Char) :=
  (accountMappingOpen.isPrefixOf? cs).bind closedName?

theorem accountNameHere?_opening (rest : List Char) :
    accountNameHere? (accountMappingOpen ++ rest) = closedName? rest := by
  rw [accountNameHere?, List.isPrefixOf?_eq_some_iff_append_eq.2 rfl, Option.bind_some]

theorem isPrefixOf?_eq_none {cs : List Char} (h : ¬accountMappingOpen <+: cs) :
    accountMappingOpen.isPrefixOf? cs = none :=
  Option.eq_none_iff_forall_ne_some.2 fun rest hrest =>
    h ⟨rest, List.isPrefixOf?_eq_some_iff_append_eq.1 hrest⟩

theorem accountNameHere?_eq_none {cs : List Char} (h : ¬accountMappingOpen <+: cs) :
    accountNameHere? cs = none := by
  rw [accountNameHere?, isPrefixOf?_eq_none h, Option.bind_none]

theorem accountNameHere?_eq_some_iff {cs name : List Char} :
    accountNameHere? cs = some name ↔
      (∃ after, cs = accountMappingOpen ++ (name ++ ']' :: after)) ∧ name ≠ [] ∧ ']' ∉ name := by
  constructor
  · intro h
    by_cases hstart : accountMappingOpen <+: cs
    · obtain ⟨rest, rfl⟩ := hstart
      rw [accountNameHere?_opening] at h
      obtain ⟨⟨after, rfl⟩, hname⟩ := closedName?_eq_some_iff.1 h
      exact ⟨⟨after, rfl⟩, hname⟩
    · exact absurd ((accountNameHere?_eq_none hstart).symm.trans h) (by simp)
  · rintro ⟨⟨after, rfl⟩, hname⟩
    rw [accountNameHere?_opening]
    exact closedName?_eq_some_iff.2 ⟨⟨after, rfl⟩, hname⟩

theorem namedAfter_iff {key before name : String} :
    NamedAfter key before name ↔
      ∃ rest, key.toList = before.toList ++ rest ∧ accountNameHere? rest = some name.toList := by
  have hsplit : ∀ after, key = before ++ "accountMapping[" ++ name ++ "]" ++ after ↔
      key.toList = before.toList ++ (accountMappingOpen ++ (name.toList ++ ']' :: after.toList)) :=
    fun after => by
      have hopen : "accountMapping[".toList = accountMappingOpen := rfl
      have hclose : "]".toList = [']'] := rfl
      rw [← String.toList_inj]
      simp only [String.toList_append, List.append_assoc, hopen, hclose, List.singleton_append]
  constructor
  · rintro ⟨⟨after, h⟩, hne, hnot⟩
    have hne' : name.toList ≠ [] := fun hnil => hne (String.toList_eq_nil_iff.1 hnil)
    exact ⟨accountMappingOpen ++ (name.toList ++ ']' :: after.toList), (hsplit after).1 h,
      accountNameHere?_eq_some_iff.2 ⟨⟨after.toList, rfl⟩, hne', hnot⟩⟩
  · rintro ⟨rest, hkey, hrest⟩
    obtain ⟨⟨after, rfl⟩, hne, hnot⟩ := accountNameHere?_eq_some_iff.1 hrest
    refine ⟨⟨String.ofList after, (hsplit _).2 ?_⟩, fun h => hne (by simp [h]), hnot⟩
    rw [hkey, String.toList_ofList]

/-! ## Behind an opening

The search goes on behind each opening that it finds.  It would miss a name if another opening began
within the one that has been found. -/

theorem accountMappingOpen_eq : accountMappingOpen =
    ['a', 'c', 'c', 'o', 'u', 'n', 't', 'M', 'a', 'p', 'p', 'i', 'n', 'g', '['] := rfl

/-- **The opening does not overlap itself**: it begins with `ac`, and these letters do not come again
in it. -/
theorem not_prefix_drop_append {n : Nat} (hpos : 0 < n) (hlt : n < accountMappingOpen.length)
    (rest : List Char) : ¬accountMappingOpen <+: accountMappingOpen.drop n ++ rest := by
  rw [accountMappingOpen_eq] at hlt ⊢
  simp only [List.length_cons, List.length_nil] at hlt
  interval_cases n <;> simp [List.cons_prefix_cons]

theorem behindOpenings_append (skipped rest : List Char) :
    behindOpenings skipped.length (skipped ++ rest) = behindOpenings 0 rest := by
  induction skipped with
  | nil => rfl
  | cons c skipped ih => exact ih

theorem accountNameIn?_cons {c : Char} {cs : List Char} (h : ¬accountMappingOpen <+: c :: cs) :
    accountNameIn? (c :: cs) = accountNameIn? cs := by
  rw [accountNameIn?, behindOpenings, isPrefixOf?_eq_none h]
  rfl

/-- The first opening counts if a name stands behind it, and else it is passed over. -/
theorem accountNameIn?_opening (rest : List Char) :
    accountNameIn? (accountMappingOpen ++ rest) = (closedName? rest).or (accountNameIn? rest) := by
  have hcons : accountMappingOpen ++ rest = 'a' :: (accountMappingOpen.tail ++ rest) := rfl
  have hsome : accountMappingOpen.isPrefixOf? ('a' :: (accountMappingOpen.tail ++ rest)) =
      some rest := List.isPrefixOf?_eq_some_iff_append_eq.2 hcons
  have hskip := behindOpenings_append accountMappingOpen.tail rest
  rw [List.length_tail] at hskip
  rw [accountNameIn?, hcons, behindOpenings, hsome]
  simp only [hskip, List.findSome?_cons]
  cases closedName? rest <;> rfl

theorem accountNameIn?_drop_append {n : Nat} (hpos : 0 < n) (rest : List Char) :
    accountNameIn? (accountMappingOpen.drop n ++ rest) = accountNameIn? rest := by
  by_cases hlt : n < accountMappingOpen.length
  · have hnot := not_prefix_drop_append hpos hlt rest
    rw [List.drop_eq_getElem_cons hlt, List.cons_append] at hnot ⊢
    rw [accountNameIn?_cons hnot, accountNameIn?_drop_append (Nat.succ_pos n)]
  · rw [List.drop_eq_nil_of_le (Nat.le_of_not_lt hlt), List.nil_append]
termination_by accountMappingOpen.length - n

/-- **The search misses nothing.**  It is as if it looked at every place, one after the other. -/
theorem accountNameIn?_eq_or (c : Char) (cs : List Char) :
    accountNameIn? (c :: cs) = (accountNameHere? (c :: cs)).or (accountNameIn? cs) := by
  by_cases h : accountMappingOpen <+: c :: cs
  · obtain ⟨rest, hrest⟩ := h
    have hcs : accountMappingOpen.drop 1 ++ rest = cs := (List.cons.inj hrest).2
    rw [← hrest, ← hcs, accountNameHere?_opening, accountNameIn?_opening,
      accountNameIn?_drop_append Nat.one_pos]
  · rw [accountNameIn?_cons h, accountNameHere?_eq_none h, Option.none_or]

/-! ## The name furthest to the left -/

theorem accountNameIn?_of_here {cs name : List Char} (h : accountNameHere? cs = some name) :
    accountNameIn? cs = some name := by
  cases cs with
  | nil =>
    obtain ⟨⟨after, hafter⟩, -⟩ := accountNameHere?_eq_some_iff.1 h
    exact absurd hafter (by simp)
  | cons c cs => rw [accountNameIn?_eq_or, h, Option.some_or]

/-- Where there is no name, the search goes on behind. -/
theorem accountNameIn?_append {before rest : List Char}
    (h : ∀ before' rest', before ++ rest = before' ++ rest' → before'.length < before.length →
      accountNameHere? rest' = none) :
    accountNameIn? (before ++ rest) = accountNameIn? rest := by
  induction before with
  | nil => rfl
  | cons c before ih =>
    have hhere := h [] (c :: (before ++ rest)) rfl (Nat.succ_pos _)
    rw [List.cons_append, accountNameIn?_eq_or, hhere, Option.none_or]
    refine ih fun before' rest' heq hlt => h (c :: before') rest' ?_ (Nat.succ_lt_succ hlt)
    rw [List.cons_append, List.cons_append, heq]

theorem exists_of_accountNameIn? {cs name : List Char} (h : accountNameIn? cs = some name) :
    ∃ before rest, cs = before ++ rest ∧ accountNameHere? rest = some name ∧
      ∀ before' rest', cs = before' ++ rest' → before'.length < before.length →
        accountNameHere? rest' = none := by
  induction cs with
  | nil => exact absurd h (by simp [accountNameIn?, behindOpenings])
  | cons c cs ih =>
    rw [accountNameIn?_eq_or] at h
    cases hhere : accountNameHere? (c :: cs) with
    | some name' =>
      rw [hhere, Option.some_or] at h
      exact ⟨[], c :: cs, rfl, hhere.trans h, fun _ _ _ hlt => absurd hlt (Nat.not_lt_zero _)⟩
    | none =>
      rw [hhere, Option.none_or] at h
      obtain ⟨before, rest, rfl, hrest, hleft⟩ := ih h
      refine ⟨c :: before, rest, rfl, hrest, fun before' rest' hcs hlt => ?_⟩
      cases before' with
      | nil =>
        rw [List.nil_append] at hcs
        exact hcs ▸ hhere
      | cons d before' =>
        exact hleft before' rest' (List.cons.inj hcs).2 (Nat.lt_of_succ_lt_succ hlt)

/-- The search finds a name at the first place where there is one. -/
theorem accountNameIn?_eq_some_iff {cs name : List Char} :
    accountNameIn? cs = some name ↔
      ∃ before rest, cs = before ++ rest ∧ accountNameHere? rest = some name ∧
        ∀ before' rest', cs = before' ++ rest' → before'.length < before.length →
          accountNameHere? rest' = none := by
  refine ⟨exists_of_accountNameIn?, ?_⟩
  rintro ⟨before, rest, rfl, hrest, hleft⟩
  rw [accountNameIn?_append hleft, accountNameIn?_of_here hrest]

/-- **The search finds the name furthest to the left**, and no other. -/
theorem accountName?_eq_some_iff {key name : String} :
    accountName? key = some name ↔ IsAccountName key name := by
  have hlist : accountName? key = some name ↔ accountNameIn? key.toList = some name.toList := by
    rw [accountName?, Option.map_eq_some_iff]
    constructor
    · rintro ⟨cs, hcs, rfl⟩
      rw [hcs, String.toList_ofList]
    · exact fun h => ⟨_, h, String.ofList_toList⟩
  rw [hlist, accountNameIn?_eq_some_iff]
  constructor
  · rintro ⟨before, rest, hkey, hrest, hleft⟩
    refine ⟨String.ofList before, namedAfter_iff.2 ⟨rest, by simpa using hkey, hrest⟩, ?_⟩
    intro before' name' h
    obtain ⟨rest', hkey', hrest'⟩ := namedAfter_iff.1 h
    refine Nat.le_of_not_lt fun hlt => ?_
    rw [String.length_ofList, ← String.length_toList] at hlt
    exact absurd ((hleft _ _ hkey' hlt).symm.trans hrest') (by simp)
  · rintro ⟨before, h, hleft⟩
    obtain ⟨rest, hkey, hrest⟩ := namedAfter_iff.1 h
    refine ⟨_, rest, hkey, hrest, fun before' rest' hkey' hlt => ?_⟩
    refine Option.eq_none_iff_forall_ne_some.2 fun name' hname' => Nat.not_le_of_lt hlt ?_
    have h' : NamedAfter key (String.ofList before') (String.ofList name') :=
      namedAfter_iff.2 ⟨rest', by simpa using hkey', by simpa using hname'⟩
    have hle := hleft _ _ h'
    rwa [String.length_ofList, ← String.length_toList] at hle

/-- If there is a name at any place, the search finds one. -/
theorem isSome_accountNameIn?_append {before rest : List Char}
    (h : (accountNameHere? rest).isSome) : (accountNameIn? (before ++ rest)).isSome := by
  induction before with
  | nil =>
    obtain ⟨name, hname⟩ := Option.isSome_iff_exists.1 h
    rw [List.nil_append, accountNameIn?_of_here hname, Option.isSome_some]
  | cons c before ih =>
    rw [List.cons_append, accountNameIn?_eq_or, Option.isSome_or, ih, Bool.or_true]

theorem NamedAfter.exists_isAccountName {key before name : String}
    (h : NamedAfter key before name) : ∃ name', IsAccountName key name' := by
  obtain ⟨rest, hkey, hrest⟩ := namedAfter_iff.1 h
  have hfound : (accountName? key).isSome := by
    rw [accountName?, Option.isSome_map, hkey]
    exact isSome_accountNameIn?_append (Option.isSome_of_eq_some hrest)
  obtain ⟨name', hname'⟩ := Option.isSome_iff_exists.1 hfound
  exact ⟨name', accountName?_eq_some_iff.1 hname'⟩

/-- No name begins at an empty pair of brackets, nor within the text before it. -/
theorem accountNameIn?_emptyPair (after : List Char) :
    accountNameIn? (accountMappingOpen ++ ']' :: after) = accountNameIn? after := by
  have hnone : closedName? (']' :: after) = none := by simp [closedName?]
  have hbracket : ¬accountMappingOpen <+: ']' :: after := by simp [accountMappingOpen_eq]
  rw [accountNameIn?_opening, hnone, Option.none_or, accountNameIn?_cons hbracket]

/-- An empty pair of brackets hides no name behind it. -/
theorem isAccountName_emptyPair_iff {before after name : String}
    (h : ∀ before' name', NamedAfter (before ++ "accountMapping[]" ++ after) before' name' →
      before.length ≤ before'.length) :
    IsAccountName (before ++ "accountMapping[]" ++ after) name ↔ IsAccountName after name := by
  have hpair : "accountMapping[]".toList = accountMappingOpen ++ [']'] := rfl
  have hkey : (before ++ "accountMapping[]" ++ after).toList =
      before.toList ++ (accountMappingOpen ++ ']' :: after.toList) := by
    simp only [String.toList_append, List.append_assoc, hpair, List.singleton_append]
  have hsearch : accountName? (before ++ "accountMapping[]" ++ after) = accountName? after := by
    rw [accountName?, accountName?, hkey, accountNameIn?_append, accountNameIn?_emptyPair]
    intro before' rest' heq hlt
    refine Option.eq_none_iff_forall_ne_some.2 fun name' hname' => Nat.not_le_of_lt hlt ?_
    have hnamed := h (String.ofList before') (String.ofList name')
      (namedAfter_iff.2 ⟨rest', by rw [hkey, heq, String.toList_ofList], by simpa using hname'⟩)
    rwa [String.length_ofList, ← String.length_toList] at hnamed
  rw [← accountName?_eq_some_iff, ← accountName?_eq_some_iff, hsearch]

/-- The start of a variable's key is passed over. -/
theorem accountName?_variable {line : String} (hne : line ≠ "") (hmem : ']' ∉ line.toList) :
    accountName? ("var_accountMapping[" ++ line ++ "]") = some line := by
  have hkey : ("var_accountMapping[" ++ line ++ "]").toList =
      'v' :: 'a' :: 'r' :: '_' :: (accountMappingOpen ++ (line.toList ++ ']' :: [])) := by
    have hopen : "var_accountMapping[".toList = 'v' :: 'a' :: 'r' :: '_' :: accountMappingOpen :=
      rfl
    have hclose : "]".toList = [']'] := rfl
    simp only [String.toList_append, List.append_assoc, hopen, hclose, List.cons_append]
  have hhere : accountNameHere? (accountMappingOpen ++ (line.toList ++ ']' :: [])) =
      some line.toList := accountNameHere?_eq_some_iff.2
    ⟨⟨[], rfl⟩, fun hnil => hne (String.toList_eq_nil_iff.1 hnil), hmem⟩
  rw [accountName?, hkey, accountNameIn?_cons, accountNameIn?_cons, accountNameIn?_cons,
    accountNameIn?_cons, accountNameIn?_of_here hhere, Option.map_some, String.ofList_toList] <;>
    simp [accountMappingOpen_eq]

/-! ## Bytes and characters

A key may also be searched byte by byte.  Then it is cut right behind the bytes of the opening, and
right before the byte of the closing bracket. -/

/-- The bytes of `t` stand in `s` from the byte `i` on. -/
def StandsAt (t s : String) (i : Nat) : Prop :=
  s.toByteArray.extract i (i + t.utf8ByteSize) = t.toByteArray

theorem StandsAt.le {t s : String} {i : Nat} (h : StandsAt t s i) (ht : t ≠ "") :
    i + t.utf8ByteSize ≤ s.utf8ByteSize := by
  have hpos : 0 < t.utf8ByteSize :=
    Nat.pos_of_ne_zero fun h0 => ht (String.utf8ByteSize_eq_zero_iff.1 h0)
  have hsize := congrArg ByteArray.size h
  rw [ByteArray.size_extract, String.size_toByteArray, String.size_toByteArray] at hsize
  omega

/-- **No text stands across the characters of another.**  Where its bytes begin and where they end,
characters begin or the other text ends. -/
theorem StandsAt.isValid {t s : String} {i : Nat} (h : StandsAt t s i) (ht : t ≠ "") :
    (String.Pos.Raw.mk i).IsValid s ∧ (String.Pos.Raw.mk (i + t.utf8ByteSize)).IsValid s := by
  have hutf8 : (s.toByteArray.extract i (i + t.utf8ByteSize)).IsValidUTF8 := by
    rw [h]
    exact t.isValidUTF8
  have hle : String.Pos.Raw.mk i ≤ String.Pos.Raw.mk (i + t.utf8ByteSize) := Nat.le_add_right ..
  rcases (String.Pos.Raw.isValidUTF8_extract_iff _ _ hle (h.le ht)).1 hutf8 with heq | hends
  · have hzero : i = i + t.utf8ByteSize := congrArg String.Pos.Raw.byteIdx heq
    exact absurd (String.utf8ByteSize_eq_zero_iff.1 (Nat.left_eq_add.1 hzero)) ht
  · exact hends

theorem standsAt_append (before t after : String) :
    StandsAt t (before ++ t ++ after) before.utf8ByteSize := by
  rw [StandsAt, String.append_assoc, String.toByteArray_append, String.toByteArray_append,
    ← Nat.add_zero before.utf8ByteSize, Nat.add_assoc,
    ByteArray.extract_append_size_add' (String.size_toByteArray).symm, Nat.zero_add,
    ByteArray.extract_append_eq_left (String.size_toByteArray).symm]

/-- What is promised of a key, whatever characters it has. -/
structure KeyExact (key : String) : Prop where
  /-- The name that is found is the one furthest to the left, and it has at least one character and
  no closing bracket. -/
  found : ∀ name, accountName? key = some name ↔ IsAccountName key name
  /-- Nothing hides a name: if there is one at any place, one is found. -/
  hidden : ∀ before name, NamedAfter key before name → (accountName? key).isSome
  /-- Least of all an empty pair of brackets with no name at any place before it. -/
  emptyPair : ∀ before after, key = before ++ "accountMapping[]" ++ after →
    (∀ before' name, NamedAfter key before' name → before.length ≤ before'.length) →
    ∀ name, IsAccountName key name ↔ IsAccountName after name
  /-- Behind the bytes of the opening, wherever they stand, a character begins or the key ends, and
  the byte of a closing bracket, wherever it stands, is a character. -/
  cut : (∀ i, StandsAt "accountMapping[" key i → (String.Pos.Raw.mk (i + 15)).IsValid key) ∧
    ∀ i, StandsAt "]" key i → (String.Pos.Raw.mk i).IsValid key
  /-- The name is what stands between two such cuts. -/
  slice : ∀ name, IsAccountName key name → ∃ i, StandsAt "accountMapping[" key i ∧
    StandsAt name key (i + 15) ∧ StandsAt "]" key (i + 15 + name.utf8ByteSize)

theorem keyExact (key : String) : KeyExact key where
  found name := accountName?_eq_some_iff
  hidden before name h := by
    obtain ⟨name', hname'⟩ := h.exists_isAccountName
    rw [accountName?_eq_some_iff.2 hname', Option.isSome_some]
  emptyPair before after hkey h name := by
    subst hkey
    exact isAccountName_emptyPair_iff h
  cut := ⟨fun i h => (h.isValid (by decide)).2, fun i h => (h.isValid (by decide)).1⟩
  slice name h := by
    obtain ⟨before, ⟨⟨after, rfl⟩, -, -⟩, -⟩ := h
    have hbytes : "accountMapping[".utf8ByteSize = 15 := by decide
    refine ⟨before.utf8ByteSize, ?_, ?_, ?_⟩
    · have hopen := standsAt_append before "accountMapping[" (name ++ "]" ++ after)
      simpa only [String.append_assoc] using hopen
    · have hname := standsAt_append (before ++ "accountMapping[") name ("]" ++ after)
      rw [String.utf8ByteSize_append, hbytes] at hname
      simpa only [String.append_assoc] using hname
    · have hclose := standsAt_append (before ++ "accountMapping[" ++ name) "]" after
      rw [String.utf8ByteSize_append, String.utf8ByteSize_append, hbytes] at hclose
      exact hclose

/-! ## The accounts of a form -/

namespace Fields

/-- The entry chooses its value as the account for a line. -/
def Chooses (line : String) (e : String × String) : Prop := e.2 ≠ "" ∧ IsAccountName e.1 line

theorem chosenAccount?_eq_some_iff {e : String × String} {line account : String} :
    chosenAccount? e = some (line, account) ↔ Chooses line e ∧ e.2 = account := by
  rw [chosenAccount?, Option.ite_none_left_eq_some, Option.map_eq_some_iff, Chooses, and_assoc]
  refine and_congr_right fun _ => ?_
  constructor
  · rintro ⟨name, hname, heq⟩
    obtain ⟨rfl, rfl⟩ := Prod.mk.inj heq
    exact ⟨accountName?_eq_some_iff.1 hname, rfl⟩
  · rintro ⟨hname, rfl⟩
    exact ⟨line, accountName?_eq_some_iff.2 hname, rfl⟩

/-- An account is chosen for a line by an entry, and by no entry after it. -/
theorem get?_accountMappings_eq_some_iff {f : Fields} {line account : String} :
    f.accountMappings.get? line = some account ↔
      ∃ before e after, f.entries = before ++ e :: after ∧ Chooses line e ∧ e.2 = account ∧
        ∀ e' ∈ after, ¬Chooses line e' := by
  have hnone : ∀ e, (∀ other, chosenAccount? e ≠ some (line, other)) ↔ ¬Chooses line e := fun e =>
    ⟨fun h hchooses => h e.2 (chosenAccount?_eq_some_iff.2 ⟨hchooses, rfl⟩),
      fun h _ hsome => h (chosenAccount?_eq_some_iff.1 hsome).1⟩
  rw [accountMappings, TextMap.get?_gather_eq_some_iff]
  simp only [chosenAccount?_eq_some_iff, hnone, and_assoc]

/-- An entry may be taken away if an account is chosen for its line after it, or if it chooses
none. -/
theorem accountMappings_erase {before after : List (String × String)} {e : String × String}
    (h : ∀ line, Chooses line e → ∃ e' ∈ after, Chooses line e') :
    accountMappings ⟨before ++ e :: after⟩ = accountMappings ⟨before ++ after⟩ := by
  refine TextMap.gather_erase fun line account he => ?_
  obtain ⟨e', hmem, he'⟩ := h line (chosenAccount?_eq_some_iff.1 he).1
  exact ⟨e', hmem, e'.2, chosenAccount?_eq_some_iff.2 ⟨he', rfl⟩⟩

theorem accountMappings_erase_of_not_chooses {before after : List (String × String)}
    {e : String × String} (h : ∀ line, ¬Chooses line e) :
    accountMappings ⟨before ++ e :: after⟩ = accountMappings ⟨before ++ after⟩ :=
  accountMappings_erase fun line hline => absurd hline (h line)

/-- What is promised of the accounts of a form. -/
structure AccountsExact (f : Fields) : Prop where
  /-- The account of a line is the value of the last entry that chooses one for it. -/
  lastCounts : ∀ line account, f.accountMappings.get? line = some account ↔
    ∃ before e after, f.entries = before ++ e :: after ∧ Chooses line e ∧ e.2 = account ∧
      ∀ e' ∈ after, ¬Chooses line e'
  /-- An entry without a value neither chooses an account nor takes one away. -/
  blank : ∀ before key after, f.entries = before ++ (key, "") :: after →
    f.accountMappings = accountMappings ⟨before ++ after⟩
  /-- Nor does an entry whose key has a name at no place. -/
  nameless : ∀ before e after, f.entries = before ++ e :: after →
    (∀ before' name, ¬NamedAfter e.1 before' name) →
    f.accountMappings = accountMappings ⟨before ++ after⟩
  /-- The lines have names. -/
  names : ∀ line, f.accountMappings.contains line → line ≠ "" ∧ ']' ∉ line.toList
  keys : ∀ e ∈ f.entries, KeyExact e.1

/-- **The accounts of every form are exact.** -/
theorem accountMappings_exact (f : Fields) : f.AccountsExact where
  lastCounts line account := get?_accountMappings_eq_some_iff
  blank before key after hf := by
    obtain rfl := eq_of_entries_eq hf
    exact accountMappings_erase_of_not_chooses fun line h => h.1 rfl
  nameless before e after hf h := by
    obtain rfl := eq_of_entries_eq hf
    refine accountMappings_erase_of_not_chooses fun line hchooses => ?_
    obtain ⟨before', hnamed, -⟩ := hchooses.2
    exact h before' line hnamed
  names line h := by
    obtain ⟨account, haccount⟩ := Option.isSome_iff_exists.1 h
    obtain ⟨_, _, _, _, ⟨-, _, hnamed, -⟩, -⟩ := get?_accountMappings_eq_some_iff.1 haccount
    exact ⟨hnamed.ne_empty, hnamed.notMem⟩
  keys e _ := keyExact e.1

/-- An empty pair of brackets, and a bracket within a name. -/
example : accountName? "accountMapping[]xaccountMapping[a[b]]" = some "a[b" := by decide

end Fields
end AccountingPage
