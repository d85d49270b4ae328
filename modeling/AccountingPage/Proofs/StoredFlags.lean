import AccountingPage.Proofs.FormulaVariables
import AccountingPage.Proofs.Json.Acceptance
import AccountingPage.Proofs.SectionFlags

/-!
# Flags that are restored

What stands under a section's key need not be a flag.  It may have been written by another version
of the page, or by hand, or have been cut off.  Such a text is as good as none: the section starts
with its default, and the first change of the section puts a flag in its place.

* `Json.SpellsFlag` says which texts are flags, and `Json.document_boolean_eq_ok_iff` that these are
  read and no others.
* `Store.Tells` and `Store.TellsNothing` are about what stands under a key.  `Store.flagAt_of_tells`,
  `flagAt_of_get?_eq_none` and `flagAt_of_tellsNothing` are all that reading a flag can come to.
* `Sections.StandsAt` says that a section and the store have one flag.  `standsAt_change` and
  `standsAt_run` are about changes of the section, one and many.
* `Sections.FlagRestored` is what is promised of a section that is restored from any store, and
  `Sections.flag_restored` proves it.
-/

set_option autoImplicit false

namespace AccountingPage

/-! ## Texts that are flags -/

namespace Json

open Grammar

/-- The word for a flag. -/
def flagWord : Bool → List Char
  | true => ['t', 'r', 'u', 'e']
  | false => ['f', 'a', 'l', 's', 'e']

/-- The text is the word for the flag, with any number of blanks on either side. -/
def SpellsFlag (flag : Bool) (text : String) : Prop :=
  ∃ before after, (∀ c ∈ before ++ after, c ∈ [' ', '\t', '\n', '\r']) ∧
    text.toList = before ++ flagWord flag ++ after

theorem mem_blanks_iff {c : Char} : c ∈ [' ', '\t', '\n', '\r'] ↔ isSpace c = true := by
  simp only [isSpace, List.mem_cons, List.not_mem_nil, or_false, Bool.or_eq_true, beq_iff_eq]
  tauto

theorem blanks_iff {t r : List Char} :
    Blanks t r ↔ ∃ before, (∀ c ∈ before, c ∈ [' ', '\t', '\n', '\r']) ∧ t = before ++ r := by
  constructor
  · intro h
    induction h with
    | none => exact ⟨[], nofun, rfl⟩
    | more hc _ ih =>
      obtain ⟨before, hbefore, rfl⟩ := ih
      exact ⟨_ :: before, List.forall_mem_cons.2 ⟨mem_blanks_iff.2 hc, hbefore⟩, rfl⟩
  · rintro ⟨before, hbefore, rfl⟩
    induction before with
    | nil => exact .none
    | cons c before ih =>
      obtain ⟨hc, hbefore⟩ := List.forall_mem_cons.1 hbefore
      exact .more (mem_blanks_iff.1 hc) (ih hbefore)

theorem scalar_boolean_iff {flag : Bool} {t r : List Char} :
    Scalar (.boolean flag) t r ↔ t = flagWord flag ++ r := by
  constructor
  · intro h
    cases h with
    | yes => rfl
    | no => rfl
  · rintro rfl
    cases flag with
    | true => exact .yes
    | false => exact .no

/-- What is read as a flag is its word, after blanks. -/
theorem boolean_sound {cs rest : List Char} {flag : Bool} (h : boolean cs = .ok (flag, rest)) :
    Blanks cs (flagWord flag ++ rest) := by
  obtain ⟨v, shape, t, hblanks, hshape, hsame, hflag⟩ := wanted_sound h
  cases hsame with
  | boolean =>
    cases hflag
    exact scalar_boolean_iff.1 hshape ▸ hblanks
  | null | string | number | array | object => exact absurd hflag (by simp [Value.boolean?])

theorem boolean_of_blanks {cs rest : List Char} {flag : Bool}
    (h : Blanks cs (flagWord flag ++ rest)) : boolean cs = .ok (flag, rest) := by
  cases flag with
  | true =>
    rw [boolean, wanted, opening_of_other h rfl (by decide) (by decide)]
    rfl
  | false =>
    rw [boolean, wanted, opening_of_other h rfl (by decide) (by decide)]
    rfl

/-- **The texts that are read as a flag** are those that spell it. -/
theorem document_boolean_eq_ok_iff {flag : Bool} {text : String} :
    document boolean text = .ok flag ↔ SpellsFlag flag text := by
  constructor
  · intro h
    obtain ⟨rest, hread, hrest⟩ := document_sound h
    obtain ⟨before, hbefore, htext⟩ := blanks_iff.1 (boolean_sound hread)
    obtain ⟨after, hafter, rfl⟩ := blanks_iff.1 hrest
    rw [List.append_nil] at htext
    exact ⟨before, after, List.forall_mem_append.2 ⟨hbefore, hafter⟩,
      by rw [htext, List.append_assoc]⟩
  · rintro ⟨before, after, hblanks, htext⟩
    obtain ⟨hbefore, hafter⟩ := List.forall_mem_append.1 hblanks
    rw [List.append_assoc] at htext
    have hread := boolean_of_blanks (blanks_iff.2 ⟨before, hbefore, htext⟩)
    exact document_of_blanks hread (blanks_iff.2 ⟨after, hafter, (List.append_nil after).symm⟩)

/-- What is written for a flag spells it. -/
theorem spellsFlag_flagText (flag : Bool) : SpellsFlag flag (flagText flag) := by
  refine ⟨[], [], nofun, ?_⟩
  cases flag <;> rfl

end Json

/-! ## What stands under a key -/

namespace Store

variable {s : Store} {key : String} {flag : Bool}

/-- There is a text under the key, and it is this flag. -/
def Tells (s : Store) (key : String) (flag : Bool) : Prop :=
  ∃ text, s.get? key = some text ∧ Json.SpellsFlag flag text

/-- There is a text under the key, and it is no flag. -/
def TellsNothing (s : Store) (key : String) : Prop :=
  ∃ text, s.get? key = some text ∧ ∀ flag, ¬Json.SpellsFlag flag text

/-- There is nothing under the key, a flag, or another text. -/
theorem tells_cases (s : Store) (key : String) :
    s.get? key = none ∨ (∃ flag, s.Tells key flag) ∨ s.TellsNothing key := by
  cases hget : s.get? key with
  | none => exact .inl rfl
  | some text =>
    by_cases hflag : ∃ flag, Json.SpellsFlag flag text
    · obtain ⟨flag, hflag⟩ := hflag
      exact .inr (.inl ⟨flag, text, hget, hflag⟩)
    · exact .inr (.inr ⟨text, hget, not_exists.1 hflag⟩)

/-- A text that is a flag is not warned about. -/
theorem Tells.not_tellsNothing (h : s.Tells key flag) : ¬s.TellsNothing key := by
  rintro ⟨text', hget', hnone⟩
  obtain ⟨text, hget, hflag⟩ := h
  obtain rfl : text = text' := Option.some.inj (hget.symm.trans hget')
  exact hnone flag hflag

theorem tells_of_get? (h : s.get? key = some (flagText flag)) : s.Tells key flag :=
  ⟨_, h, Json.spellsFlag_flagText flag⟩

theorem flagAt_of_get?_eq_none (h : s.get? key = none) : s.flagAt key = (none, [.load key]) := by
  rw [flagAt, h]

theorem flagAt_of_tells (h : s.Tells key flag) : s.flagAt key = (some flag, [.load key]) := by
  obtain ⟨text, hget, hflag⟩ := h
  rw [flagAt, hget]
  simp only [Json.document_boolean_eq_ok_iff.2 hflag]

theorem flagAt_of_tellsNothing (h : s.TellsNothing key) :
    ∃ e, s.flagAt key = (none, [.load key, .log (.ignoredFlag key e)]) := by
  obtain ⟨text, hget, hnone⟩ := h
  rw [flagAt, hget]
  cases hread : Json.document Json.boolean text with
  | ok flag => exact absurd (Json.document_boolean_eq_ok_iff.1 hread) (hnone flag)
  | error e => exact ⟨e, by simp only [hread]⟩

end Store

/-! ## Sections and their changes -/

/-- The flag after some changes. -/
def Nav.Change.flagAfter (isOpen : Bool) (cs : List Nav.Change) : Bool :=
  cs.foldl (fun flag c => c.flag flag) isOpen

namespace Sections

variable {s : Sections} {key : String} {i : Nat} {flag : Bool}

/-- The section is kept under the key, and it and the store have the same flag. -/
def StandsAt (s : Sections) (key : String) (i : Nat) (flag : Bool) : Prop :=
  s.live? i = some ⟨flag, some key⟩ ∧ s.store.get? key = some (flagText flag)

theorem live?_length (n : Nav) (effects : List Effect) :
    (s.done (s.held ++ [⟨n, true⟩]) effects).sections.live? s.held.length = some n := by
  simp [live?, done]

theorem live?_change {n : Nav} (h : s.live? i = some n) (c : Nav.Change) :
    (s.step (.change i c)).sections.live? i = some (n.change c).1 := by
  have hlt := lt_length_of_section? (section?_of_live? h)
  rw [step, withLive_of_live? h]
  simp [live?, done, hlt]

/-- **A change is written**, whatever was under the key. -/
theorem standsAt_change (h : s.live? i = some ⟨flag, some key⟩) (c : Nav.Change) :
    (s.step (.change i c)).sections.StandsAt key i (c.flag flag) := by
  refine ⟨(live?_change h c).trans (congrArg some (Nav.change_fst ..)), ?_⟩
  rw [store_step, effects_change h, Nav.get?_apply_change, if_pos rfl, Nav.change_fst]

/-- A section and the store have the flag of the last change. -/
theorem standsAt_run (h : s.live? i = some ⟨flag, some key⟩) (c : Nav.Change)
    (cs : List Nav.Change) :
    (s.run ((c :: cs).map (.change i))).StandsAt key i (Nav.Change.flagAfter flag (c :: cs)) := by
  induction cs generalizing s flag c with
  | nil => exact standsAt_change h c
  | cons c' cs ih =>
    -- the first change leaves the section live, with its new flag
    exact ih (standsAt_change h c).1 c'

/-! ## Restoring a section -/

/-- What becomes of a section that is made anew, under a key and with a default. -/
def restored? (s : Sections) (key : String) (byDefault : Bool) : Option Nav :=
  (s.step (.restore key byDefault)).sections.live? s.held.length

/-- What is logged as a warning on the way. -/
def warnings (s : Sections) (key : String) (byDefault : Bool) : List Notice :=
  Submission.warnings (s.step (.restore key byDefault)).effects

theorem restored?_eq (s : Sections) (key : String) (byDefault : Bool) :
    s.restored? key byDefault = some ⟨(s.store.flagAt key).1.getD byDefault, some key⟩ :=
  live?_length ..

theorem warnings_eq (s : Sections) (key : String) (byDefault : Bool) :
    s.warnings key byDefault = Submission.warnings (s.store.flagAt key).2 := rfl

/-- A stored flag counts, and the default does not. -/
theorem restored?_of_tells (h : s.store.Tells key flag) (byDefault : Bool) :
    s.restored? key byDefault = some ⟨flag, some key⟩ := by
  rw [restored?_eq, Store.flagAt_of_tells h, Option.getD_some]

/-- Without a stored flag the default counts. -/
theorem restored?_of_not_tells (h : ∀ flag, ¬s.store.Tells key flag) (byDefault : Bool) :
    s.restored? key byDefault = some ⟨byDefault, some key⟩ := by
  rw [restored?_eq]
  rcases s.store.tells_cases key with hnone | ⟨flag, hflag⟩ | hnothing
  · rw [Store.flagAt_of_get?_eq_none hnone, Option.getD_none]
  · exact absurd hflag (h flag)
  · obtain ⟨e, he⟩ := Store.flagAt_of_tellsNothing hnothing
    rw [he, Option.getD_none]

/-- A text that is no flag is warned about, and the warning says why. -/
theorem warnings_of_tellsNothing (h : s.store.TellsNothing key) (byDefault : Bool) :
    ∃ e, s.warnings key byDefault = [.ignoredFlag key e] := by
  obtain ⟨e, he⟩ := Store.flagAt_of_tellsNothing h
  refine ⟨e, ?_⟩
  rw [warnings_eq, he]
  rfl

theorem warnings_of_not_tellsNothing (h : ¬s.store.TellsNothing key) (byDefault : Bool) :
    s.warnings key byDefault = [] := by
  rw [warnings_eq]
  rcases s.store.tells_cases key with hnone | ⟨flag, hflag⟩ | hnothing
  · rw [Store.flagAt_of_get?_eq_none hnone]
    rfl
  · rw [Store.flagAt_of_tells hflag]
    rfl
  · exact absurd hnothing h

/-- A section opens with a flag, whatever its default, just if the store says that flag. -/
theorem forall_restored?_iff :
    (∀ byDefault, s.restored? key byDefault = some ⟨flag, some key⟩) ↔ s.store.Tells key flag := by
  constructor
  · intro h
    by_contra hnot
    -- a section with the opposite default would open as the store says, or as its default says
    have hopposite := h (!flag)
    by_cases htells : ∃ flag', s.store.Tells key flag'
    · obtain ⟨flag', hflag'⟩ := htells
      rw [restored?_of_tells hflag'] at hopposite
      obtain rfl : flag' = flag := by simpa using hopposite
      exact hnot hflag'
    · rw [restored?_of_not_tells (not_exists.1 htells)] at hopposite
      simp at hopposite
  · exact restored?_of_tells

/-- What is promised of a section that is made anew, under any key and with any default, among
other sections and over any store. -/
structure FlagRestored (s : Sections) (key : String) (byDefault : Bool) : Prop where
  /-- It is open as the stored text says, if that is a flag. -/
  told : ∀ {flag}, s.store.Tells key flag → s.restored? key byDefault = some ⟨flag, some key⟩
  /-- Any other text is as good as none. -/
  untold : (∀ flag, ¬s.store.Tells key flag) →
    s.restored? key byDefault = some ⟨byDefault, some key⟩
  told_iff : ∀ {flag}, (∀ byDefault', s.restored? key byDefault' = some ⟨flag, some key⟩) ↔
    s.store.Tells key flag
  /-- It is warned about once. -/
  warned : s.store.TellsNothing key → ∃ e, s.warnings key byDefault = [.ignoredFlag key e]
  unwarned : ¬s.store.TellsNothing key → s.warnings key byDefault = []
  /-- The text stays where it is. -/
  still : (s.step (.restore key byDefault)).sections.store = s.store
  /-- Some changes later there is a flag in its place, that of the section, and a new section of the
  key starts with it, whatever its default. -/
  healed : ∀ c cs, ∃ flag, s.restored? key byDefault = some ⟨flag, some key⟩ ∧
    let t := (s.step (.restore key byDefault)).sections.run ((c :: cs).map (.change s.held.length))
    let last := Nav.Change.flagAfter flag (c :: cs)
    t.live? s.held.length = some ⟨last, some key⟩ ∧
      t.store.get? key = some (Json.Value.boolean last).render ∧
        ∀ byDefault', t.restored? key byDefault' = some ⟨last, some key⟩ ∧
          t.warnings key byDefault' = []

/-- **Any text may stand under the key of a section.**  If it is a flag, the section opens as it
says; if not, the section opens by default, with a warning.  The first change of the section, and
every later one, leaves a flag there. -/
theorem flag_restored (s : Sections) (key : String) (byDefault : Bool) :
    s.FlagRestored key byDefault where
  told h := restored?_of_tells h byDefault
  untold h := restored?_of_not_tells h byDefault
  told_iff := forall_restored?_iff
  warned h := warnings_of_tellsNothing h byDefault
  unwarned h := warnings_of_not_tellsNothing h byDefault
  still := (store_step ..).trans (Store.apply_flagAt ..)
  healed c cs := by
    have hrestored := restored?_eq s key byDefault
    obtain ⟨hlive, hget⟩ := standsAt_run hrestored c cs
    have htells := Store.tells_of_get? hget
    refine ⟨_, hrestored, hlive, flagText_eq_render _ ▸ hget, fun byDefault' => ?_⟩
    exact ⟨restored?_of_tells htells byDefault',
      warnings_of_not_tellsNothing htells.not_tellsNothing byDefault'⟩

example :
    let s : Sections := ⟨.ofList [("laporan", "\n false\t"), ("settings", "false!")], []⟩
    s.restored? "laporan" true = some ⟨false, some "laporan"⟩ ∧ s.warnings "laporan" true = [] ∧
      s.restored? "settings" true = some ⟨true, some "settings"⟩ ∧
        (s.warnings "settings" true).length = 1 := by decide +kernel

end Sections

end AccountingPage
