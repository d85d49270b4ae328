import AccountingPage.Component.Method
import AccountingPage.Json.Printer
import AccountingPage.Proofs.Registry

/-!
# Sections that share a store

The flag of a section that is kept is in two places, in the section and in the store, and the two
part ways as soon as the section has a copy, or another section has its key.  The store sides with
the section that was changed last.

* `Sections` are any number of sections, made in any way, with the store that they share.
  `Sections.step` makes, copies, drops or changes one of them.
* `Sections.lastChanged?` is the section of a key that was changed last in a run.
* `Sections.Agrees` says that the store has the flag of a section.  `agrees_step` and `agrees_run`
  keep it until another section of the key is changed.
* `Config.KeepsApart` says that the application's own sections have nothing of each other's in it.
* `Sections.flags_kept` puts together what the store and the sections are after any run.
-/

set_option autoImplicit false

namespace AccountingPage

/-! ## Changes of one section -/

namespace Nav

/-- What the methods of a section do. -/
inductive Change where
  | toggle
  | openSection
  | closeSection
deriving DecidableEq, Repr

def change (n : Nav) : Change → Nav × List Effect
  | .toggle => n.flip
  | .openSection => n.setOpen true
  | .closeSection => n.setOpen false

/-- The flag after a change. -/
def Change.flag (isOpen : Bool) : Change → Bool
  | .toggle => !isOpen
  | .openSection => true
  | .closeSection => false

theorem change_fst (n : Nav) (c : Change) :
    (n.change c).1 = ⟨c.flag n.isOpen, n.storageKey?⟩ := by
  cases c <;> rfl

/-- A section keeps its key. -/
theorem storageKey?_change (n : Nav) (c : Change) :
    (n.change c).1.storageKey? = n.storageKey? := by
  rw [change_fst]

/-- The new flag is written, if the section is kept. -/
theorem effects_change (n : Nav) (c : Change) :
    (n.change c).2 = n.storageKey?.toList.map fun key =>
      Effect.saveFlag key (n.change c).1.isOpen := by
  cases c <;> rfl

/-- A change writes the flag under the key of its section, and nothing anywhere else. -/
theorem get?_apply_change (n : Nav) (c : Change) (store : Store) (key : String) :
    (store.apply (n.change c).2).get? key =
      if n.storageKey? = some key then some (flagText (n.change c).1.isOpen)
      else store.get? key := by
  rw [effects_change]
  cases n.storageKey? with
  | none => rfl
  | some key' =>
    have hsave : store.apply [Effect.saveFlag key' (n.change c).1.isOpen] =
        store.insert key' (flagText (n.change c).1.isOpen) := rfl
    rw [Option.toList_some, List.map_cons, List.map_nil, hsave, TextMap.get?_insert]
    simp only [Option.some.injEq]

end Nav

/-- A stored flag is read as it was written, and then the default does not matter. -/
theorem Nav.restore_of_get? {store : Store} {key : String} {flag : Bool}
    (h : store.get? key = some (flagText flag)) (byDefault : Bool) :
    (Nav.restore store key byDefault).1 = ⟨flag, some key⟩ := by
  have hread : Json.document Json.boolean (flagText flag) = .ok flag := by
    cases flag <;> rfl
  rw [Nav.restore, Store.flagAt, h]
  simp only [hread]
  rfl

/-- A call of a section is refused without effects, or is a change of it, with the same effects. -/
theorem Component.effects_invoke_nav (page : Page) (config : Config) (name : String)
    (inputs : Inputs) (n : Nav) :
    ((nav n).invoke page config name inputs).effects = [] ∨
      ∃ c, ((nav n).invoke page config name inputs).effects = (n.change c).2 := by
  rw [invoke.eq_def]
  dsimp only
  split
  · exact .inr ⟨.toggle, rfl⟩
  · exact .inr ⟨.openSection, rfl⟩
  · exact .inr ⟨.closeSection, rfl⟩
  · exact .inl rfl

/-- A flag is stored as JSON. -/
theorem flagText_eq_render (flag : Bool) : flagText flag = (Json.Value.boolean flag).render := by
  cases flag <;> rfl

/-! ## Sections and their store -/

/-- A section.  One that has been dropped is remembered as it was then. -/
structure HeldSection where
  nav : Nav
  live : Bool
deriving DecidableEq, Repr

/-- Sections, numbered in the order in which they were made, and the store that they share. -/
structure Sections where
  store : Store
  held : List HeldSection

namespace Sections

inductive Op where
  /-- Makes a section that is kept under a key. -/
  | restore (key : String) (byDefault : Bool)
  /-- Makes a section that is not kept. -/
  | forgetful (isOpen : Bool)
  | copy (i : Nat)
  | drop (i : Nat)
  | change (i : Nat) (c : Nav.Change)
deriving DecidableEq, Repr

structure Step where
  sections : Sections
  effects : List Effect

/-- The section of a number, as it is or as it was when it was dropped. -/
def section? (s : Sections) (i : Nat) : Option Nav := s.held[i]?.map HeldSection.nav

/-- The section of a number, if it has not been dropped. -/
def live? (s : Sections) (i : Nat) : Option Nav :=
  (s.held[i]?.filter HeldSection.live).map HeldSection.nav

/-- What is held from now on, and what the effects have written. -/
def done (s : Sections) (held : List HeldSection) (effects : List Effect) : Step :=
  ⟨⟨s.store.apply effects, held⟩, effects⟩

/-- Does something with a section.  Nothing can be done with one that was dropped. -/
def withLive (s : Sections) (i : Nat) (act : Nav → Step) : Step :=
  match s.live? i with
  | some n => act n
  | none => s.done s.held []

def step (s : Sections) : Op → Step
  | .restore key byDefault =>
    let (n, effects) := Nav.restore s.store key byDefault
    s.done (s.held ++ [⟨n, true⟩]) effects
  | .forgetful isOpen => s.done (s.held ++ [⟨.forgetful isOpen, true⟩]) []
  | .copy i => s.withLive i fun n => s.done (s.held ++ [⟨n, true⟩]) []
  | .drop i => s.withLive i fun n => s.done (s.held.set i ⟨n, false⟩) []
  | .change i c => s.withLive i fun n =>
    let (n, effects) := n.change c
    s.done (s.held.set i ⟨n, true⟩) effects

def run (s : Sections) (ops : List Op) : Sections :=
  ops.foldl (fun s op => (s.step op).sections) s

/-- The section that an operation changes, if it is kept under that key. -/
def changed? (s : Sections) (key : String) : Op → Option Nat
  | .change i _ => if (s.live? i).bind Nav.storageKey? = some key then some i else none
  | _ => none

/-- The section of a key that is changed last. -/
def lastChanged? (key : String) (s : Sections) : List Op → Option Nat
  | [] => none
  | op :: ops => (lastChanged? key (s.step op).sections ops).or (s.changed? key op)

variable {s : Sections} {i : Nat} {n : Nav} {key : String}

/-! ## One operation -/

theorem section?_of_live? (h : s.live? i = some n) : s.section? i = some n := by
  obtain ⟨held, hheld, rfl⟩ := Option.map_eq_some_iff.1 h
  rw [section?, (Option.filter_eq_some_iff.1 hheld).1, Option.map_some]

theorem lt_length_of_section? (h : s.section? i = some n) : i < s.held.length := by
  obtain ⟨held, hheld, -⟩ := Option.map_eq_some_iff.1 h
  exact (List.getElem?_eq_some_iff.1 hheld).1

theorem withLive_of_live? (h : s.live? i = some n) (act : Nav → Step) :
    s.withLive i act = act n := by
  rw [withLive, h]

theorem withLive_of_live?_eq_none (h : s.live? i = none) (act : Nav → Step) :
    s.withLive i act = ⟨s, []⟩ := by
  rw [withLive, h]
  rfl

/-- With a section that was not dropped something happens, and else nothing does. -/
theorem withLive_cases {motive : Step → Prop} {act : Nav → Step}
    (live : ∀ n, s.live? i = some n → motive (act n)) (gone : motive ⟨s, []⟩) :
    motive (s.withLive i act) := by
  cases hi : s.live? i with
  | some n => exact (withLive_of_live? hi act).symm ▸ live n hi
  | none => exact (withLive_of_live?_eq_none hi act).symm ▸ gone

theorem section?_append (h : s.section? i = some n) (last : HeldSection) (effects : List Effect) :
    (s.done (s.held ++ [last]) effects).sections.section? i = some n := by
  rw [← h]
  exact congrArg _ (List.getElem?_append_left (lt_length_of_section? h))

theorem section?_length (last : HeldSection) (effects : List Effect) :
    (s.done (s.held ++ [last]) effects).sections.section? s.held.length = some last.nav :=
  congrArg (Option.map HeldSection.nav) List.getElem?_concat_length

/-- A change of one section leaves the others as they are. -/
theorem section?_set (h : s.section? i = some n) (j : Nat) (new : HeldSection)
    (effects : List Effect) :
    (s.done (s.held.set j new) effects).sections.section? i =
      some (if j = i then new.nav else n) := by
  have hi := lt_length_of_section? h
  rw [section?, done, List.getElem?_set]
  split
  · rw [if_pos (by omega)]
    rfl
  · exact h

/-- Only its own changes change a section: not what becomes of its copies, or of the others of its
key. -/
theorem section?_step (h : s.section? i = some n) {op : Op} (hop : ∀ c, op ≠ .change i c) :
    (s.step op).sections.section? i = some n := by
  cases op with
  | restore key byDefault => exact section?_append h ..
  | forgetful isOpen => exact section?_append h ..
  | copy j =>
    refine withLive_cases (motive := fun t => t.sections.section? i = some n) ?_ h
    exact fun _ _ => section?_append h ..
  | drop j =>
    refine withLive_cases (motive := fun t => t.sections.section? i = some n) (fun m hm => ?_) h
    rw [section?_set h]
    split
    · rename_i heq
      subst heq
      exact (section?_of_live? hm).symm.trans h
    · rfl
  | change j c =>
    have hne : j ≠ i := fun heq => hop c (heq ▸ rfl)
    refine withLive_cases (motive := fun t => t.sections.section? i = some n) ?_ h
    exact fun _ _ => (section?_set h ..).trans (congrArg some (if_neg hne))

theorem section?_change (h : s.live? i = some n) (c : Nav.Change) :
    (s.step (.change i c)).sections.section? i = some (n.change c).1 := by
  rw [step, withLive_of_live? h, section?_set (section?_of_live? h), if_pos rfl]

theorem effects_change (h : s.live? i = some n) (c : Nav.Change) :
    (s.step (.change i c)).effects = (n.change c).2 := by
  rw [step, withLive_of_live? h]
  rfl

theorem store_step (s : Sections) (op : Op) :
    (s.step op).sections.store = s.store.apply (s.step op).effects := by
  have hact {i : Nat} {act : Nav → Step}
      (h : ∀ n, (act n).sections.store = s.store.apply (act n).effects) :
      (s.withLive i act).sections.store = s.store.apply (s.withLive i act).effects :=
    withLive_cases (motive := fun t => t.sections.store = s.store.apply t.effects)
      (fun n _ => h n) rfl
  cases op with
  | restore key byDefault => rfl
  | forgetful isOpen => rfl
  | copy j => exact hact fun _ => rfl
  | drop j => exact hact fun _ => rfl
  | change j c => exact hact fun _ => rfl

/-- Copying a section and dropping one ask nothing of the store. -/
theorem effects_copy (s : Sections) (i : Nat) : (s.step (.copy i)).effects = [] :=
  withLive_cases (motive := fun t => t.effects = []) (fun _ _ => rfl) rfl

theorem effects_drop (s : Sections) (i : Nat) : (s.step (.drop i)).effects = [] :=
  withLive_cases (motive := fun t => t.effects = []) (fun _ _ => rfl) rfl

/-- Nothing but a change of a section is written to the store. -/
theorem saved?_of_mem_effects {op : Op} (hop : ∀ i c, op ≠ .change i c) {e : Effect}
    (he : e ∈ (s.step op).effects) : e.saved? = none := by
  cases op with
  | restore key byDefault => exact Store.saved?_of_mem_flagAt he
  | forgetful isOpen => exact absurd he List.not_mem_nil
  | copy i => exact absurd (effects_copy s i ▸ he) List.not_mem_nil
  | drop i => exact absurd (effects_drop s i ▸ he) List.not_mem_nil
  | change i c => exact absurd rfl (hop i c)

/-! ## The section that was changed last -/

/-- The store has the flag of the section, as it is or as it was when it was dropped. -/
def Agrees (s : Sections) (key : String) (i : Nat) : Prop :=
  ∃ n, s.section? i = some n ∧ n.storageKey? = some key ∧
    s.store.get? key = some (flagText n.isOpen)

theorem changed?_change (s : Sections) (key : String) (i : Nat) (c : Nav.Change) :
    s.changed? key (.change i c) =
      if (s.live? i).bind Nav.storageKey? = some key then some i else none := rfl

theorem agrees_of_changed? {op : Op} (h : s.changed? key op = some i) :
    (s.step op).sections.Agrees key i := by
  cases op with
  | change j c =>
    rw [changed?_change] at h
    obtain ⟨hkey, rfl⟩ : (s.live? j).bind Nav.storageKey? = some key ∧ j = i := by
      simpa using h
    obtain ⟨n, hn, hkey⟩ := Option.bind_eq_some_iff.1 hkey
    refine ⟨(n.change c).1, section?_change hn c, ?_, ?_⟩
    · rw [Nav.storageKey?_change, hkey]
    · rw [store_step, effects_change hn, Nav.get?_apply_change, if_pos hkey]
  | _ => exact absurd h (by simp [changed?])

theorem get?_step {op : Op} (h : s.changed? key op = none) :
    (s.step op).sections.store.get? key = s.store.get? key := by
  cases op with
  | change j c =>
    have hkey : ¬(s.live? j).bind Nav.storageKey? = some key := by
      simpa [changed?_change] using h
    cases hj : s.live? j with
    | none => rw [step, withLive_of_live?_eq_none hj]
    | some n =>
      rw [hj, Option.bind_some] at hkey
      rw [store_step, effects_change hj, Nav.get?_apply_change, if_neg hkey]
  | _ =>
    rw [store_step, Store.apply_of_forall_saved?_eq_none]
    exact fun e he => saved?_of_mem_effects (by simp) he

/-- As long as no section of the key is changed, the store goes on agreeing with the last one. -/
theorem agrees_step {op : Op} (h : s.Agrees key i) (hop : s.changed? key op = none) :
    (s.step op).sections.Agrees key i := by
  obtain ⟨n, hn, hkey, hget⟩ := h
  by_cases hchange : ∃ c, op = .change i c
  · obtain ⟨c, rfl⟩ := hchange
    cases hi : s.live? i with
    | none =>
      rw [step, withLive_of_live?_eq_none hi]
      exact ⟨n, hn, hkey, hget⟩
    | some m =>
      -- the section is of the key, so its change would have counted
      have hm : m = n := Option.some.inj ((section?_of_live? hi).symm.trans hn)
      rw [changed?_change, hi, hm, Option.bind_some, if_pos hkey] at hop
      exact absurd hop (Option.some_ne_none i)
  · refine ⟨n, section?_step hn fun c hc => hchange ⟨c, hc⟩, hkey, ?_⟩
    rw [get?_step hop, hget]

/-! ## Runs -/

theorem run_cons (s : Sections) (op : Op) (ops : List Op) :
    s.run (op :: ops) = (s.step op).sections.run ops := rfl

/-- A section that is not changed itself is as it was after any run. -/
theorem section?_run (h : s.section? i = some n) {ops : List Op}
    (hops : ∀ c, .change i c ∉ ops) : (s.run ops).section? i = some n := by
  induction ops generalizing s with
  | nil => exact h
  | cons op ops ih =>
    refine ih (section?_step h fun c hc => ?_) fun c hc => hops c (List.mem_cons_of_mem _ hc)
    exact hops c (hc ▸ List.mem_cons_self)

/-- A section that was changed last agrees with the store as long as no other section of the key is
changed. -/
theorem agrees_run {ops : List Op} (h : s.Agrees key i) (hops : lastChanged? key s ops = none) :
    (s.run ops).Agrees key i := by
  induction ops generalizing s with
  | nil => exact h
  | cons op ops ih =>
    obtain ⟨hops, hop⟩ := Option.or_eq_none_iff.1 hops
    exact ih (agrees_step h hop) hops

/-- **The store sides with the section that was changed last.** -/
theorem agrees_of_lastChanged? {ops : List Op} (h : lastChanged? key s ops = some i) :
    (s.run ops).Agrees key i := by
  induction ops generalizing s with
  | nil => exact absurd h (Option.some_ne_none i).symm
  | cons op ops ih =>
    rw [lastChanged?] at h
    cases hops : lastChanged? key (s.step op).sections ops with
    | some j => exact ih (hops.trans (by simpa [hops] using h))
    | none =>
      rw [hops, Option.none_or] at h
      rw [run_cons]
      exact agrees_run (agrees_of_changed? h) hops

/-- Under a key that no section changes stands what stood there. -/
theorem get?_run {ops : List Op} (h : lastChanged? key s ops = none) :
    (s.run ops).store.get? key = s.store.get? key := by
  induction ops generalizing s with
  | nil => rfl
  | cons op ops ih =>
    obtain ⟨hops, hop⟩ := Option.or_eq_none_iff.1 h
    rw [run_cons, ih hops, get?_step hop]

end Sections

/-! ## The application's sections -/

namespace Registry

variable {config : Config} {name name' key : String} {element : Element} {store : Store} {n : Nav}

/-- What one component keeps is nothing to another. -/
theorem make?_apply_change (hne : name' ≠ name)
    (hkey : standard.storageKey? name ⟨element, store, config⟩ = some key)
    (hn : n.storageKey? = some key) (c : Nav.Change) (element' : Element) (store' : Store) :
    standard.make? name' ⟨element', store'.apply (n.change c).2, config⟩ =
      standard.make? name' ⟨element', store', config⟩ := by
  refine make?_standard_congr fun key' hkey' => ?_
  rw [Nav.get?_apply_change, if_neg]
  intro heq
  obtain rfl : key = key' := Option.some.inj (hn.symm.trans heq)
  exact hne (eq_of_storageKey?_standard hkey hkey' rfl).symm

end Registry

/-- The standard components that keep a flag do not get in each other's way. -/
structure Config.KeepsApart (config : Config) : Prop where
  /-- There are at least the six sections, each under its own key with the prefix. -/
  key : ∀ spec ∈ KeptSection.all, ∀ element store,
    Registry.standard.storageKey? spec.component ⟨element, store, config⟩ =
      some (config.storageKey spec.key)
  distinct : ∀ {name name' key element element' store store'},
    Registry.standard.storageKey? name ⟨element, store, config⟩ = some key →
    Registry.standard.storageKey? name' ⟨element', store', config⟩ = some key → name = name'
  /-- A call of a section of one component changes nothing in what another starts as. -/
  others : ∀ {name name' key element store n}, name' ≠ name →
    Registry.standard.storageKey? name ⟨element, store, config⟩ = some key →
    n.storageKey? = some key →
    ∀ page method inputs element' store',
      let called := (Component.nav n).invoke page config method inputs
      Registry.standard.make? name' ⟨element', store'.apply called.effects, config⟩ =
        Registry.standard.make? name' ⟨element', store', config⟩

/-- **The standard sections keep apart**, whatever the prefix of their keys. -/
theorem Config.keepsApart (config : Config) : config.KeepsApart where
  key spec hspec _ _ := Registry.storageKey?_standard_iff.2 ⟨spec, hspec, rfl, rfl⟩
  distinct h h' := Registry.eq_of_storageKey?_standard h h' rfl
  others := by
    intro _ _ _ _ _ n hne hkey hn page method inputs element' store'
    dsimp only
    rcases Component.effects_invoke_nav page config method inputs n with heffects | ⟨c, heffects⟩
    · rw [heffects]
      rfl
    · rw [heffects]
      exact Registry.make?_apply_change hne hkey hn c element' store'

/-! ## The store after any run -/

namespace Sections

/-- An operation on a section that is not kept. -/
def OnUnkept (s : Sections) : Op → Prop
  | .restore _ _ => False
  | .forgetful _ => True
  | .copy i | .drop i | .change i _ => ∃ n, s.section? i = some n ∧ n.storageKey? = none

/-- What is kept of any number of sections with one store, after some operations. -/
structure FlagsKept (s : Sections) (ops : List Op) : Prop where
  /-- Under a key is the flag of the section that was changed last, as JSON. -/
  stored : ∀ {key i}, lastChanged? key s ops = some i →
    ∃ n, (s.run ops).section? i = some n ∧ n.storageKey? = some key ∧
      (s.run ops).store.get? key = some (Json.Value.boolean n.isOpen).render
  untouched : ∀ {key}, lastChanged? key s ops = none →
    (s.run ops).store.get? key = s.store.get? key
  /-- A new section of the key starts with that flag, whatever its default. -/
  restored : ∀ {key i}, lastChanged? key s ops = some i →
    ∃ n, (s.run ops).section? i = some n ∧
      ∀ byDefault, ((s.run ops).step (.restore key byDefault)).sections.section?
        (s.run ops).held.length = some ⟨n.isOpen, some key⟩
  /-- Making, copying and dropping a section do not write. -/
  quiet : ∀ {op}, (∀ i c, op ≠ .change i c) →
    ((s.run ops).step op).sections.store = (s.run ops).store ∧
      ∀ e ∈ ((s.run ops).step op).effects, e.saved? = none
  copied : ∀ {i n}, (s.run ops).live? i = some n →
    ((s.run ops).step (.copy i)).sections.section? (s.run ops).held.length = some n
  /-- A change does to its section what it says. -/
  changed : ∀ {i n} (c : Nav.Change), (s.run ops).live? i = some n →
    ((s.run ops).step (.change i c)).sections.section? i = some ⟨c.flag n.isOpen, n.storageKey?⟩
  /-- A section that is not changed itself is as before, whatever its copies and the others of its
  key went through. -/
  own : ∀ {i n}, s.section? i = some n → (∀ c, .change i c ∉ ops) →
    (s.run ops).section? i = some n
  /-- A section without a key neither writes nor reads. -/
  unkept : ∀ {op}, (s.run ops).OnUnkept op → ((s.run ops).step op).effects = []
  apart : ∀ config : Config, config.KeepsApart

theorem effects_of_onUnkept {s : Sections} {op : Op} (h : s.OnUnkept op) :
    (s.step op).effects = [] := by
  cases op with
  | restore key byDefault => exact h.elim
  | forgetful isOpen => rfl
  | copy i => exact effects_copy s i
  | drop i => exact effects_drop s i
  | change i c =>
    obtain ⟨n, hn, hkey⟩ := h
    cases hi : s.live? i with
    | none => rw [step, withLive_of_live?_eq_none hi]
    | some m =>
      obtain rfl : m = n := Option.some.inj ((section?_of_live? hi).symm.trans hn)
      rw [effects_change hi, Nav.effects_change, hkey, Option.toList_none, List.map_nil]

/-- **The store keeps, for each key, the flag that was set last.** -/
theorem flags_kept (s : Sections) (ops : List Op) : s.FlagsKept ops where
  stored hlast := by
    obtain ⟨n, hn, hkey, hget⟩ := agrees_of_lastChanged? hlast
    exact ⟨n, hn, hkey, flagText_eq_render _ ▸ hget⟩
  untouched hlast := get?_run hlast
  restored hlast := by
    obtain ⟨n, hn, -, hget⟩ := agrees_of_lastChanged? hlast
    refine ⟨n, hn, fun byDefault => ?_⟩
    rw [step, section?_length, Nav.restore_of_get? hget]
  quiet := by
    intro op hop
    have hsaved : ∀ e ∈ ((s.run ops).step op).effects, e.saved? = none :=
      fun _ he => saved?_of_mem_effects hop he
    exact ⟨(store_step ..).trans (Store.apply_of_forall_saved?_eq_none hsaved), hsaved⟩
  copied hi := by rw [step, withLive_of_live? hi, section?_length]
  changed c hi := by rw [section?_change hi, Nav.change_fst]
  own hi hops := section?_run hi hops
  unkept hop := effects_of_onUnkept hop
  apart config := config.keepsApart

end Sections

end AccountingPage
