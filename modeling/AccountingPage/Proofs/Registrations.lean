import Mathlib.Data.Finset.Card
import AccountingPage.Proofs.Separation

/-!
# Registrations in any order

Names are registered one after the other, some of them twice, by an application that starts from an
empty registry or from that of the application's markup.  The first registration of a name counts,
and the registry makes a new record each time it is asked for one.

* `Registry.FirstWins` is what is promised of the registrations that follow some others.
  `Registry.firstWins` proves it of any.
* `Registry.Serves` are the sessions that a registry has served from their start.
* `Session.mount_of_make?` says what making a record by name does to a session, and
  `Session.holdsAlone_mount` that a new form has nothing in common with the others.
* `Registry.MakesAfresh` is what is promised of the records, and `Registry.makesAfresh` proves it of
  the application's recipes under any names.
* `Registry.first_registration_counts` puts the two together for both ways to start.
-/

set_option autoImplicit false

namespace AccountingPage

namespace Registry

/-! ## What is in the table -/

variable {r : Registry} {known entries : List (String × Recipe)} {name : String} {recipe : Recipe}

theorem registerAll_append (r : Registry) (entries entries' : List (String × Recipe)) :
    r.registerAll (entries ++ entries') = (r.registerAll entries).registerAll entries' :=
  List.foldl_append

/-- A registry knows the names that it has been given, no matter in which order. -/
theorem contains_registerAll_empty (entries : List (String × Recipe)) (name : String) :
    (empty.registerAll entries).contains name = true ↔ name ∈ entries.map Prod.fst := by
  rw [contains, TextMap.contains, get?_registerAll_empty, Option.isSome_iff_ne_none, Ne,
    TextMap.lookupEntry_eq_none_iff, not_not]

theorem mem_names_iff (r : Registry) (name : String) : name ∈ r.names ↔ r.contains name = true :=
  TextMap.contains_iff_mem_keys.symm

/-- Names that are given twice count once. -/
theorem size_eq_card_names (r : Registry) : r.size = r.names.toFinset.card := by
  have hnodup : r.names.Nodup := r.recipes.nodup_keys
  rw [List.toFinset_card_of_nodup hnodup]
  exact (List.length_map ..).symm

/-- A registration counts just if the name is not taken. -/
theorem accepted_register (r : Registry) (name : String) (recipe : Recipe) :
    (r.register name recipe).accepted = !r.contains name := by
  rw [register]
  split
  · rename_i h
    rw [h, Bool.not_true]
  · rename_i h
    rw [Bool.eq_false_iff.2 h, Bool.not_false]

/-- A name that is known already is refused, with a warning. -/
theorem register_of_contains (h : r.contains name = true) (recipe : Recipe) :
    r.register name recipe = ⟨false, r, [.log (.alreadyRegistered name)]⟩ :=
  if_pos h

/-- A name that is not known yet is taken. -/
theorem register_of_not_contains (h : r.contains name = false) (recipe : Recipe) :
    r.register name recipe = ⟨true, ⟨r.recipes.insert name recipe⟩, []⟩ :=
  if_neg (Bool.eq_false_iff.1 h)

/-! ## First registrations -/

/-- What is promised of a registry to which the known names have been added already, and of any
registrations after that. -/
structure FirstWins (r : Registry) (known : List (String × Recipe)) : Prop where
  /-- A registration counts if its name is new, and only then. -/
  accepted_iff : ∀ entries name recipe,
    ((r.registerAll entries).register name recipe).accepted = true ↔
      name ∉ (known ++ entries).map Prod.fst
  /-- One that does not count is warned about once, and changes nothing. -/
  refused : ∀ {entries name recipe},
    ((r.registerAll entries).register name recipe).accepted = false →
      ((r.registerAll entries).register name recipe).registry = r.registerAll entries ∧
        ((r.registerAll entries).register name recipe).effects = [.log (.alreadyRegistered name)] ∧
          (Notice.alreadyRegistered name).level = .warn
  silent : ∀ {entries name recipe},
    ((r.registerAll entries).register name recipe).accepted = true →
      ((r.registerAll entries).register name recipe).effects = []
  /-- The names that were registered are listed in ascending order, each of them once. -/
  names : ∀ entries, (r.registerAll entries).names.Pairwise (· < ·) ∧
    ∀ name, name ∈ (r.registerAll entries).names ↔ name ∈ (known ++ entries).map Prod.fst
  contains : ∀ entries name,
    (r.registerAll entries).contains name = true ↔ name ∈ (known ++ entries).map Prod.fst
  /-- As many are counted as there are different ones. -/
  size : ∀ entries,
    (r.registerAll entries).size = ((known ++ entries).map Prod.fst).toFinset.card
  /-- A record is made by the recipe that was the first to be registered under the name. -/
  made : ∀ {entries before name recipe after}, known ++ entries = before ++ (name, recipe) :: after →
    name ∉ before.map Prod.fst →
      ∀ given, (r.registerAll entries).make? name given = some (recipe given)
  unknown : ∀ {entries name}, name ∉ (known ++ entries).map Prod.fst →
    ∀ given, (r.registerAll entries).make? name given = none

/-- **The first registration of a name counts**, whatever was registered before. -/
theorem firstWins (known : List (String × Recipe)) : (empty.registerAll known).FirstWins known := by
  have hcontains (entries : List (String × Recipe)) (name : String) :
      ((empty.registerAll known).registerAll entries).contains name = true ↔
        name ∈ (known ++ entries).map Prod.fst := by
    rw [← registerAll_append]
    exact contains_registerAll_empty ..
  have hmake (entries : List (String × Recipe)) (name : String) (given : Ingredients) :
      ((empty.registerAll known).registerAll entries).make? name given =
        (TextMap.lookupEntry name (known ++ entries)).map (· given) := by
    rw [← registerAll_append, make?, get?_registerAll_empty]
  refine ⟨?accepted_iff, ?refused, ?silent, ?names, hcontains, ?size, ?made, ?unknown⟩
  case accepted_iff =>
    intro entries name recipe
    rw [accepted_register, Bool.not_eq_true', ← Bool.not_eq_true, hcontains]
  case refused =>
    intro entries name recipe hrefused
    rw [accepted_register, Bool.not_eq_false'] at hrefused
    rw [register_of_contains hrefused]
    exact ⟨rfl, rfl, rfl⟩
  case silent =>
    intro entries name recipe haccepted
    rw [accepted_register, Bool.not_eq_true'] at haccepted
    rw [register_of_not_contains haccepted]
  case names =>
    intro entries
    exact ⟨TextMap.ascending_keys _, fun name => (mem_names_iff ..).trans (hcontains ..)⟩
  case size =>
    intro entries
    rw [size_eq_card_names]
    refine congrArg Finset.card (Finset.ext fun name => ?_)
    rw [List.mem_toFinset, List.mem_toFinset, mem_names_iff, hcontains]
  case made =>
    intro entries before name recipe after hentries hfirst given
    rw [hmake, hentries, TextMap.lookupEntry_first hfirst, Option.map_some]
  case unknown =>
    intro entries name hname given
    rw [hmake, TextMap.lookupEntry_eq_none_iff.2 hname, Option.map_none]

theorem ofFactories_registerAll (hentries : ∀ e ∈ entries, e.2 ∈ factories) :
    (empty.registerAll entries).OfFactories ∧ (standard.registerAll entries).OfFactories := by
  refine ⟨⟨entries, hentries, rfl⟩, ⟨standardRecipes ++ entries, fun e he => ?_, ?_⟩⟩
  · rcases List.mem_append.1 he with he | he
    · exact List.mem_map_of_mem he
    · exact hentries e he
  · rw [registerAll_append, standard]

end Registry

/-! ## New records of a session -/

namespace Session

variable {s : Session} {component slot : String} {element : Element} {made : Made} {f : FormId}

/-- A component is made from the element, the store and the configuration as they are now. -/
theorem mount_of_make? (h : s.registry.make? component ⟨element, s.store, s.config⟩ = some made)
    (slot : String) :
    s.step (.mount component slot element) =
      { s with records := s.records.mount slot made.component }.done
        (.component made.component) made.effects := by
  rw [step, mount, h]

theorem mount_of_make?_eq_none
    (h : s.registry.make? component ⟨element, s.store, s.config⟩ = none) (slot : String) :
    s.step (.mount component slot element) = ⟨s, .none, []⟩ := by
  rw [step, mount, h]
  rfl

/-- A new form stands in its slot and nowhere else, and no submit under way is one of it. -/
theorem holdsAlone_mount (hs : s.Sound)
    (hmade : s.registry.make? component ⟨element, s.store, s.config⟩ = some made)
    (hf : (s.records.forms.adopt made.component).1.quickForm? = some f) :
    (s.step (.mount component slot element)).session.HoldsAlone (.slot slot) f := by
  have hnew : s.records.forms.nextId ≤ f := Forms.le_of_quickForm?_adopt hf
  have hstands : (s.step (.mount component slot element)).session.formAt? (.slot slot) = some f := by
    rw [mount_of_make? hmade, formAt?, done, Records.find?_mount_self]
    exact hf
  refine ⟨lt_nextId_of_formAt? (wellFormed_step hs.records _) hstands, ?_, ?_⟩
  · intro b hb
    by_contra hne
    have hkeeps : (Op.mount component slot element).Keeps b := hne
    rw [formAt?, find?_step_of_not_targets hkeeps id] at hb
    exact absurd (lt_nextId_of_formAt? hs.records hb) (Nat.not_lt.2 hnew)
  · intro name flight hflight
    rw [flights_step rfl] at hflight
    exact Nat.ne_of_lt (Nat.lt_of_lt_of_le (hs.flights name flight hflight) hnew)

/-- **A new record is shown as it was made**, for as long as it is left alone. -/
theorem shownAt_run_mount (hs : s.Sound)
    (hmade : s.registry.make? component ⟨element, s.store, s.config⟩ = some made) {ops : List Op}
    (hops : ∀ op ∈ ops, op.Keeps (.slot slot) ∧ ¬op.Uses (.slot slot)) :
    ((s.step (.mount component slot element)).session.run ops).1.shownAt (.slot slot) =
      some made.component := by
  have hfound : (s.step (.mount component slot element)).session.records.find? (.slot slot) =
      some (s.records.forms.adopt made.component).1 := by
    rw [mount_of_make? hmade]
    exact Records.find?_mount_self ..
  have hshown : (s.step (.mount component slot element)).session.shownAt (.slot slot) =
      some made.component := by
    rw [shownAt_of_find? hfound, mount_of_make? hmade]
    exact congrArg some (Forms.resolve_adopt ..)
  rw [shownAt_run_of_not_uses hfound (fun f hf => holdsAlone_mount hs hmade hf) hops, hshown]

end Session

namespace Registry

/-- The registry and the configuration have been those of the session from its start, whatever has
been done in it. -/
def Serves (r : Registry) (config : Config) (s : Session) : Prop :=
  ∃ page store ops, s = ((Session.startWith r config page store).run ops).1

variable {r : Registry} {config : Config} {s : Session}

/-- No run changes the registry. -/
theorem Serves.registry_eq (h : r.Serves config s) : s.registry = r := by
  obtain ⟨page, store, ops, rfl⟩ := h
  exact (Session.sameFrame_run ..).registry

/-- No run changes the configuration, either. -/
theorem Serves.config_eq (h : r.Serves config s) : s.config = config := by
  obtain ⟨page, store, ops, rfl⟩ := h
  exact (Session.sameFrame_run ..).config

theorem Serves.sound (h : r.Serves config s) : s.Sound := by
  obtain ⟨page, store, ops, rfl⟩ := h
  exact (Session.sound_startWith ..).run ops

/-- What is promised of the records that a registry makes, in any session that it serves. -/
structure MakesAfresh (r : Registry) : Prop where
  /-- Making a record writes nothing. -/
  storeless : ∀ {config s}, r.Serves config s → ∀ component slot element,
    (s.step (.mount component slot element)).session.store = s.store ∧
      ∀ e ∈ (s.step (.mount component slot element)).effects, e.saved? = none
  /-- A name that is unknown makes nothing, and nothing happens. -/
  unknown : ∀ {config s component}, r.Serves config s → r.contains component = false →
    ∀ slot element, s.step (.mount component slot element) = ⟨s, .none, []⟩
  /-- A new record is what the registry makes from the element, the store and the configuration,
  and so it stays, whatever is done to the others, for as long as it is left alone itself. -/
  made : ∀ {config s component element made}, r.Serves config s →
    r.make? component ⟨element, s.store, config⟩ = some made → ∀ slot,
      (s.step (.mount component slot element)).answer = .component made.component ∧
        (s.step (.mount component slot element)).effects = made.effects ∧
          ∀ ops, (∀ op ∈ ops, op.Keeps (.slot slot) ∧ ¬op.Uses (.slot slot)) →
            ((s.step (.mount component slot element)).session.run ops).1.shownAt (.slot slot) =
              some made.component
  /-- What was done to earlier records shows in a new one only by the text that is stored under its
  key.  Two sessions may differ in all else. -/
  forgets : ∀ {config s t}, r.Serves config s → r.Serves config t → ∀ component slot element,
    (∀ key, r.storageKey? component ⟨element, s.store, config⟩ = some key →
      t.store.get? key = s.store.get? key) →
    (t.step (.mount component slot element)).answer =
        (s.step (.mount component slot element)).answer ∧
      (t.step (.mount component slot element)).effects =
        (s.step (.mount component slot element)).effects

theorem make?_eq_none_of_not_contains {name : String} (h : r.contains name = false)
    (given : Ingredients) : r.make? name given = none := by
  rw [contains, TextMap.contains, Option.isSome_eq_false_iff, Option.isNone_iff_eq_none] at h
  rw [make?, h, Option.map_none]

/-- **The application's recipes make new records**, under any names. -/
theorem makesAfresh (hr : r.OfFactories) : r.MakesAfresh := by
  refine ⟨?storeless, ?unknown, ?made, ?forgets⟩
  case storeless =>
    intro config s hs component slot element
    have hregistry : s.registry.OfFactories := hs.registry_eq.symm ▸ hr
    cases hmake : s.registry.make? component ⟨element, s.store, s.config⟩ with
    | none =>
      rw [Session.mount_of_make?_eq_none hmake]
      exact ⟨rfl, nofun⟩
    | some made =>
      have hstoreless : ∀ e ∈ made.effects, e.saved? = none := fun e he => hregistry.saved? hmake he
      rw [Session.mount_of_make? hmake, Session.done_of_storeless _ _ hstoreless]
      exact ⟨rfl, hstoreless⟩
  case unknown =>
    intro config s component hs hcontains slot element
    refine Session.mount_of_make?_eq_none ?_ slot
    rw [hs.registry_eq, make?_eq_none_of_not_contains hcontains]
  case made =>
    intro config s component element made hs hmake slot
    have hmade : s.registry.make? component ⟨element, s.store, s.config⟩ = some made := by
      rw [hs.registry_eq, hs.config_eq, hmake]
    refine ⟨?_, ?_, fun ops hops => Session.shownAt_run_mount hs.sound hmade hops⟩
    · rw [Session.mount_of_make? hmade, Session.done]
    · rw [Session.mount_of_make? hmade, Session.done]
  case forgets =>
    intro config s t hs ht component slot element hstore
    have hmake : t.registry.make? component ⟨element, t.store, t.config⟩ =
        s.registry.make? component ⟨element, s.store, s.config⟩ := by
      rw [hs.registry_eq, ht.registry_eq, hs.config_eq, ht.config_eq]
      exact make?_congr (fun recipe hrecipe => hr.mem_factories hrecipe) hstore
    cases hmade : s.registry.make? component ⟨element, s.store, s.config⟩ with
    | none =>
      rw [Session.mount_of_make?_eq_none hmade, Session.mount_of_make?_eq_none (hmake.trans hmade)]
      exact ⟨rfl, rfl⟩
    | some made =>
      rw [Session.mount_of_make? hmade, Session.mount_of_make? (hmake.trans hmade)]
      exact ⟨rfl, rfl⟩

/-- **Registrations**, any number of them, on an empty registry or on that of the application.  Of
each name the first one counts, and the others are refused with a warning.  If the recipes are the
application's own, each record that they make is a new one, which has nothing of the earlier ones but
what is in the store. -/
theorem first_registration_counts :
    empty.FirstWins [] ∧ standard.FirstWins standardRecipes ∧
      ∀ entries : List (String × Recipe), (∀ e ∈ entries, e.2 ∈ factories) →
        (empty.registerAll entries).MakesAfresh ∧ (standard.registerAll entries).MakesAfresh := by
  refine ⟨firstWins [], firstWins standardRecipes, fun entries hentries => ?_⟩
  obtain ⟨hempty, hstandard⟩ := ofFactories_registerAll hentries
  exact ⟨makesAfresh hempty, makesAfresh hstandard⟩

/-- A new name, a name of the application, and the new name again, with recipes of the
application. -/
def additions : List (String × Recipe) :=
  [("reports", restored "nav-laporan" false), ("toggleState", always (.quickForm .idle)),
    ("reports", always (.quickForm .idle))]

theorem mem_factories_of_mem_additions : ∀ e ∈ additions, e.2 ∈ factories := by
  have hreports : restored "nav-laporan" false ∈ factories := List.mem_of_getElem? (i := 9) rfl
  have hform : always (.quickForm .idle) ∈ factories := List.mem_of_getElem? (i := 17) rfl
  intro e he
  simp only [additions, List.mem_cons, List.not_mem_nil, or_false] at he
  rcases he with rfl | rfl | rfl
  · exact hreports
  · exact hform
  · exact hform

theorem first_registration_counts_additions :
    (∀ e ∈ additions, e.2 ∈ factories) ∧ (standard.registerAll additions).MakesAfresh ∧
      (standard.registerAll additions).size = 19 ∧
        ((standard.registerAll additions).register "reports" (always (.toggle .closed))).accepted =
            false ∧
          ∀ given, (standard.registerAll additions).make? "reports" given =
              some (restored "nav-laporan" false given) ∧
            (standard.registerAll additions).make? "toggleState" given =
              some ⟨.toggle .closed, []⟩ := by
  obtain ⟨-, hwins, hafresh⟩ := first_registration_counts
  refine ⟨mem_factories_of_mem_additions, (hafresh _ mem_factories_of_mem_additions).2, ?_, ?_, ?_⟩
  · exact (hwins.size additions).trans (by decide +kernel)
  · rw [Bool.eq_false_iff, Ne, hwins.accepted_iff]
    decide +kernel
  · have hreports : standardRecipes ++ additions =
        standardRecipes ++ ("reports", restored "nav-laporan" false) :: additions.tail := rfl
    have htoggle : standardRecipes ++ additions =
        [] ++ ("toggleState", always (.toggle .closed)) :: (standardRecipes.tail ++ additions) := rfl
    intro given
    exact ⟨hwins.made hreports (by decide +kernel) given, hwins.made htoggle List.not_mem_nil given⟩

end Registry
end AccountingPage
