import Mathlib.Data.List.Nodup
import AccountingPage.Registry
import AccountingPage.Proofs.TextMap

/-!
# What a registry makes

A registry knows what has been registered, and nothing else.  The application's own components are
of two sorts: six sections that are kept, and the others, which have nothing to do with the store.

* `Registry.get?_registerAll` says which recipe a name has after some registrations: its first.
* `Registry.mem_standardRecipes` tells the two sorts of standard recipes apart.
* `Registry.storageKey?` is the key under which a component keeps its flag.
  `storageKey?_standard_iff` says which components have one, and that it is theirs alone.
* `Registry.make?_congr` says what the making of such a component sees of the store.
-/

set_option autoImplicit false

namespace AccountingPage

/-- The key under which a section is kept. -/
def Component.storageKey? {φ : Type} : Component φ → Option String
  | nav n => n.storageKey?
  | _ => none

namespace Registry

/-! ## Registrations -/

theorem get?_register (r : Registry) (name name' : String) (recipe : Recipe) :
    (r.register name recipe).registry.recipes.get? name' =
      (r.recipes.get? name').or (if name = name' then some recipe else none) := by
  rw [register, contains, TextMap.contains]
  split
  · rename_i h
    split
    · rename_i heq
      rw [← heq, Option.or_of_isSome h]
    · rw [Option.or_none]
  · rename_i h
    rw [TextMap.get?_insert]
    split
    · rename_i heq
      rw [← heq, Option.not_isSome_iff_eq_none.1 h]
      rfl
    · rw [Option.or_none]

/-- **The first registration of a name counts.** -/
theorem get?_registerAll (entries : List (String × Recipe)) (r : Registry) (name : String) :
    (r.registerAll entries).recipes.get? name =
      (r.recipes.get? name).or (TextMap.lookupEntry name entries) := by
  induction entries generalizing r with
  | nil => exact (Option.or_none ..).symm
  | cons e entries ih =>
    rw [registerAll, List.foldl_cons, ← registerAll, ih, get?_register, Option.or_assoc,
      TextMap.lookupEntry]
    split <;> rfl

theorem get?_registerAll_empty (entries : List (String × Recipe)) (name : String) :
    (empty.registerAll entries).recipes.get? name = TextMap.lookupEntry name entries :=
  get?_registerAll entries empty name

/-! ## The application's components -/

/-- The store has no part in making the record. -/
structure IgnoresStore (recipe : Recipe) : Prop where
  congr : ∀ element store store' config,
    recipe ⟨element, store, config⟩ = recipe ⟨element, store', config⟩
  effects : ∀ given, (recipe given).effects = []
  storageKey? : ∀ given, (recipe given).component.storageKey? = none

/-- **A standard component is a section that is kept, or has nothing to do with the store.** -/
theorem mem_standardRecipes {e : String × Recipe} (h : e ∈ standardRecipes) :
    (∃ spec ∈ KeptSection.all, e = (spec.component, restored spec.key spec.byDefault)) ∨
      IgnoresStore e.2 := by
  rcases List.mem_append.1 h with h | h
  · rcases List.mem_append.1 h with h | h
    · refine .inr ?_
      simp only [List.mem_cons, List.not_mem_nil, or_false] at h
      rcases h with rfl | rfl | rfl | rfl | rfl | rfl | rfl | rfl
      all_goals exact ⟨fun _ _ _ _ => rfl, fun _ => rfl, fun _ => rfl⟩
    · obtain ⟨spec, hspec, rfl⟩ := List.mem_map.1 h
      exact .inl ⟨spec, hspec, rfl⟩
  · refine .inr ?_
    simp only [List.mem_cons, List.not_mem_nil, or_false] at h
    rcases h with rfl | rfl | rfl | rfl
    all_goals exact ⟨fun _ _ _ _ => rfl, fun _ => rfl, fun _ => rfl⟩

/-- The registry makes the kept sections by their names. -/
theorem get?_standard_of_mem {spec : KeptSection} (h : spec ∈ KeptSection.all) :
    standard.recipes.get? spec.component = some (restored spec.key spec.byDefault) := by
  rw [standard, get?_registerAll_empty]
  simp only [KeptSection.all, List.mem_cons, List.not_mem_nil, or_false] at h
  rcases h with rfl | rfl | rfl | rfl | rfl | rfl <;> rfl

theorem mem_standardRecipes_of_get? {name : String} {recipe : Recipe}
    (h : standard.recipes.get? name = some recipe) : (name, recipe) ∈ standardRecipes := by
  rw [standard, get?_registerAll_empty] at h
  exact TextMap.mem_of_lookupEntry_eq_some h

theorem get?_standard {name : String} {recipe : Recipe}
    (h : standard.recipes.get? name = some recipe) :
    (∃ spec ∈ KeptSection.all, name = spec.component ∧ recipe = restored spec.key spec.byDefault) ∨
      IgnoresStore recipe := by
  refine (mem_standardRecipes (mem_standardRecipes_of_get? h)).imp_left ?_
  rintro ⟨spec, hspec, heq⟩
  exact ⟨spec, hspec, congrArg Prod.fst heq, congrArg Prod.snd heq⟩

/-! ## Kept sections -/

/-- The key under which the component of a name keeps its flag, if it is one that does. -/
def storageKey? (r : Registry) (name : String) (given : Ingredients) : Option String :=
  (r.make? name given).bind fun made => made.component.storageKey?

theorem storageKey?_standard_iff {name key : String} {given : Ingredients} :
    standard.storageKey? name given = some key ↔
      ∃ spec ∈ KeptSection.all, spec.component = name ∧ given.config.storageKey spec.key = key := by
  rw [storageKey?, make?]
  constructor
  · intro h
    cases hrecipe : standard.recipes.get? name with
    | none => exact absurd h (by simp [hrecipe])
    | some recipe =>
      have hkey : (recipe given).component.storageKey? = some key := by simpa [hrecipe] using h
      rcases get?_standard hrecipe with ⟨spec, hspec, rfl, rfl⟩ | hignores
      · exact ⟨spec, hspec, rfl, Option.some.inj hkey⟩
      · exact absurd ((hignores.storageKey? given).symm.trans hkey) (by simp)
  · rintro ⟨spec, hspec, rfl, rfl⟩
    rw [get?_standard_of_mem hspec]
    rfl

end Registry

namespace KeptSection

/-- No two kept sections have one key before the prefix, or one name. -/
theorem eq_of_key_eq {spec spec' : KeptSection} (h : spec ∈ all) (h' : spec' ∈ all)
    (heq : spec.key = spec'.key) : spec = spec' :=
  List.inj_on_of_nodup_map (f := key) (by decide) h h' heq

end KeptSection

theorem Config.storageKey_inj {c : Config} {key key' : String}
    (h : c.storageKey key = c.storageKey key') : key = key' :=
  (String.append_right_inj _).1 h

namespace Registry

/-- Two components that keep a flag under one key are one. -/
theorem eq_of_storageKey?_standard {name name' key : String} {given given' : Ingredients}
    (h : standard.storageKey? name given = some key)
    (h' : standard.storageKey? name' given' = some key)
    (hconfig : given'.config.storagePrefix = given.config.storagePrefix) : name = name' := by
  obtain ⟨spec, hspec, rfl, rfl⟩ := storageKey?_standard_iff.1 h
  obtain ⟨spec', hspec', rfl, heq⟩ := storageKey?_standard_iff.1 h'
  have hkey : given.config.storageKey spec'.key = given.config.storageKey spec.key := by
    rw [← heq, Config.storageKey, Config.storageKey, hconfig]
  rw [KeptSection.eq_of_key_eq hspec hspec' (Config.storageKey_inj hkey).symm]

/-- Of the store, a standard recipe sees the text under its key and nothing else. -/
theorem congr_of_mem_standardRecipes {e : String × Recipe} (h : e ∈ standardRecipes)
    {element : Element} {config : Config} {store store' : Store}
    (hget : ∀ key, (e.2 ⟨element, store, config⟩).component.storageKey? = some key →
      store'.get? key = store.get? key) :
    e.2 ⟨element, store', config⟩ = e.2 ⟨element, store, config⟩ := by
  rcases mem_standardRecipes h with ⟨spec, -, rfl⟩ | hignores
  · have hkey := hget _ rfl
    simp only [restored, Nav.restore, Store.flagAt, hkey]
  · exact hignores.congr ..

/-- So does making a component by name, if there are no recipes but these, under any names. -/
theorem make?_congr {r : Registry} {name : String}
    (hr : ∀ recipe, r.recipes.get? name = some recipe → recipe ∈ standardRecipes.map Prod.snd)
    {element : Element} {config : Config} {store store' : Store}
    (hget : ∀ key, r.storageKey? name ⟨element, store, config⟩ = some key →
      store'.get? key = store.get? key) :
    r.make? name ⟨element, store', config⟩ = r.make? name ⟨element, store, config⟩ := by
  rw [make?, make?]
  cases hrecipe : r.recipes.get? name with
  | none => rfl
  | some recipe =>
    obtain ⟨e, he, rfl⟩ := List.mem_map.1 (hr recipe hrecipe)
    refine congrArg some (congr_of_mem_standardRecipes he fun key hkey => hget key ?_)
    rw [storageKey?, make?, hrecipe]
    exact hkey

theorem make?_standard_congr {name : String} {element : Element} {config : Config}
    {store store' : Store}
    (h : ∀ key, standard.storageKey? name ⟨element, store, config⟩ = some key →
      store'.get? key = store.get? key) :
    standard.make? name ⟨element, store', config⟩ = standard.make? name ⟨element, store, config⟩ :=
  make?_congr (fun _ hrecipe => List.mem_map_of_mem (mem_standardRecipes_of_get? hrecipe)) h

end Registry

end AccountingPage
