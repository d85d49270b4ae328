import AccountingPage.Component.Basic

/-!
# The registry of components

Markup refers to components by name.  The registry knows for each name how to make the record; the
first registration of a name stays.

* `Recipe` makes a record from its `Ingredients`: the element, the store and the configuration.
* `Registry.register` adds a recipe, `Registry.make?` makes a record by name.
* `Registry.standard` holds the eighteen components of the application's markup.
* `SharedRegistry` is the one registry of a process, built when it is first asked for.
-/

set_option autoImplicit false

namespace AccountingPage

/-- What a record may be made from. -/
structure Ingredients where
  element : Element
  store : Store
  config : Config

/-- A new record, and what its making asked of the store. -/
structure Made where
  component : Component QuickForm
  effects : List Effect

/-- How a component is made from what is given to it. -/
abbrev Recipe := Ingredients → Made

structure Registry where
  recipes : TextMap Recipe

namespace Registry

def empty : Registry := ⟨.empty⟩

instance : Inhabited Registry := ⟨empty⟩

def contains (r : Registry) (name : String) : Bool := r.recipes.contains name

/-- The names in ascending order. -/
def names (r : Registry) : List String := r.recipes.keys

def size (r : Registry) : Nat := r.recipes.size

/-- Whether the registration counted. -/
structure Registration where
  accepted : Bool
  registry : Registry
  effects : List Effect

def register (r : Registry) (name : String) (recipe : Recipe) : Registration :=
  if r.contains name then ⟨false, r, [.log (.alreadyRegistered name)]⟩
  else ⟨true, ⟨r.recipes.insert name recipe⟩, []⟩

/-- Makes a component by its name, if there is a recipe of that name. -/
def make? (r : Registry) (name : String) (given : Ingredients) : Option Made :=
  (r.recipes.get? name).map fun recipe => recipe given

/-! ## The application's components -/

/-- The component does not depend on its element. -/
def always (c : Component QuickForm) : Recipe := fun _ => ⟨c, []⟩

/-- The component takes over what its element says. -/
def ofElement (f : Element → Component QuickForm) : Recipe := fun given => ⟨f given.element, []⟩

/-- A section that is restored from the store, under its key with the configured prefix. -/
def restored (key : String) (byDefault : Bool) : Recipe := fun given =>
  let (n, effects) := Nav.restore given.store (given.config.storageKey key) byDefault
  ⟨.nav n, effects⟩

/-- The components of the application, by the names that markup uses. -/
def standardRecipes : List (String × Recipe) :=
  [("toggleState", always (.toggle .closed)),
    ("searchFilterState", always (.searchFilter .closed)),
    ("sidebarState", always (.sidebar .closed)),
    ("expandableState", always (.expandable .collapsed)),
    ("showState", always (.disclosure .hidden)),
    ("idTypeSelector", ofElement fun e => .idTypePicker (.ofElement e)),
    ("voidForm", always (.voidConfirmation .blank)),
    ("percentageToggle", ofElement fun e => .percentageSwitch (.ofElement e))] ++
  KeptSection.all.map (fun spec => (spec.component, restored spec.key spec.byDefault)) ++
  [("navOpenDefault", always (.nav (.forgetful true))),
    ("navClosedDefault", always (.nav (.forgetful false))),
    ("transactionForm", ofElement fun e => .transactionForm (.ofElement e)),
    ("quickTransactionForm", always (.quickForm .idle))]

/-- Registers one recipe after the other. -/
def registerAll (r : Registry) (entries : List (String × Recipe)) : Registry :=
  entries.foldl (fun r e => (r.register e.1 e.2).registry) r

def standard : Registry := empty.registerAll standardRecipes

end Registry

/-! ## The registry of a process -/

structure SharedRegistry where
  built? : Option Registry

namespace SharedRegistry

def unbuilt : SharedRegistry := ⟨none⟩

def isBuilt (s : SharedRegistry) : Bool := s.built?.isSome

/-- The registry, and what is logged when it is built. -/
def acquire (s : SharedRegistry) : Registry × SharedRegistry × List Effect :=
  match s.built? with
  | some r => (r, s, [])
  | none => (.standard, ⟨some .standard⟩, [.log (.registered Registry.standard.size)])

end SharedRegistry

end AccountingPage
