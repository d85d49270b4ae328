import AccountingPage.Records
import AccountingPage.Registry

/-!
# Binding the regions of a page

When a region of the page is swapped, the records bound to its old elements are dropped and its new
elements get new ones.  Nothing is carried over but what a record restores from the store.

* `Rebuilder` is anything that can drop and make what is bound under a node; `rebuild` does the one
  and then the other.
* `Region` is a part of the page with the elements in it that name a component.
* `Records.dropRegion` and `Records.bindRegion` do it for the records of a page, and
  `Records.rebuilder` puts the two together.
-/

set_option autoImplicit false

namespace AccountingPage

/-! ## Dropping and making -/

/-- Something that drops and makes what is bound under a node, as changes of a state `σ`. -/
structure Rebuilder (ν σ : Type) where
  drop : ν → σ → σ
  make : ν → σ → σ

/-- Drops what is bound under the target and makes it anew.  Without a rebuilder or without a
target nothing happens, and the answer is `false`. -/
def rebuild {ν σ : Type} (rebuilder? : Option (Rebuilder ν σ)) (target? : Option ν) (s : σ) :
    Bool × σ :=
  match rebuilder?, target? with
  | some rebuilder, some target => (true, rebuilder.make target (rebuilder.drop target s))
  | _, _ => (false, s)

/-! ## The records of a page -/

/-- An element that names a component. -/
structure Site where
  component : String
  element : Element
deriving DecidableEq

structure Region where
  id : String
  sites : List Site
deriving DecidableEq

/-- What making a record draws on. -/
structure Workshop where
  registry : Registry
  store : Store
  config : Config

namespace Records

def dropRegion (r : Records) (g : Region) : Records × List Effect :=
  match r.live.get? g.id with
  | some cs => ({ r with live := r.live.erase g.id }, [.log (.dropped cs.length g.id)])
  | none => (r, [])

/-- One record for each site whose component is known, in the order of the sites. -/
def makeRecords (w : Workshop) (region : String) :
    List Site → Forms → List (Component FormId) × Forms × List Effect
  | [], forms => ([], forms, [])
  | site :: sites, forms =>
    match w.registry.make? site.component ⟨site.element, w.store, w.config⟩ with
    | some made =>
      let (c, forms) := forms.adopt made.component
      let (cs, forms, effects) := makeRecords w region sites forms
      (c :: cs, forms, made.effects ++ effects)
    | none =>
      let (cs, forms, effects) := makeRecords w region sites forms
      (cs, forms, .log (.unknownComponent site.component region) :: effects)

def bindRegion (r : Records) (w : Workshop) (g : Region) : Records × List Effect :=
  let (cs, forms, effects) := makeRecords w g.id g.sites r.forms
  ({ r with forms := forms, live := r.live.insert g.id cs }, effects)

/-- Rebuilds the regions of a page; the effects are gathered behind those that were there. -/
def rebuilder (w : Workshop) : Rebuilder Region (Records × List Effect) where
  drop g s :=
    let (r, effects) := s.1.dropRegion g
    (r, s.2 ++ effects)
  make g s :=
    let (r, effects) := s.1.bindRegion w g
    (r, s.2 ++ effects)

end Records

end AccountingPage
