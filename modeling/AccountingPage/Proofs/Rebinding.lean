import AccountingPage.Proofs.Operations

/-!
# What is bound after any history

A region is bound and dropped again and again, with other elements each time, while the records in
it are called and the store changes.  What is bound in it is then a matter of its last binding and
of the store at that moment.

* `Workshop.records` are the new records for some elements, `Workshop.effects` what is done on the
  way.  `Records.bound?_bindRegion` says that a region gets just these, whatever was bound in it,
  and `Records.bindRegion_dropRegion` that dropping it first makes no difference.
* `Forms.Extends` is what happens to the quick forms of the others: nothing.
* `Registry.OfFactories` are the registries that have the application's recipes under any names.
  None of them writes to the store.
* `Op.Binds` and `Op.Drops` sort the operations by what they do to a region, and
  `Session.isSome_bound?_run` says what remains of them after a run.
* `Session.RenewsRegions` says what the next operation on a region does, and
  `Session.regions_follow` that it does so after any history.
-/

set_option autoImplicit false

namespace AccountingPage

/-! ## Quick forms that stay -/

namespace Forms

/-- `fs'` has the forms of `fs`, and maybe more. -/
structure Extends (fs fs' : Forms) : Prop where
  nextId_le : fs.nextId ≤ fs'.nextId
  get : ∀ {id}, id < fs.nextId → fs'.get id = fs.get id

variable {fs fs' fs'' : Forms}

theorem Extends.refl (fs : Forms) : fs.Extends fs := ⟨Nat.le_refl _, fun _ => rfl⟩

theorem Extends.trans (h : fs.Extends fs') (h' : fs'.Extends fs'') : fs.Extends fs'' :=
  ⟨Nat.le_trans h.nextId_le h'.nextId_le,
    fun hid => (h'.get (Nat.lt_of_lt_of_le hid h.nextId_le)).trans (h.get hid)⟩

/-- A new form comes after all others. -/
theorem extends_adopt (fs : Forms) (c : Component QuickForm) : fs.Extends (fs.adopt c).2 := by
  refine ⟨nextId_adopt_le fs c, fun {id} hid => ?_⟩
  cases c with
  | quickForm f => exact get_add_of_lt hid f
  | _ => rfl

/-- A component that was there before looks the same. -/
theorem Extends.resolve (h : fs.Extends fs') {c : Component FormId} (hc : fs.Has c) :
    fs'.resolve c = fs.resolve c := by
  cases c with
  | quickForm id => exact congrArg _ (h.get (hc id rfl))
  | _ => rfl

/-- Its reference is a fresh one. -/
theorem le_of_quickForm?_adopt {c : Component QuickForm} {id : FormId}
    (h : (fs.adopt c).1.quickForm? = some id) : fs.nextId ≤ id := by
  cases c with
  | quickForm f => exact Nat.le_of_eq (Option.some.inj h)
  | _ => exact absurd h (by simp [adopt, Component.quickForm?])

end Forms

/-! ## What is made -/

namespace Workshop

def make? (w : Workshop) (site : Site) : Option Made :=
  w.registry.make? site.component ⟨site.element, w.store, w.config⟩

/-- What the registry makes for the elements, in their order.  One whose component is unknown is
passed over. -/
def records (w : Workshop) (sites : List Site) : List (Component QuickForm) :=
  sites.filterMap fun site => (w.make? site).map Made.component

/-- What making them asks of the store, and one warning for each element whose component is
unknown. -/
def effects (w : Workshop) (region : String) (sites : List Site) : List Effect :=
  sites.flatMap fun site =>
    match w.make? site with
    | some made => made.effects
    | none => [.log (.unknownComponent site.component region)]

end Workshop

namespace Records

variable {w : Workshop} {region : String} {site : Site} {fs : Forms}

/-- A site with a recipe gets a record, made before those of the other sites. -/
theorem makeRecords_of_some {made : Made} (h : w.make? site = some made) (sites : List Site) :
    makeRecords w region (site :: sites) fs =
      ((fs.adopt made.component).1 :: (makeRecords w region sites (fs.adopt made.component).2).1,
        (makeRecords w region sites (fs.adopt made.component).2).2.1,
        made.effects ++ (makeRecords w region sites (fs.adopt made.component).2).2.2) := by
  rw [Workshop.make?] at h
  rw [makeRecords, h]

/-- A site without one is passed over, with a note in the log. -/
theorem makeRecords_of_none (h : w.make? site = none) (sites : List Site) :
    makeRecords w region (site :: sites) fs =
      ((makeRecords w region sites fs).1, (makeRecords w region sites fs).2.1,
        .log (.unknownComponent site.component region) :: (makeRecords w region sites fs).2.2) := by
  rw [Workshop.make?] at h
  rw [makeRecords, h]

theorem extends_makeRecords (w : Workshop) (region : String) (sites : List Site) (fs : Forms) :
    fs.Extends (makeRecords w region sites fs).2.1 := by
  induction sites generalizing fs with
  | nil => exact .refl fs
  | cons site sites ih =>
    cases hmake : w.make? site with
    | some made =>
      rw [makeRecords_of_some hmake]
      exact (Forms.extends_adopt fs _).trans (ih _)
    | none =>
      rw [makeRecords_of_none hmake]
      exact ih fs

/-- **The records of a region, as markup sees them**, do not depend on the forms that there are
already. -/
theorem resolve_makeRecords (w : Workshop) (region : String) (sites : List Site) (fs : Forms) :
    (makeRecords w region sites fs).1.map (makeRecords w region sites fs).2.1.resolve =
      w.records sites := by
  induction sites generalizing fs with
  | nil => rfl
  | cons site sites ih =>
    rw [Workshop.records, List.filterMap_cons, ← Workshop.records]
    cases hmake : w.make? site with
    | some made =>
      -- the forms that come later leave this one as it was taken over
      have hlater := extends_makeRecords w region sites (fs.adopt made.component).2
      rw [makeRecords_of_some hmake, List.map_cons, ih, hlater.resolve (Forms.has_adopt fs _),
        Forms.resolve_adopt]
      rfl
    | none =>
      rw [makeRecords_of_none hmake]
      exact ih fs

/-- The effects of making them do not depend on those forms, either. -/
theorem effects_makeRecords (w : Workshop) (region : String) (sites : List Site) (fs : Forms) :
    (makeRecords w region sites fs).2.2 = w.effects region sites := by
  induction sites generalizing fs with
  | nil => rfl
  | cons site sites ih =>
    rw [Workshop.effects, List.flatMap_cons, ← Workshop.effects]
    cases hmake : w.make? site with
    | some made => rw [makeRecords_of_some hmake, ih]
    | none =>
      rw [makeRecords_of_none hmake, ih]
      rfl

/-- The quick forms that some components refer to. -/
def references (cs : List (Component FormId)) : List FormId := cs.filterMap Component.quickForm?

theorem references_cons (c : Component FormId) (cs : List (Component FormId)) :
    references (c :: cs) = c.quickForm?.toList ++ references cs := by
  rw [references, List.filterMap_cons]
  cases c.quickForm? <;> rfl

/-- Every new quick form has a reference of its own, and one that was not in the table. -/
theorem references_makeRecords (w : Workshop) (region : String) (sites : List Site) (fs : Forms) :
    (references (makeRecords w region sites fs).1).Nodup ∧
      ∀ id ∈ references (makeRecords w region sites fs).1, fs.nextId ≤ id := by
  induction sites generalizing fs with
  | nil => exact ⟨List.nodup_nil, nofun⟩
  | cons site sites ih =>
    cases hmake : w.make? site with
    | some made =>
      obtain ⟨hnodup, hle⟩ := ih (fs.adopt made.component).2
      rw [makeRecords_of_some hmake, references_cons]
      cases hid : (fs.adopt made.component).1.quickForm? with
      | some id =>
        have hlt : id < (fs.adopt made.component).2.nextId := Forms.has_adopt fs _ id hid
        have hnew : fs.nextId ≤ id := Forms.le_of_quickForm?_adopt hid
        rw [Option.toList_some, List.singleton_append]
        refine ⟨List.nodup_cons.2 ⟨fun hmem => ?_, hnodup⟩, fun id' hid' => ?_⟩
        · exact absurd (hle id hmem) (Nat.not_le.2 hlt)
        · rcases List.mem_cons.1 hid' with rfl | hid'
          · exact hnew
          · exact Nat.le_trans (Nat.le_of_lt (Nat.lt_of_le_of_lt hnew hlt)) (hle id' hid')
      | none =>
        exact ⟨hnodup, fun id hid => Nat.le_trans (Forms.nextId_adopt_le fs _) (hle id hid)⟩
    | none =>
      rw [makeRecords_of_none hmake]
      exact ih fs

/-! ## One region among others -/

variable {r : Records} {g : Region} {id : String}

theorem get?_live_bindRegion (r : Records) (w : Workshop) (g : Region) (id : String) :
    (r.bindRegion w g).1.live.get? id =
      if g.id = id then some (makeRecords w g.id g.sites r.forms).1 else r.live.get? id :=
  TextMap.get?_insert ..

theorem get?_live_dropRegion (r : Records) (g : Region) (id : String) :
    (r.dropRegion g).1.live.get? id = if g.id = id then none else r.live.get? id := by
  rw [dropRegion]
  split
  · exact TextMap.get?_erase ..
  · rename_i hnone
    split
    · rename_i heq
      rw [← heq, hnone]
    · rfl

/-- Putting a component where one is held binds no region and drops none. -/
theorem isSome_live_replace (r : Records) (c : Component FormId) (a : Address) (id : String) :
    ((r.replace c a).live.get? id).isSome = (r.live.get? id).isSome := by
  cases a with
  | slot name => rfl
  | bound region index =>
    rw [replace]
    split
    · rename_i cs hcs
      rw [TextMap.get?_insert]
      split
      · rename_i heq
        rw [← heq, hcs]
        rfl
      · rfl
    · rfl

/-- A region is bound just if there is a list of its records, even an empty one. -/
theorem isSome_bound? (r : Records) (id : String) :
    (r.bound? id).isSome = (r.live.get? id).isSome := by
  rw [bound?, Option.isSome_map]

/-- **A region that is bound holds what the registry makes, and nothing of what it held.** -/
theorem bound?_bindRegion (r : Records) (w : Workshop) (g : Region) :
    (r.bindRegion w g).1.bound? g.id = some (w.records g.sites) := by
  rw [bound?, get?_live_bindRegion, if_pos rfl, Option.map_some]
  exact congrArg some (resolve_makeRecords w g.id g.sites r.forms)

/-- Binding a region does nothing to another one, for the forms in that are old. -/
theorem bound?_bindRegion_of_ne (hr : r.WellFormed) (w : Workshop) (h : id ≠ g.id) :
    (r.bindRegion w g).1.bound? id = r.bound? id := by
  have hforms := extends_makeRecords w g.id g.sites r.forms
  rw [bound?, bound?, get?_live_bindRegion, if_neg h.symm]
  cases hlive : r.live.get? id with
  | none => rfl
  | some cs =>
    exact congrArg some (List.map_congr_left fun c hc => hforms.resolve (hr.live id cs hlive c hc))

/-- Dropping a region does nothing to another one. -/
theorem bound?_dropRegion_of_ne (r : Records) (h : id ≠ g.id) :
    (r.dropRegion g).1.bound? id = r.bound? id := by
  have hresolve : (r.dropRegion g).1.resolve = r.resolve :=
    congrArg Forms.resolve (forms_dropRegion r g)
  rw [bound?, bound?, get?_live_dropRegion, if_neg h.symm, hresolve]

/-- Dropping a region first makes no difference to what is bound. -/
theorem bindRegion_dropRegion (r : Records) (w : Workshop) (g : Region) :
    (r.dropRegion g).1.bindRegion w g = r.bindRegion w g := by
  rw [dropRegion]
  split
  · rename_i cs hcs
    have hinsert (new : List (Component FormId)) :
        (r.live.erase g.id).insert g.id new = r.live.insert g.id new := by
      refine TextMap.ext_get? fun id => ?_
      rw [TextMap.get?_insert, TextMap.get?_insert, TextMap.get?_erase]
      split <;> rfl
    simp only [bindRegion, hinsert]
  · rfl

theorem saved?_of_mem_dropRegion {e : Effect} (he : e ∈ (r.dropRegion g).2) : e.saved? = none := by
  rw [dropRegion] at he
  split at he
  · rw [List.mem_singleton.1 he]
    rfl
  · exact absurd he List.not_mem_nil

end Records

/-! ## Registries of the application's recipes -/

namespace Registry

/-- The application's ways of making a record. -/
def factories : List Recipe := standardRecipes.map Prod.snd

/-- The registry has been filled with the application's recipes, under any names. -/
def OfFactories (r : Registry) : Prop :=
  ∃ entries : List (String × Recipe), (∀ e ∈ entries, e.2 ∈ factories) ∧ r = empty.registerAll entries

theorem saved?_of_mem_factories {recipe : Recipe} (h : recipe ∈ factories) {given : Ingredients}
    {e : Effect} (he : e ∈ (recipe given).effects) : e.saved? = none := by
  obtain ⟨entry, hentry, rfl⟩ := List.mem_map.1 h
  rcases mem_standardRecipes hentry with ⟨spec, -, rfl⟩ | hignores
  · exact Store.saved?_of_mem_flagAt he
  · rw [hignores.effects] at he
    exact absurd he List.not_mem_nil

theorem OfFactories.mem_factories {r : Registry} (h : r.OfFactories) {name : String}
    {recipe : Recipe} (hrecipe : r.recipes.get? name = some recipe) : recipe ∈ factories := by
  obtain ⟨entries, hentries, rfl⟩ := h
  rw [get?_registerAll_empty] at hrecipe
  exact hentries _ (TextMap.mem_of_lookupEntry_eq_some hrecipe)

theorem OfFactories.saved? {r : Registry} (h : r.OfFactories) {name : String} {given : Ingredients}
    {made : Made} (hmade : r.make? name given = some made) {e : Effect} (he : e ∈ made.effects) :
    e.saved? = none := by
  obtain ⟨recipe, hrecipe, rfl⟩ := Option.map_eq_some_iff.1 hmade
  exact saved?_of_mem_factories (h.mem_factories hrecipe) he

end Registry

theorem Workshop.saved?_of_mem_effects {w : Workshop} (hw : w.registry.OfFactories)
    {region : String} {sites : List Site} {e : Effect} (he : e ∈ w.effects region sites) :
    e.saved? = none := by
  obtain ⟨site, -, he⟩ := List.mem_flatMap.1 he
  split at he
  · rename_i made hmade
    exact hw.saved? hmade he
  · rw [List.mem_singleton.1 he]
    rfl

/-! ## Operations on regions -/

namespace Op

/-- The region that an operation works on. -/
def region? : Op → Option Region
  | bindRegion g => some g
  | dropRegion g => some g
  | rebuild g _ _ => some g
  | _ => none

/-- The region that an operation binds, for the first time or anew. -/
def made? : Op → Option Region
  | bindRegion g => some g
  | rebuild g true true => some g
  | _ => none

/-- The region that an operation drops for good. -/
def dropped? : Op → Option Region
  | dropRegion g => some g
  | _ => none

def Binds (id : String) (op : Op) : Prop := op.made?.map Region.id = some id

def Drops (id : String) (op : Op) : Prop := op.dropped?.map Region.id = some id

/-- Ways to bind a region: as it is, after dropping it, or twice. -/
def waysToMake (g : Region) : List (List Op) :=
  [[bindRegion g], [rebuild g true true], [bindRegion g, bindRegion g]]

/-- A region is made anew by binding it, or by a rebuild with all that this needs. -/
theorem eq_of_made? {op : Op} {g : Region} (h : op.made? = some g) :
    op = bindRegion g ∨ op = rebuild g true true := by
  rw [made?.eq_def] at h
  split at h
  · exact .inl (Option.some.inj h ▸ rfl)
  · exact .inr (Option.some.inj h ▸ rfl)
  · cases h

theorem dropped?_of_made? {op : Op} {g : Region} (h : op.made? = some g) : op.dropped? = none := by
  rcases eq_of_made? h with rfl | rfl <;> rfl

theorem eq_none_of_region? {op : Op} (h : op.region? = none) :
    op.made? = none ∧ op.dropped? = none := by
  cases op with
  | bindRegion | dropRegion | rebuild => cases h
  | _ => exact ⟨rfl, rfl⟩

end Op

namespace Session

variable {s : Session} {op : Op} {g : Region} {id : String}

theorem effects_bindRegion (s : Session) (g : Region) :
    (s.step (.bindRegion g)).effects = s.workshop.effects g.id g.sites :=
  Records.effects_makeRecords ..

/-- A rebuild drops the region and then binds it. -/
theorem effects_rebuild (s : Session) (g : Region) :
    (s.step (.rebuild g true true)).effects =
      (s.step (.dropRegion g)).effects ++ s.workshop.effects g.id g.sites := by
  have hbind := Records.bindRegion_dropRegion s.records s.workshop g
  rw [← effects_bindRegion]
  exact congrArg (fun bound => (s.records.dropRegion g).2 ++ bound.2) hbind

/-- Both ways leave the same records behind. -/
theorem records_of_made? (h : op.made? = some g) :
    (s.step op).session.records = (s.records.bindRegion s.workshop g).1 := by
  rcases Op.eq_of_made? h with rfl | rfl
  · rfl
  · exact congrArg Prod.fst (Records.bindRegion_dropRegion s.records s.workshop g)

/-- An operation on a region binds it, drops it, or does nothing at all. -/
theorem step_of_region? (h : op.region? = some g) :
    op.made? = some g ∨ op = .dropRegion g ∨
      (op.made? = none ∧ op.dropped? = none) ∧
        (s.step op).session = s ∧ (s.step op).effects = [] := by
  cases op with
  | bindRegion g' => exact .inl h
  | dropRegion g' => exact .inr (.inl (Option.some.inj h ▸ rfl))
  | rebuild g' hasRebuilder hasTarget =>
    cases hasRebuilder with
    | false => exact .inr (.inr ⟨⟨rfl, rfl⟩, rfl, rfl⟩)
    | true =>
      cases hasTarget with
      | false => exact .inr (.inr ⟨⟨rfl, rfl⟩, rfl, rfl⟩)
      | true => exact .inl h
  | _ => cases h

theorem saved?_of_mem_effects_made? (hs : s.registry.OfFactories) (h : op.made? = some g)
    {e : Effect} (he : e ∈ (s.step op).effects) : e.saved? = none := by
  rcases Op.eq_of_made? h with rfl | rfl
  · rw [effects_bindRegion] at he
    exact Workshop.saved?_of_mem_effects hs he
  · rw [effects_rebuild] at he
    rcases List.mem_append.1 he with he | he
    · exact Records.saved?_of_mem_dropRegion he
    · exact Workshop.saved?_of_mem_effects hs he

theorem saved?_of_mem_effects_region? (hs : s.registry.OfFactories) (h : op.region? = some g)
    {e : Effect} (he : e ∈ (s.step op).effects) : e.saved? = none := by
  rcases step_of_region? h with hmade | rfl | ⟨-, -, hnone⟩
  · exact saved?_of_mem_effects_made? hs hmade he
  · exact Records.saved?_of_mem_dropRegion he
  · rw [hnone] at he
    exact absurd he List.not_mem_nil

/-- What binds or drops a region writes nothing. -/
theorem store_step_of_region? (hs : s.registry.OfFactories) (h : op.region? = some g) :
    (s.step op).session.store = s.store := by
  have hstore : (s.step op).session.store = s.store.apply (s.step op).effects := by
    cases op with
    | bindRegion | dropRegion | rebuild => rfl
    | _ => cases h
  rw [hstore, Store.apply_of_forall_saved?_eq_none]
  exact fun e he => saved?_of_mem_effects_region? hs h he

/-- What records are made from is the same after an operation on regions. -/
theorem workshop_step_of_region? (hs : s.registry.OfFactories) (h : op.region? = some g) :
    (s.step op).session.workshop = s.workshop := by
  have hframe := sameFrame_step (s := s) op
  rw [workshop, workshop, hframe.registry, hframe.config, store_step_of_region? hs h]

/-- The other regions are as before. -/
theorem live_step_of_region? (hs : s.records.WellFormed) (h : op.region? = some g)
    (hid : id ≠ g.id) :
    (s.step op).session.records.live.get? id = s.records.live.get? id ∧
      (s.step op).session.records.bound? id = s.records.bound? id := by
  rcases step_of_region? (s := s) h with hmade | rfl | ⟨-, hsession, -⟩
  · rw [records_of_made? hmade, Records.get?_live_bindRegion, if_neg hid.symm]
    exact ⟨rfl, Records.bound?_bindRegion_of_ne hs _ hid⟩
  · refine ⟨?_, Records.bound?_dropRegion_of_ne _ hid⟩
    exact (Records.get?_live_dropRegion ..).trans (if_neg hid.symm)
  · rw [hsession]
    exact ⟨rfl, rfl⟩

/-! ## Runs -/

theorem RecordsChange.isSome_live {r : Records} (h : s.RecordsChange op r)
    (hregion : op.region? = none) (id : String) :
    (r.live.get? id).isSome = (s.records.live.get? id).isSome := by
  cases h with
  | same | mount | copy | setForm => rfl
  | update => exact Records.isSome_live_replace ..
  | bind hop | drop hop | rebuild hop =>
    subst hop
    cases hregion

/-- The other operations bind no region and drop none. -/
theorem isSome_live_step (h : op.region? = none) (id : String) :
    ((s.step op).session.records.live.get? id).isSome = (s.records.live.get? id).isSome :=
  (recordsChange_step s op).isSome_live h id

/-- **A region is bound after an operation** just if the operation binds it, or it was bound and is
not dropped. -/
theorem isSome_bound?_step (s : Session) (op : Op) (id : String) :
    ((s.step op).session.records.bound? id).isSome ↔
      op.Binds id ∨ (s.records.bound? id).isSome ∧ ¬op.Drops id := by
  rw [Records.isSome_bound?, Records.isSome_bound?, Op.Binds, Op.Drops]
  cases hregion : op.region? with
  | none =>
    obtain ⟨hmade, hdropped⟩ := Op.eq_none_of_region? hregion
    simp [isSome_live_step hregion, hmade, hdropped]
  | some g =>
    rcases step_of_region? (s := s) hregion with hmade | rfl | ⟨⟨hmade, hdropped⟩, hsession, -⟩
    · have hdropped : op.dropped? = none := Op.dropped?_of_made? hmade
      rw [records_of_made? hmade, Records.get?_live_bindRegion, hmade, hdropped]
      by_cases hid : g.id = id <;> simp [hid]
    · show ((s.records.dropRegion g).1.live.get? id).isSome ↔ _
      rw [Records.get?_live_dropRegion]
      by_cases hid : g.id = id <;> simp [Op.made?, Op.dropped?, hid]
    · simp [hsession, hmade, hdropped]

/-- **What is bound was bound last**, by one of the operations or before them, and not dropped
since. -/
theorem isSome_bound?_run (s : Session) (ops : List Op) (id : String) :
    ((s.run ops).1.records.bound? id).isSome ↔
      (∃ before op after, ops = before ++ op :: after ∧ op.Binds id ∧ ∀ op' ∈ after, ¬op'.Drops id) ∨
        (s.records.bound? id).isSome ∧ ∀ op ∈ ops, ¬op.Drops id := by
  induction ops generalizing s with
  | nil => simp
  | cons op ops ih =>
    rw [run_cons, ih, isSome_bound?_step, List.forall_mem_cons]
    constructor
    · rintro (⟨before, op', after, rfl, hbinds, hafter⟩ | ⟨hbinds | ⟨hbound, hop⟩, hops⟩)
      · exact .inl ⟨op :: before, op', after, rfl, hbinds, hafter⟩
      · exact .inl ⟨[], op, ops, rfl, hbinds, hops⟩
      · exact .inr ⟨hbound, hop, hops⟩
    · rintro (⟨before, op', after, heq, hbinds, hafter⟩ | ⟨hbound, hop, hops⟩)
      · cases before with
        | nil =>
          obtain ⟨rfl, rfl⟩ := List.cons.inj heq
          exact .inr ⟨.inl hbinds, hafter⟩
        | cons first before =>
          obtain ⟨-, rfl⟩ := List.cons.inj heq
          exact .inl ⟨before, op', after, rfl, hbinds, hafter⟩
      · exact .inr ⟨.inr ⟨hbound, hop⟩, hops⟩

/-- A region that is made anew has the records that its sites ask for now. -/
theorem bound?_of_made? (h : op.made? = some g) :
    (s.step op).session.records.bound? g.id = some (s.workshop.records g.sites) := by
  rw [records_of_made? h, Records.bound?_bindRegion]

theorem bound?_run_of_mem_waysToMake (hs : s.registry.OfFactories) {way : List Op}
    (h : way ∈ Op.waysToMake g) :
    (s.run way).1.records.bound? g.id = some (s.workshop.records g.sites) := by
  simp only [Op.waysToMake, List.mem_cons, List.not_mem_nil, or_false] at h
  rcases h with rfl | rfl | rfl
  · exact bound?_of_made? rfl
  · exact bound?_of_made? rfl
  · -- the first time leaves the store alone, so the second time finds it as it was
    have hworkshop : (s.step (.bindRegion g)).session.workshop = s.workshop :=
      workshop_step_of_region? hs rfl
    rw [← hworkshop]
    exact bound?_of_made? rfl

/-! ## Any history -/

/-- What is promised of the next operation on a region. -/
structure RenewsRegions (s : Session) : Prop where
  /-- Binding a region leaves in it what the registry makes from its elements and the store, for
  each element whose component is known. -/
  made : ∀ {op g}, op.made? = some g →
    (s.step op).session.records.bound? g.id = some (s.workshop.records g.sites)
  /-- On the way each element whose component is unknown is warned about once. -/
  warned : ∀ g, (s.step (.bindRegion g)).effects = s.workshop.effects g.id g.sites ∧
    (s.step (.rebuild g true true)).effects =
      (s.step (.dropRegion g)).effects ++ s.workshop.effects g.id g.sites
  /-- The new quick forms are no two the same, and none was held before, in any place. -/
  fresh : ∀ {op g cs}, op.made? = some g →
    (s.step op).session.records.live.get? g.id = some cs →
      (Records.references cs).Nodup ∧
        ∀ a c, s.records.find? a = some c → ∀ id, c.quickForm? = some id →
          id ∉ Records.references cs
  /-- What was bound before is forgotten.  All ways to bind a region leave the same in it, in any
  two sessions with the same store, registry and configuration. -/
  forgets : ∀ {t : Session} {g way way'}, t.workshop = s.workshop →
    way ∈ Op.waysToMake g → way' ∈ Op.waysToMake g →
      (t.run way').1.records.bound? g.id = (s.run way).1.records.bound? g.id
  storeless : ∀ {op g}, op.region? = some g →
    (s.step op).session.store = s.store ∧ ∀ e ∈ (s.step op).effects, e.saved? = none
  /-- The other regions are as they were, with their records. -/
  others : ∀ {op g id}, op.region? = some g → id ≠ g.id →
    (s.step op).session.records.live.get? id = s.records.live.get? id ∧
      (s.step op).session.records.bound? id = s.records.bound? id

theorem renewsRegions (hs : s.records.WellFormed) (hregistry : s.registry.OfFactories) :
    s.RenewsRegions where
  made := bound?_of_made?
  warned g := ⟨effects_bindRegion s g, effects_rebuild s g⟩
  fresh := by
    intro op g cs hop hcs
    rw [records_of_made? hop, Records.get?_live_bindRegion, if_pos rfl] at hcs
    obtain ⟨hnodup, hle⟩ :=
      Records.references_makeRecords s.workshop g.id g.sites s.records.forms
    rw [Option.some.inj hcs] at hnodup hle
    refine ⟨hnodup, fun a c hc id hid hmem => ?_⟩
    -- what is held is in the table, and what is new was not
    exact absurd (hs.has hc id hid) (Nat.not_lt.2 (hle id hmem))
  forgets := by
    intro t g way way' hworkshop hway hway'
    have ht : t.registry = s.registry := congrArg Workshop.registry hworkshop
    rw [bound?_run_of_mem_waysToMake (ht ▸ hregistry) hway',
      bound?_run_of_mem_waysToMake hregistry hway, hworkshop]
  storeless hop :=
    ⟨store_step_of_region? hregistry hop, fun _ => saved?_of_mem_effects_region? hregistry hop⟩
  others hop hid := live_step_of_region? hs hop hid

/-- The start of a session with a registry of its own. -/
def startWith (registry : Registry) (config : Config) (page : Page) (store : Store) : Session :=
  { start config page store with registry := registry }

/-- What is promised of the regions of a session after some operations. -/
structure RegionsFollow (s : Session) (ops : List Op) : Prop where
  /-- A region is bound if it was bound once and not dropped since. -/
  bound_iff : ∀ id, ((s.run ops).1.records.bound? id).isSome ↔
    ∃ before op after, ops = before ++ op :: after ∧ op.Binds id ∧ ∀ op' ∈ after, ¬op'.Drops id
  renews : (s.run ops).1.RenewsRegions

/-- **What is bound after any history** is a matter of the last binding and of the store then. -/
theorem regions_follow {registry : Registry} (h : registry.OfFactories) (config : Config)
    (page : Page) (store : Store) (ops : List Op) :
    (startWith registry config page store).RegionsFollow ops where
  bound_iff id := by
    have hstart : ((startWith registry config page store).records.bound? id).isSome = false := rfl
    rw [isSome_bound?_run, hstart]
    simp
  renews := by
    have hframe := sameFrame_run (startWith registry config page store) ops
    refine renewsRegions (wellFormed_run Records.wellFormed_empty ops) ?_
    rw [hframe.registry]
    exact h

/-- A registry with two of the application's recipes under other names. -/
def renamed : Registry :=
  Registry.empty.registerAll
    [("reports", Registry.restored "nav-laporan" false),
      ("form", Registry.always (.quickForm .idle))]

theorem ofFactories_renamed : renamed.OfFactories := by
  refine ⟨_, fun e he => ?_, rfl⟩
  rcases List.mem_cons.1 he with rfl | he
  · exact List.mem_of_getElem? (i := 9) rfl
  · rw [List.mem_singleton.1 he]
    exact List.mem_of_getElem? (i := 17) rfl

/-- A region is bound, with an element that nobody knows, its section is opened, and it is bound
anew. -/
def reopened : List Op :=
  [.bindRegion ⟨"side", [⟨"reports", .bare⟩, ⟨"nobody", .bare⟩, ⟨"form", .bare⟩]⟩,
    .invoke (.bound "side" 0) "toggle" ⟨none, none⟩,
    .rebuild ⟨"side", [⟨"form", .bare⟩, ⟨"reports", .bare⟩]⟩ true true]

theorem regions_follow_reopened :
    renamed.OfFactories ∧
      (startWith renamed .standard ⟨.empty, []⟩ .empty).RegionsFollow reopened ∧
        ((startWith renamed .standard ⟨.empty, []⟩ .empty).run reopened).1.records.bound? "side" =
          some [.quickForm .idle, .nav ⟨true, some "_x_nav-laporan"⟩] :=
  ⟨ofFactories_renamed, regions_follow ofFactories_renamed .., by decide +kernel⟩

end Session

end AccountingPage
