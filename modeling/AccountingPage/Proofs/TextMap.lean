import Mathlib.Data.List.Forall2
import AccountingPage.TextMap

/-!
# Maps from lists of entries

A map that is filled one entry after the other keeps the last one of each key, and when no key
comes twice it does not matter in which order they come.

* `TextMap.get?_ofList` finds an entry by looking from the end.
* `TextMap.ofList_perm` says that the order is forgotten, `TextMap.ofList_entries` that a map is
  made again from its own entries.
* `TextMap.get?_gather_eq_some_iff` is about a map that is gathered from items which need not all
  give an entry: the last item of a key counts, and `TextMap.gather_erase` says which items may be
  taken away.
-/

set_option autoImplicit false

namespace AccountingPage
namespace TextMap

variable {α β : Type}

/-- The entries in front go first. -/
theorem lookupEntry_append (k : String) (l l' : List (String × α)) :
    lookupEntry k (l ++ l') = (lookupEntry k l).or (lookupEntry k l') := by
  induction l with
  | nil => rfl
  | cons e l ih =>
    rw [List.cons_append, lookupEntry, lookupEntry]
    split
    · rfl
    · exact ih

theorem mem_of_lookupEntry_eq_some {k : String} {v : α} {l : List (String × α)}
    (h : lookupEntry k l = some v) : (k, v) ∈ l := by
  induction l with
  | nil => exact absurd h (by simp [lookupEntry])
  | cons e l ih =>
    rw [lookupEntry] at h
    split at h
    · rename_i heq
      rw [← heq, ← Option.some.inj h]
      exact List.mem_cons_self
    · exact List.mem_cons_of_mem _ (ih h)

/-- When no key comes twice, what is found is what is there. -/
theorem lookupEntry_eq_some_iff {k : String} {v : α} {l : List (String × α)}
    (h : (l.map Prod.fst).Nodup) : lookupEntry k l = some v ↔ (k, v) ∈ l := by
  induction l with
  | nil => simp [lookupEntry]
  | cons e l ih =>
    obtain ⟨k', v'⟩ := e
    obtain ⟨hnotMem, hnodup⟩ := List.nodup_cons.1 h
    rw [lookupEntry, List.mem_cons]
    by_cases hk : k' = k
    · subst hk
      rw [if_pos rfl]
      refine ⟨fun hv => .inl (by rw [Option.some.inj hv]), fun hmem => ?_⟩
      rcases hmem with heq | hmem
      · rw [(Prod.mk.inj heq).2]
      · exact absurd (List.mem_map_of_mem hmem) hnotMem
    · rw [if_neg hk, ih hnodup]
      exact ⟨.inr, fun hmem => hmem.resolve_left fun heq => hk (congrArg Prod.fst heq).symm⟩

theorem lookupEntry_eq_none_iff {k : String} {l : List (String × α)} :
    lookupEntry k l = none ↔ k ∉ l.map Prod.fst := by
  induction l with
  | nil => simp [lookupEntry]
  | cons e l ih =>
    rw [lookupEntry, List.map_cons, List.mem_cons, not_or, ← ih]
    by_cases hk : e.1 = k
    · simp [hk]
    · simp [hk, Ne.symm hk]

/-- The first entry of a key is the one that is found. -/
theorem lookupEntry_first {k : String} {before : List (String × α)} (h : k ∉ before.map Prod.fst)
    (v : α) (after : List (String × α)) :
    lookupEntry k (before ++ (k, v) :: after) = some v := by
  rw [lookupEntry_append, lookupEntry_eq_none_iff.2 h, Option.none_or, lookupEntry, if_pos rfl]

/-- When no key comes twice, the order of the entries does not matter. -/
theorem lookupEntry_perm {l l' : List (String × α)} (hperm : l.Perm l')
    (h : (l.map Prod.fst).Nodup) (k : String) : lookupEntry k l = lookupEntry k l' := by
  have h' : (l'.map Prod.fst).Nodup := (hperm.map _).nodup_iff.1 h
  refine Option.ext fun v => ?_
  rw [lookupEntry_eq_some_iff h, lookupEntry_eq_some_iff h', hperm.mem_iff]

/-- Writing entry after entry: the last one of a key counts, and the map from before comes after all
of them. -/
theorem get?_foldl_insert (l : List (String × α)) (m : TextMap α) (k : String) :
    (l.foldl (fun m e => m.insert e.1 e.2) m).get? k = (lookupEntry k l.reverse).or (m.get? k) := by
  induction l generalizing m with
  | nil => rfl
  | cons e l ih =>
    rw [List.foldl_cons, ih, List.reverse_cons, lookupEntry_append, get?_insert, lookupEntry]
    cases lookupEntry k l.reverse with
    | some v => rfl
    | none => split <;> simp [lookupEntry]

/-- The last entry of a key counts. -/
theorem get?_ofList (l : List (String × α)) (k : String) :
    (ofList l).get? k = lookupEntry k l.reverse := by
  rw [ofList, get?_foldl_insert, get?_empty, Option.or_none]

/-- When no key comes twice, a map does not depend on the order in which it is filled. -/
theorem ofList_perm {l l' : List (String × α)} (hperm : l.Perm l') (h : (l.map Prod.fst).Nodup) :
    ofList l = ofList l' := by
  have hrev : l.reverse.Perm l'.reverse :=
    (List.reverse_perm l).trans (hperm.trans (List.reverse_perm l').symm)
  have hnodup : (l.reverse.map Prod.fst).Nodup :=
    ((List.reverse_perm l).map _).nodup_iff.2 h
  refine ext_get? fun k => ?_
  rw [get?_ofList, get?_ofList, lookupEntry_perm hrev hnodup]

/-- No key of a map comes twice, because each is strictly before the next. -/
theorem nodup_keys (m : TextMap α) : (m.entries.map Prod.fst).Nodup := by
  refine List.pairwise_map.2 (m.ascending.imp ?_)
  intro a b hlt heq
  rw [heq] at hlt
  exact String.lt_irrefl _ hlt

theorem ascending_keys (m : TextMap α) : m.keys.Pairwise (· < ·) := List.pairwise_map.2 m.ascending

theorem contains_iff_mem_keys {m : TextMap α} {k : String} : m.contains k = true ↔ k ∈ m.keys := by
  rw [contains, get?, Option.isSome_iff_ne_none, Ne, lookupEntry_eq_none_iff, not_not, keys]

/-- A map is made again from its entries. -/
theorem ofList_entries (m : TextMap α) : ofList m.entries = m := by
  refine ext_get? fun k => ?_
  rw [get?_ofList, get?, lookupEntry_perm (List.reverse_perm m.entries)]
  exact ((List.reverse_perm m.entries).map _).nodup_iff.2 m.nodup_keys

/-- To write what is there already changes nothing. -/
theorem insert_of_get? {m : TextMap α} {k : String} {v : α} (h : m.get? k = some v) :
    m.insert k v = m := by
  refine ext_get? fun k' => ?_
  rw [get?_insert]
  split
  · rename_i hk
    rw [← hk, h]
  · rfl

theorem size_eq_zero_iff {m : TextMap α} : m.size = 0 ↔ m = empty := by
  rw [size, List.length_eq_zero_iff]
  refine ⟨fun h => ext_get? fun k => ?_, fun h => h ▸ rfl⟩
  rw [get?, h]
  rfl

/-! ## Items that need not give an entry -/

section Gather

variable {γ : Type} {entryOf : γ → Option (String × α)}

/-- What an item says of a key. -/
def says? (entryOf : γ → Option (String × α)) (k : String) (c : γ) : Option α :=
  (entryOf c).bind fun e => if e.1 = k then some e.2 else none

theorem says?_eq_some_iff {k : String} {v : α} {c : γ} :
    says? entryOf k c = some v ↔ entryOf c = some (k, v) := by
  rw [says?, Option.bind_eq_some_iff]
  constructor
  · rintro ⟨e, he, hif⟩
    obtain ⟨rfl, hv⟩ := Option.ite_none_right_eq_some.1 hif
    rw [he, ← Option.some.inj hv]
  · intro he
    exact ⟨(k, v), he, if_pos rfl⟩

theorem says?_eq_none_iff {k : String} {c : γ} :
    says? entryOf k c = none ↔ ∀ v, entryOf c ≠ some (k, v) := by
  rw [Option.eq_none_iff_forall_ne_some]
  exact forall_congr' fun v => not_congr says?_eq_some_iff

/-- The first item that says something of the key is the one that is found. -/
theorem lookupEntry_filterMap (entryOf : γ → Option (String × α)) (k : String) (l : List γ) :
    lookupEntry k (l.filterMap entryOf) = l.findSome? (says? entryOf k) := by
  induction l with
  | nil => rfl
  | cons c l ih =>
    rw [List.filterMap_cons, List.findSome?_cons, says?]
    cases entryOf c with
    | none => exact ih
    | some e =>
      rw [lookupEntry, ih, Option.bind_some]
      split <;> rfl

/-- In a map that is filled from items, the items are asked from the last one on. -/
theorem get?_gather (entryOf : γ → Option (String × α)) (l : List γ) (k : String) :
    (ofList (l.filterMap entryOf)).get? k = l.reverse.findSome? (says? entryOf k) := by
  rw [get?_ofList, ← List.filterMap_reverse, lookupEntry_filterMap]

/-- **The last item of a key counts.** -/
theorem get?_gather_eq_some_iff {l : List γ} {k : String} {v : α} :
    (ofList (l.filterMap entryOf)).get? k = some v ↔
      ∃ before c after, l = before ++ c :: after ∧ entryOf c = some (k, v) ∧
        ∀ d ∈ after, ∀ w, entryOf d ≠ some (k, w) := by
  rw [get?_gather, List.findSome?_eq_some_iff]
  constructor
  · rintro ⟨after, c, before, hl, hc, hafter⟩
    refine ⟨before.reverse, c, after.reverse, ?_, says?_eq_some_iff.1 hc, fun d hd => ?_⟩
    · rw [← List.reverse_reverse l, hl]
      simp
    · exact says?_eq_none_iff.1 (hafter d (List.mem_reverse.1 hd))
  · rintro ⟨before, c, after, rfl, hc, hafter⟩
    refine ⟨after.reverse, c, before.reverse, by simp, says?_eq_some_iff.2 hc, fun d hd => ?_⟩
    exact says?_eq_none_iff.2 (hafter d (List.mem_reverse.1 hd))

/-- A key is missing just if no item says anything of it. -/
theorem get?_gather_eq_none_iff {l : List γ} {k : String} :
    (ofList (l.filterMap entryOf)).get? k = none ↔ ∀ c ∈ l, ∀ v, entryOf c ≠ some (k, v) := by
  simp only [get?_gather, List.findSome?_eq_none_iff, List.mem_reverse, says?_eq_none_iff]

/-- A map stays empty just if no item gives an entry. -/
theorem gather_eq_empty_iff {l : List γ} :
    ofList (l.filterMap entryOf) = empty ↔ ∀ c ∈ l, entryOf c = none := by
  constructor
  · intro h c hc
    refine Option.eq_none_iff_forall_ne_some.2 fun e he => ?_
    have hnone : (ofList (l.filterMap entryOf)).get? e.1 = none := by rw [h, get?_empty]
    exact get?_gather_eq_none_iff.1 hnone c hc e.2 he
  · intro h
    refine ext_get? fun k => ?_
    rw [get?_empty, get?_gather_eq_none_iff]
    intro c hc v hv
    exact absurd (hv.symm.trans (h c hc)) (by simp)

/-- An item may be taken away if what it says is said again after it, or if it says nothing. -/
theorem gather_erase {before after : List γ} {c : γ}
    (h : ∀ k v, entryOf c = some (k, v) → ∃ d ∈ after, ∃ w, entryOf d = some (k, w)) :
    ofList ((before ++ c :: after).filterMap entryOf) =
      ofList ((before ++ after).filterMap entryOf) := by
  refine ext_get? fun k => ?_
  simp only [get?_gather, List.reverse_append, List.reverse_cons, List.append_assoc,
    List.findSome?_append]
  cases hafter : after.reverse.findSome? (says? entryOf k) with
  | some v => rfl
  | none =>
    have hc : says? entryOf k c = none := says?_eq_none_iff.2 fun v hv => by
      obtain ⟨d, hd, w, hw⟩ := h k v hv
      have hnone := List.findSome?_eq_none_iff.1 hafter d (List.mem_reverse.2 hd)
      exact says?_eq_none_iff.1 hnone w hw
    simp [hc]

/-- If no two items say something of the same key, their order does not matter. -/
theorem gather_perm {l l' : List γ} (hperm : l.Perm l')
    (h : l.Pairwise fun c d => ∀ k v w, ¬(entryOf c = some (k, v) ∧ entryOf d = some (k, w))) :
    ofList (l.filterMap entryOf) = ofList (l'.filterMap entryOf) := by
  refine ofList_perm (hperm.filterMap entryOf) (List.pairwise_map.2 (List.pairwise_filterMap.2 ?_))
  refine h.imp fun hcd e he e' he' heq => ?_
  exact hcd e.1 e.2 e'.2 ⟨he, by rw [heq]; exact he'⟩

/-- Items that give the same, one by one, give the same list. -/
theorem filterMap_congr {β : Type} {g : γ → Option β} {l l' : List γ}
    (h : List.Forall₂ (fun c d => g c = g d) l l') : l.filterMap g = l'.filterMap g := by
  induction h with
  | nil => rfl
  | cons heq _ ih => rw [List.filterMap_cons, List.filterMap_cons, heq, ih]

theorem gather_congr {l l' : List γ}
    (h : List.Forall₂ (fun c d => entryOf c = entryOf d) l l') :
    ofList (l.filterMap entryOf) = ofList (l'.filterMap entryOf) :=
  congrArg ofList (filterMap_congr h)

end Gather

end TextMap
end AccountingPage
