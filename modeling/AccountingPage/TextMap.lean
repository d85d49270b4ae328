/-!
# Maps from text, in the order of their keys

A page keeps most of what it knows under names: account choices, formula variables, stored flags,
component recipes, the records of a swapped region.  Whenever such a collection is listed, the
names come in ascending order of their code points, whatever the order of the writes.  So the map
*is* its list of entries in that order, and the order is part of the type.

* `TextMap` is the type; `get?` reads an entry, `insert` writes one, `erase` removes one.
* `get?_insert` and `get?_erase` say what each does to the view `get?`.
* `ext_get?` says that the view determines the map, so two histories of writes that leave the same
  answers leave the same map.
-/

set_option autoImplicit false

namespace AccountingPage

/-- A finite map from text: its entries, each key strictly before the next. -/
structure TextMap (α : Type) where
  entries : List (String × α)
  ascending : entries.Pairwise (fun a b => a.1 < b.1)

namespace TextMap

variable {α β : Type}

/-! ## Entries in ascending order -/

/-- Strictly ascending in key. -/
abbrev Ascending (l : List (String × α)) : Prop := l.Pairwise (fun a b => a.1 < b.1)

/-- Writes `k`, in the place of an entry of that key or else where the order wants it. -/
def insertEntry (k : String) (v : α) : List (String × α) → List (String × α)
  | [] => [(k, v)]
  | (k', v') :: rest =>
    if k < k' then (k, v) :: (k', v') :: rest
    else if k = k' then (k, v) :: rest
    else (k', v') :: insertEntry k v rest

/-- The order of texts is total. -/
theorem lt_of_not_lt_of_ne {a b : String} (h : ¬a < b) (hne : a ≠ b) : b < a := by
  rcases Decidable.em (b < a) with hb | hb
  · exact hb
  · exact absurd (String.le_antisymm (String.not_lt.1 hb) (String.not_lt.1 h)) hne

theorem mem_insertEntry {k : String} {v : α} {e : String × α} {l : List (String × α)}
    (h : e ∈ insertEntry k v l) : e = (k, v) ∨ e ∈ l := by
  induction l with
  | nil => simpa [insertEntry] using h
  | cons hd tl ih =>
    obtain ⟨k', v'⟩ := hd
    rw [insertEntry] at h
    split at h
    · simpa using h
    · split at h
      · rcases List.mem_cons.1 h with h | h
        · exact .inl h
        · exact .inr (List.mem_cons_of_mem _ h)
      · rcases List.mem_cons.1 h with h | h
        · exact .inr (h ▸ List.mem_cons_self)
        · exact (ih h).imp_right (List.mem_cons_of_mem _)

/-- Writing keeps the order. -/
theorem ascending_insertEntry (k : String) (v : α) {l : List (String × α)} (h : Ascending l) :
    Ascending (insertEntry k v l) := by
  induction l with
  | nil => exact List.pairwise_singleton _ _
  | cons hd tl ih =>
    obtain ⟨k', v'⟩ := hd
    obtain ⟨hhd, htl⟩ := List.pairwise_cons.1 h
    rw [insertEntry]
    split
    case isTrue hlt =>
      refine List.pairwise_cons.2 ⟨fun e he => ?_, h⟩
      rcases List.mem_cons.1 he with he | he
      · exact he ▸ hlt
      · exact String.lt_trans hlt (hhd e he)
    case isFalse hlt =>
      split
      case isTrue heq => exact List.pairwise_cons.2 ⟨fun e he => heq ▸ hhd e he, htl⟩
      case isFalse hne =>
        refine List.pairwise_cons.2 ⟨fun e he => ?_, ih htl⟩
        rcases mem_insertEntry he with he | he
        · exact he ▸ lt_of_not_lt_of_ne hlt hne
        · exact hhd e he

/-- The value written under `k`. -/
def lookupEntry (k : String) : List (String × α) → Option α
  | [] => none
  | (k', v) :: rest => if k' = k then some v else lookupEntry k rest

/-- What has been written is found, and nothing else has changed. -/
theorem lookupEntry_insertEntry (k k' : String) (v : α) (l : List (String × α)) :
    lookupEntry k' (insertEntry k v l) = if k = k' then some v else lookupEntry k' l := by
  induction l with
  | nil => rfl
  | cons hd tl ih =>
    obtain ⟨a, b⟩ := hd
    rw [insertEntry]
    split
    · rfl
    · split
      · rename_i heq
        subst heq
        by_cases h : k = k' <;> simp [lookupEntry, h]
      · rename_i hne
        by_cases h : a = k'
        · subst h
          simp [lookupEntry, hne]
        · simp [lookupEntry, h, ih]

theorem lookupEntry_filter_ne (k k' : String) (l : List (String × α)) :
    lookupEntry k' (l.filter (fun e => e.1 != k))
      = if k = k' then none else lookupEntry k' l := by
  induction l with
  | nil => simp [lookupEntry]
  | cons hd tl ih =>
    obtain ⟨a, b⟩ := hd
    by_cases ha : a = k
    · subst ha
      rw [List.filter_cons_of_neg (by simp), ih, lookupEntry]
      by_cases h : a = k' <;> simp [h]
    · rw [List.filter_cons_of_pos (by simpa using ha), lookupEntry, lookupEntry, ih]
      by_cases h : a = k'
      · subst h
        simp [Ne.symm ha]
      · simp [h]

/-- A key before all others is not there. -/
theorem lookupEntry_eq_none_of_lt {k : String} {l : List (String × α)}
    (h : ∀ e ∈ l, k < e.1) : lookupEntry k l = none := by
  induction l with
  | nil => rfl
  | cons hd tl ih =>
    obtain ⟨a, b⟩ := hd
    have hne : a ≠ k := fun he => String.lt_irrefl _ (he ▸ h (a, b) List.mem_cons_self)
    rw [lookupEntry, if_neg hne]
    exact ih fun e he => h e (List.mem_cons_of_mem _ he)

/-- Two lists in ascending order that answer alike are the same: their first keys are, since the
smaller one would be missing from the other list. -/
theorem eq_of_lookupEntry_eq {l l' : List (String × α)} (h : Ascending l) (h' : Ascending l')
    (heq : ∀ k, lookupEntry k l = lookupEntry k l') : l = l' := by
  induction l generalizing l' with
  | nil =>
    cases l' with
    | nil => rfl
    | cons e l' => simpa [lookupEntry] using heq e.1
  | cons a l ih =>
    cases l' with
    | nil => simpa [lookupEntry] using heq a.1
    | cons b l' =>
      obtain ⟨ha, hl⟩ := List.pairwise_cons.1 h
      obtain ⟨hb, hl'⟩ := List.pairwise_cons.1 h'
      obtain ⟨ka, va⟩ := a
      obtain ⟨kb, vb⟩ := b
      have hkey : ka = kb := by
        rcases Decidable.em (ka < kb) with hlt | hlt
        · have hnone : lookupEntry ka ((kb, vb) :: l') = none :=
            lookupEntry_eq_none_of_lt fun e he => (List.mem_cons.1 he).elim (fun hh => hh ▸ hlt)
              (fun hh => String.lt_trans hlt (hb e hh))
          have := heq ka
          rw [hnone, lookupEntry, if_pos rfl] at this
          exact absurd this (by simp)
        · rcases Decidable.em (kb < ka) with hgt | hgt
          · have hnone : lookupEntry kb ((ka, va) :: l) = none :=
              lookupEntry_eq_none_of_lt fun e he => (List.mem_cons.1 he).elim
                (fun hh => hh ▸ hgt) (fun hh => String.lt_trans hgt (ha e hh))
            have := heq kb
            rw [hnone, lookupEntry, if_pos rfl] at this
            exact absurd this (by simp)
          · exact String.le_antisymm (String.not_lt.1 hgt) (String.not_lt.1 hlt)
      subst hkey
      have hval : va = vb := by simpa [lookupEntry] using heq ka
      subst hval
      refine congrArg ((ka, va) :: ·) (ih hl hl' fun k => ?_)
      by_cases hk : ka = k
      · subst hk
        rw [lookupEntry_eq_none_of_lt ha, lookupEntry_eq_none_of_lt hb]
      · simpa [lookupEntry, hk] using heq k

/-! ## The map and its view -/

def empty : TextMap α := ⟨[], List.Pairwise.nil⟩

instance : Inhabited (TextMap α) := ⟨empty⟩

instance [DecidableEq α] : DecidableEq (TextMap α) := fun a b =>
  decidable_of_iff (a.entries = b.entries)
    ⟨fun h => by cases a; cases b; cases h; rfl, fun h => h ▸ rfl⟩

def get? (m : TextMap α) (k : String) : Option α := lookupEntry k m.entries

/-- Whether there is an entry of the key. -/
def contains (m : TextMap α) (k : String) : Bool := (m.get? k).isSome

/-- Writes an entry, over the one of that key if there is one. -/
def insert (m : TextMap α) (k : String) (v : α) : TextMap α :=
  ⟨insertEntry k v m.entries, ascending_insertEntry k v m.ascending⟩

/-- Removes the entry of a key, if there is one. -/
def erase (m : TextMap α) (k : String) : TextMap α :=
  ⟨m.entries.filter (fun e => e.1 != k), m.ascending.filter _⟩

def keys (m : TextMap α) : List String := m.entries.map (·.1)

def size (m : TextMap α) : Nat := m.entries.length

/-- Writes the entries one after the other, so the last one of a key stays. -/
def ofList (l : List (String × α)) : TextMap α := l.foldl (fun m e => m.insert e.1 e.2) empty

def map (f : α → β) (m : TextMap α) : TextMap β :=
  ⟨m.entries.map fun e => (e.1, f e.2), m.ascending.map _ fun _ _ h => h⟩

@[simp] theorem get?_empty (k : String) : (empty : TextMap α).get? k = none := rfl

@[simp] theorem get?_insert (m : TextMap α) (k k' : String) (v : α) :
    (m.insert k v).get? k' = if k = k' then some v else m.get? k' :=
  lookupEntry_insertEntry k k' v m.entries

@[simp] theorem get?_erase (m : TextMap α) (k k' : String) :
    (m.erase k).get? k' = if k = k' then none else m.get? k' :=
  lookupEntry_filter_ne k k' m.entries

/-- **The view determines the map.**  Since the entries stand in one order only, maps that answer
every question alike are equal. -/
theorem ext_get? {m m' : TextMap α} (h : ∀ k, m.get? k = m'.get? k) : m = m' := by
  obtain ⟨l, hl⟩ := m
  obtain ⟨l', hl'⟩ := m'
  rw [TextMap.mk.injEq]
  exact eq_of_lookupEntry_eq hl hl' h

end TextMap

end AccountingPage
