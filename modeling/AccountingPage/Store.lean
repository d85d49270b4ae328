import AccountingPage.Effect

/-!
# Stored flags

The page's store keeps texts under keys.  Open and closed sections are kept in it as JSON booleans.

* `Store.flagAt` reads a flag: nothing if there is no text, or one that is not a boolean, and in
  the second case a warning is logged.
* `flagText` is the text of a flag, `Effect.saveFlag` the effect of writing it.
* `Store.apply` carries out the writes among some effects.
-/

set_option autoImplicit false

namespace AccountingPage

abbrev Store := TextMap String

def flagText (flag : Bool) : String := if flag then "true" else "false"

def Effect.saveFlag (key : String) (flag : Bool) : Effect := .save key (flagText flag)

namespace Store

def flagAt (s : Store) (key : String) : Option Bool × List Effect :=
  match s.get? key with
  | none => (none, [.load key])
  | some text =>
    match Json.document Json.boolean text with
    | .ok flag => (some flag, [.load key])
    | .error e => (none, [.load key, .log (.ignoredFlag key e)])

/-- Carries out the writes, in their order. -/
def apply (s : Store) (effects : List Effect) : Store :=
  (effects.filterMap Effect.saved?).foldl (fun s e => s.insert e.1 e.2) s

theorem apply_of_forall_saved?_eq_none {s : Store} {effects : List Effect}
    (h : ∀ e ∈ effects, e.saved? = none) : s.apply effects = s := by
  rw [apply, List.filterMap_eq_nil_iff.2 h, List.foldl_nil]

theorem saved?_of_mem_flagAt {s : Store} {key : String} {e : Effect} (he : e ∈ (s.flagAt key).2) :
    e.saved? = none := by
  unfold flagAt at he
  split at he
  · simp only [List.mem_singleton] at he
    exact he ▸ rfl
  · split at he
    · simp only [List.mem_singleton] at he
      exact he ▸ rfl
    · simp only [List.mem_cons, List.not_mem_nil, or_false] at he
      rcases he with he | he <;> exact he ▸ rfl

/-- Reading a flag leaves the store as it is. -/
@[simp] theorem apply_flagAt (s t : Store) (key : String) :
    t.apply (s.flagAt key).2 = t :=
  apply_of_forall_saved?_eq_none fun _ => saved?_of_mem_flagAt

end Store

end AccountingPage
