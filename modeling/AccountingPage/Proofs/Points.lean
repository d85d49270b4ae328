import Mathlib.Data.List.InsertIdx
import AccountingPage.Proofs.Grouping

/-!
# Points in any text

Grouping is meant for digits, but nothing keeps other texts from it.  It counts what is left in
bytes and what is behind it in characters, so in a text of longer characters the points move to
other places.  Here is where they go in any text, and why the counting is safe: a text has at least
as many bytes as characters.

* `pointIndices` are the characters of a text that get a point before them, and `pointPlaces` where
  these points stand in the end.
* `insertPoints` and `takeAway` put characters in and take them out one by one, each time the last
  one first.  `takeAway_insertPoints` says that they undo each other.
* `groupThousands?` is the grouping with a subtraction that can fail, and `groupThousands?_eq` says
  that it never does.
* `PutsPoints` is what is promised of every text, and `groupThousands_putsPoints` proves it.
-/

set_option autoImplicit false

namespace AccountingPage

/-! ## Putting points in, and taking them out

A point that is put in moves what stands behind it.  Working from the right, each index still means
what it meant in the text as it was. -/

/-- Puts a point before each of the characters with these indices. -/
def insertPoints (is : List Nat) (cs : List Char) : List Char :=
  is.foldr (fun i cs => cs.insertIdx i '.') cs

/-- Takes away the characters at these places. -/
def takeAway (js : List Nat) (cs : List Char) : List Char :=
  js.foldr (fun j cs => cs.eraseIdx j) cs

theorem insertPoints_cons (i : Nat) (is : List Nat) (cs : List Char) :
    insertPoints (i :: is) cs = (insertPoints is cs).insertIdx i '.' := rfl

theorem takeAway_cons (j : Nat) (js : List Nat) (cs : List Char) :
    takeAway (j :: js) cs = (takeAway js cs).eraseIdx j := rfl

/-- Where the points stand that are put in at some indices: each has been moved by those that come
before it. -/
def placesOf (is : List Nat) : List Nat := is.zipIdx.map fun e => e.1 + e.2

theorem placesOf_cons (i : Nat) (is : List Nat) :
    placesOf (i :: is) = i :: (placesOf is).map (· + 1) := by
  rw [placesOf, placesOf, List.zipIdx_cons, List.zipIdx_succ, List.map_cons, List.map_map,
    List.map_map]
  rfl

/-- No point is moved to the left. -/
theorem exists_le_of_mem_placesOf {is : List Nat} {j : Nat} (h : j ∈ placesOf is) :
    ∃ i ∈ is, i ≤ j := by
  obtain ⟨⟨i, k⟩, hmem, rfl⟩ := List.mem_map.1 h
  exact ⟨i, List.fst_mem_of_mem_zipIdx hmem, Nat.le_add_right i k⟩

theorem insertPoints_map_succ (is : List Nat) (c : Char) (cs : List Char) :
    insertPoints (is.map (· + 1)) (c :: cs) = c :: insertPoints is cs := by
  induction is with
  | nil => rfl
  | cons i is ih =>
    rw [List.map_cons, insertPoints_cons, ih, List.insertIdx_succ_cons, insertPoints_cons]

/-- Going through a text from the left, with a point before some of the characters, comes to the
same. -/
theorem flatMap_zipIdx_eq_insertPoints (p : Nat → Bool) (cs : List Char) :
    (cs.zipIdx.flatMap fun e => if p e.2 = true then ['.', e.1] else [e.1]) =
      insertPoints ((List.range cs.length).filter p) cs := by
  induction cs generalizing p with
  | nil => rfl
  | cons c cs ih =>
    -- behind the first character the indices are one higher
    have htail : ((cs.zipIdx 1).flatMap fun e => if p e.2 = true then ['.', e.1] else [e.1]) =
        insertPoints ((List.range cs.length).filter fun i => p (i + 1)) cs := by
      rw [← ih, List.zipIdx_succ, List.flatMap_map]
    have hindices : (List.range (c :: cs).length).filter p =
        (if p 0 = true then [0] else []) ++
          ((List.range cs.length).filter fun i => p (i + 1)).map (· + 1) := by
      rw [List.length_cons, List.range_succ_eq_map, List.filter_cons, List.filter_map]
      split <;> rfl
    rw [List.zipIdx_cons, List.flatMap_cons, Nat.zero_add, htail, hindices]
    split
    · rw [List.singleton_append, insertPoints_cons, insertPoints_map_succ, List.insertIdx_zero]
      rfl
    · rw [List.nil_append, insertPoints_map_succ]
      rfl

theorem length_insertPoints {is : List Nat} {cs : List Char} (h : ∀ i ∈ is, i ≤ cs.length) :
    (insertPoints is cs).length = cs.length + is.length := by
  induction is with
  | nil => rfl
  | cons i is ih =>
    obtain ⟨hi, his⟩ := List.forall_mem_cons.1 h
    have hlength := ih his
    rw [insertPoints_cons, List.length_insertIdx_of_le_length (by omega), hlength, List.length_cons]
    omega

/-- A point that stands further left can be put in before or after something is taken away. -/
theorem eraseIdx_insertIdx_succ {i j : Nat} {cs : List Char} (hi : i ≤ cs.length) (hij : i ≤ j) :
    (cs.insertIdx i '.').eraseIdx (j + 1) = (cs.eraseIdx j).insertIdx i '.' := by
  by_cases hj : j < cs.length
  · exact (List.insertIdx_eraseIdx_of_le hj hij).symm
  · have hlength := List.length_insertIdx_of_le_length hi '.'
    rw [List.eraseIdx_of_length_le (by omega), List.eraseIdx_of_length_le (by omega)]

theorem takeAway_map_succ {i : Nat} {js : List Nat} {cs : List Char}
    (hi : i ≤ (takeAway js cs).length) (hjs : ∀ j ∈ js, i ≤ j) :
    takeAway (js.map (· + 1)) (cs.insertIdx i '.') = (takeAway js cs).insertIdx i '.' := by
  induction js with
  | nil => rfl
  | cons j js ih =>
    obtain ⟨hj, hjs⟩ := List.forall_mem_cons.1 hjs
    have hlength : (takeAway (j :: js) cs).length ≤ (takeAway js cs).length :=
      List.length_eraseIdx_le _ j
    rw [List.map_cons, takeAway_cons, ih (by omega) hjs, eraseIdx_insertIdx_succ (by omega) hj,
      takeAway_cons]

variable {is : List Nat} {cs : List Char}

/-- **Taking the points away leaves the text as it was.** -/
theorem takeAway_insertPoints (hascending : is.Pairwise (· < ·)) (h : ∀ i ∈ is, i ≤ cs.length) :
    takeAway (placesOf is) (insertPoints is cs) = cs := by
  induction is with
  | nil => rfl
  | cons i is ih =>
    obtain ⟨hi, his⟩ := List.forall_mem_cons.1 h
    obtain ⟨hlt, hascending⟩ := List.pairwise_cons.1 hascending
    have htail := ih hascending his
    have hplaces : ∀ j ∈ placesOf is, i ≤ j := by
      intro j hj
      obtain ⟨i', hi', hle⟩ := exists_le_of_mem_placesOf hj
      exact Nat.le_trans (Nat.le_of_lt (hlt i' hi')) hle
    calc takeAway (placesOf (i :: is)) (insertPoints (i :: is) cs)
        = (takeAway ((placesOf is).map (· + 1)) ((insertPoints is cs).insertIdx i '.')).eraseIdx i := by
          rw [placesOf_cons, takeAway_cons, insertPoints_cons]
      _ = (cs.insertIdx i '.').eraseIdx i := by
          rw [takeAway_map_succ (htail.symm ▸ hi) hplaces, htail]
      _ = cs := List.eraseIdx_insertIdx_self '.'

/-- There is a point at each of the places. -/
theorem getElem?_insertPoints (hascending : is.Pairwise (· < ·)) (h : ∀ i ∈ is, i ≤ cs.length) :
    ∀ j ∈ placesOf is, (insertPoints is cs)[j]? = some '.' := by
  induction is with
  | nil => exact nofun
  | cons i is ih =>
    obtain ⟨hi, his⟩ := List.forall_mem_cons.1 h
    obtain ⟨hlt, hascending⟩ := List.pairwise_cons.1 hascending
    have hlength := length_insertPoints his
    intro j hj
    rw [insertPoints_cons]
    rw [placesOf_cons] at hj
    rcases List.mem_cons.1 hj with rfl | hj
    · rw [List.getElem?_insertIdx_self, if_pos (by omega)]
    · obtain ⟨j, hmem, rfl⟩ := List.mem_map.1 hj
      obtain ⟨i', hi', hle⟩ := exists_le_of_mem_placesOf hmem
      have hlt' := hlt i' hi'
      rw [List.getElem?_insertIdx_of_gt (by omega)]
      exact ih hascending his j hmem

/-! ## Bytes and characters -/

theorem length_le_utf8ByteSize (s : String) : s.length ≤ s.utf8ByteSize := by
  have hlist : ∀ cs : List Char, cs.length ≤ (String.ofList cs).utf8ByteSize := by
    intro cs
    induction cs with
    | nil => exact Nat.zero_le _
    | cons c cs ih =>
      have hpos := c.utf8Size_pos
      rw [String.ofList_cons, String.utf8ByteSize_append, String.utf8ByteSize_singleton,
        List.length_cons]
      omega
  rw [← String.length_toList, ← s.ofList_toList, String.toList_ofList]
  exact hlist s.toList

/-! ## A subtraction that can fail -/

/-- How many of the bytes are left behind the first `i`, if there are so many. -/
def bytesLeft? (bytes i : Nat) : Option Nat := if i ≤ bytes then some (bytes - i) else none

/-- A character, with its point if it gets one.  For the first one nothing is subtracted. -/
def piece? (bytes : Nat) (e : Char × Nat) : Option (List Char) :=
  if 0 < e.2 then
    (bytesLeft? bytes e.2).map fun left => if left % 3 = 0 then ['.', e.1] else [e.1]
  else some [e.1]

/-- Groups a text, unless a subtraction fails on the way. -/
def groupThousands? (s : String) : Option String :=
  (s.toList.zipIdx.mapM (piece? s.utf8ByteSize)).map fun pieces => String.ofList pieces.flatten

theorem piece?_eq {bytes : Nat} {e : Char × Nat} (h : e.2 ≤ bytes) :
    piece? bytes e =
      some (if 0 < e.2 ∧ (bytes - e.2) % 3 = 0 then ['.', e.1] else [e.1]) := by
  rw [piece?, bytesLeft?, if_pos h, Option.map_some]
  by_cases hpos : 0 < e.2
  · simp only [hpos, if_true, true_and]
  · simp only [hpos, if_false, false_and]

theorem mapM_eq_some_map {α β : Type} {f : α → Option β} {g : α → β} {l : List α}
    (h : ∀ a ∈ l, f a = some (g a)) : l.mapM f = some (l.map g) := by
  induction l with
  | nil => rfl
  | cons a l ih =>
    obtain ⟨ha, hl⟩ := List.forall_mem_cons.1 h
    rw [List.mapM_cons, ha, ih hl]
    rfl

/-- **No subtraction fails.** -/
theorem groupThousands?_eq (s : String) : groupThousands? s = some (groupThousands s) := by
  have hpieces : ∀ e ∈ s.toList.zipIdx, piece? s.utf8ByteSize e =
      some (if 0 < e.2 ∧ (s.utf8ByteSize - e.2) % 3 = 0 then ['.', e.1] else [e.1]) := by
    intro e he
    have hlt := List.snd_lt_of_mem_zipIdx he
    have hle := length_le_utf8ByteSize s
    rw [String.length_toList] at hlt
    exact piece?_eq (by omega)
  rw [groupThousands?, mapM_eq_some_map hpieces, Option.map_some, groupThousands, List.flatMap_def]

/-! ## Any text -/

/-- The indices of the characters that get a point before them: a multiple of three bytes is left
from there on, if those before it were one byte each. -/
def pointIndices (s : String) : List Nat :=
  (List.range s.length).filter fun i => 0 < i ∧ (3 : Int) ∣ s.utf8ByteSize - i

/-- Where the points stand in the grouped text. -/
def pointPlaces (s : String) : List Nat := placesOf (pointIndices s)

theorem toList_groupThousands_eq_insertPoints (s : String) :
    (groupThousands s).toList = insertPoints (pointIndices s) s.toList := by
  have hindices : pointIndices s = (List.range s.toList.length).filter fun i =>
      0 < i ∧ (s.utf8ByteSize - i) % 3 = 0 := by
    rw [pointIndices, String.length_toList]
    refine List.filter_congr fun i hi => ?_
    have hle := length_le_utf8ByteSize s
    have hlt := List.mem_range.1 hi
    rw [decide_eq_decide]
    omega
  rw [groupThousands, String.toList_ofList, hindices, ← flatMap_zipIdx_eq_insertPoints]
  simp only [decide_eq_true_eq]

/-- What grouping does with a text, whatever it holds. -/
structure PutsPoints (s : String) : Prop where
  /-- There is a byte left at each character, so no subtraction goes below zero. -/
  inRange : ∀ i < s.length, i < s.utf8ByteSize
  safe : groupThousands? s = some (groupThousands s)
  inserted : (groupThousands s).toList = insertPoints (pointIndices s) s.toList
  length : (groupThousands s).length = s.length + (pointIndices s).length
  points : ∀ j ∈ pointPlaces s, (groupThousands s).toList[j]? = some '.'
  recovered : takeAway (pointPlaces s) (groupThousands s).toList = s.toList
  /-- Digits come in groups of three, but for the first one, which may be shorter.  They are all
  there, zeros in front included. -/
  grouped : (∀ c ∈ s.toList, c.isDigit = true) →
    (s = "" ∧ groupThousands s = "" ∨
      ∃ g : Grouping, g.digits = s.toList ∧ groupThousands s = g.text) ∧
      digitsOf (groupThousands s) = s

/-- **Grouping puts points into a text and changes nothing else**, and it can do so with every
text. -/
theorem groupThousands_putsPoints (s : String) : PutsPoints s := by
  have hascending : (pointIndices s).Pairwise (· < ·) :=
    List.Pairwise.filter _ List.pairwise_lt_range
  have hle : ∀ i ∈ pointIndices s, i ≤ s.toList.length := by
    intro i hi
    have hlt := List.mem_range.1 (List.mem_filter.1 hi).1
    rw [String.length_toList]
    omega
  have hinserted := toList_groupThousands_eq_insertPoints s
  refine ⟨fun i hi => Nat.lt_of_lt_of_le hi (length_le_utf8ByteSize s), groupThousands?_eq s,
    hinserted, ?_, ?_, ?_, fun h => ⟨groupThousands_cases h, digitsOf_groupThousands h⟩⟩
  · rw [← String.length_toList, hinserted, length_insertPoints hle, String.length_toList]
  · rw [hinserted]
    exact getElem?_insertPoints hascending hle
  · rw [hinserted]
    exact takeAway_insertPoints hascending hle

/-- Of the five bytes, four are left behind the first character and three behind the second. -/
example : groupThousands "aébc" = "aé.bc" ∧ pointPlaces "aébc" = [2] := by decide

end AccountingPage
