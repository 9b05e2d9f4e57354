import Mathlib.Data.List.Basic
import Mathlib.Logic.Equiv.Basic

/-!
# Layouts of packed records

A layout puts the values of a type in a fixed number of bytes: a reader gets a value from exactly the bytes that
are written for it. Layouts are closed under pairs, arrays and renaming, so a packed structure has the
layout that its fields have one after the other.
-/

namespace Support

universe u

/-- A layout of the values of `α`. -/
structure ByteLayout (α : Type u) where
  size : ℕ
  write : α → List (BitVec 8)
  read : List (BitVec 8) → Option α
  length_write : ∀ a, (write a).length = size
  /-- What is read is what would have been written. -/
  read_iff : ∀ bs a, read bs = some a ↔ write a = bs

namespace ByteLayout

variable {α β : Type u}

/-- Reading is the inverse of writing. -/
@[simp]
theorem read_write (L : ByteLayout α) (a : α) : L.read (L.write a) = some a :=
  (L.read_iff _ a).mpr rfl

/-- A byte. -/
def byte : ByteLayout (BitVec 8) where
  size := 1
  write b := [b]
  read
    | [b] => some b
    | _ => none
  length_write _ := rfl
  read_iff bs a := by
    constructor
    · intro h
      split at h
      · exact congrArg (fun b => [b]) (Option.some.inj h).symm
      · cases h
    · rintro rfl
      rfl

/-- One after the other. -/
def prod (A : ByteLayout α) (B : ByteLayout β) : ByteLayout (α × β) where
  size := A.size + B.size
  write p := A.write p.1 ++ B.write p.2
  read bs := do
    let a ← A.read (bs.take A.size)
    let b ← B.read (bs.drop A.size)
    return (a, b)
  length_write p := by rw [List.length_append, A.length_write, B.length_write]
  read_iff bs p := by
    obtain ⟨a, b⟩ := p
    constructor
    · intro h
      obtain ⟨a', ha, h⟩ := Option.bind_eq_some_iff.mp h
      obtain ⟨b', hb, h⟩ := Option.bind_eq_some_iff.mp h
      cases h
      dsimp only
      rw [(A.read_iff _ _).mp ha, (B.read_iff _ _).mp hb, List.take_append_drop]
    · rintro rfl
      have htake : (A.write a ++ B.write b).take A.size = A.write a := by
        rw [← A.length_write a, List.take_left]
      have hdrop : (A.write a ++ B.write b).drop A.size = B.write b := by
        rw [← A.length_write a, List.drop_left]
      dsimp only
      rw [htake, hdrop, A.read_write, B.read_write]
      rfl

/-- The bytes of a byte. -/
@[simp]
theorem write_byte (b : BitVec 8) : byte.write b = [b] := rfl

/-- The bytes of two values. -/
@[simp]
theorem write_prod (A : ByteLayout α) (B : ByteLayout β) (p : α × β) :
    (A.prod B).write p = A.write p.1 ++ B.write p.2 := rfl

/-- The same bytes for a type with the same values. -/
def map (L : ByteLayout α) (e : α ≃ β) : ByteLayout β where
  size := L.size
  write b := L.write (e.symm b)
  read bs := (L.read bs).map e
  length_write b := L.length_write _
  read_iff bs b := by
    rw [Option.map_eq_some_iff, ← L.read_iff]
    constructor
    · rintro ⟨a, ha, rfl⟩
      rw [e.symm_apply_apply, ha]
    · intro h
      exact ⟨_, h, e.apply_symm_apply b⟩

/-- The bytes of a value of the other type. -/
@[simp]
theorem write_map (L : ByteLayout α) (f : α → β) (g : β → α) (hg : g.LeftInverse f) (hf : g.RightInverse f)
    (b : β) : (L.map ⟨f, g, hg, hf⟩).write b = L.write (g b) := rfl

/-- The elements of an array of `n`. -/
def readList (L : ByteLayout α) : ℕ → List (BitVec 8) → Option (List α)
  | 0, [] => some []
  | 0, _ :: _ => none
  | n + 1, bs => do
    let a ← L.read (bs.take L.size)
    let as ← L.readList n (bs.drop L.size)
    return a :: as

/-- The elements that are read are as many as there should be, and their bytes are those. -/
theorem readList_iff (L : ByteLayout α) (n : ℕ) : ∀ (bs : List (BitVec 8)) (as : List α),
    L.readList n bs = some as ↔ as.length = n ∧ as.flatMap L.write = bs := by
  induction n with
  | zero =>
    intro bs as
    rw [List.length_eq_zero_iff]
    cases bs with
    | nil =>
      refine ⟨?_, ?_⟩
      · intro h
        cases h
        exact ⟨rfl, rfl⟩
      · rintro ⟨rfl, -⟩
        rfl
    | cons b bs =>
      refine iff_of_false (by nofun) ?_
      rintro ⟨rfl, h⟩
      cases h
  | succ n ih =>
    intro bs as
    constructor
    · intro h
      obtain ⟨a, ha, h⟩ := Option.bind_eq_some_iff.mp h
      obtain ⟨as', has, h⟩ := Option.bind_eq_some_iff.mp h
      cases h
      obtain ⟨hlen, hbytes⟩ := (ih _ _).mp has
      rw [List.length_cons, hlen, List.flatMap_cons, (L.read_iff _ _).mp ha, hbytes,
        List.take_append_drop]
      exact ⟨rfl, rfl⟩
    · rintro ⟨hlen, rfl⟩
      obtain ⟨a, as, rfl⟩ := List.exists_cons_of_length_eq_add_one hlen
      -- An element has `size` bytes, so the first ones are those of the first element.
      have htake : ((a :: as).flatMap L.write).take L.size = L.write a := by
        rw [List.flatMap_cons, ← L.length_write a, List.take_left]
      have hdrop : ((a :: as).flatMap L.write).drop L.size = as.flatMap L.write := by
        rw [List.flatMap_cons, ← L.length_write a, List.drop_left]
      rw [readList, htake, hdrop, L.read_write,
        (ih _ as).mpr ⟨Nat.succ.inj hlen, rfl⟩]
      rfl

/-- An array of `n`. -/
def vector (L : ByteLayout α) (n : ℕ) : ByteLayout (Vector α n) where
  size := n * L.size
  write v := v.toList.flatMap L.write
  read bs := (L.readList n bs).bind fun as =>
    if h : as.toArray.size = n then some ⟨as.toArray, h⟩ else none
  length_write v := by
    rw [List.length_flatMap, List.map_congr_left fun a _ => L.length_write a, List.map_const',
      List.sum_replicate_nat, Vector.length_toList]
  read_iff bs v := by
    rw [Option.bind_eq_some_iff]
    constructor
    · rintro ⟨as, has, h⟩
      obtain ⟨hsize, h⟩ := Option.dite_none_right_eq_some.mp h
      cases h
      exact ((L.readList_iff n bs as).mp has).2
    · rintro rfl
      refine ⟨v.toList, (L.readList_iff n _ _).mpr ⟨v.length_toList, rfl⟩, ?_⟩
      rw [dif_pos (by rw [List.size_toArray, v.length_toList])]
      rfl

/-- The bytes of an array. -/
@[simp]
theorem write_vector (L : ByteLayout α) {n : ℕ} (v : Vector α n) :
    (L.vector n).write v = v.toList.flatMap L.write := rfl

end ByteLayout

end Support
