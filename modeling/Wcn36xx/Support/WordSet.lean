import Mathlib.Data.Nat.Notation
import Mathlib.Data.Set.Insert
import Mathlib.Tactic.SplitIfs

/-!
# Sets of numbers in words

An array of words of `w` bits holds a set of numbers: `i` is in the set when bit `i % w` of word `i / w` is
set. The operations on words are operations on the set, for the numbers that the array has a bit for.
-/

namespace Support

namespace WordSet

variable {w : ℕ}

/-- The numbers in the set. -/
def toSet (ws : List (BitVec w)) : Set ℕ := {i | ∃ v, ws[i / w]? = some v ∧ v.getLsbD (i % w) = true}

/-- Set the bit of a number. -/
def insert (ws : List (BitVec w)) (i : ℕ) : List (BitVec w) :=
  ws.modify (i / w) fun v => v ||| 1#w <<< (i % w)

/-- Clear the bit of a number. -/
def erase (ws : List (BitVec w)) (i : ℕ) : List (BitVec w) :=
  ws.modify (i / w) fun v => v &&& ~~~(1#w <<< (i % w))

/-- The bit of a number is set. -/
def contains (ws : List (BitVec w)) (i : ℕ) : Bool :=
  (ws[i / w]?).any fun v => v &&& 1#w <<< (i % w) != 0

@[simp]
theorem length_insert (ws : List (BitVec w)) (i : ℕ) : (insert ws i).length = ws.length :=
  List.length_modify _ _ _

@[simp]
theorem length_erase (ws : List (BitVec w)) (i : ℕ) : (erase ws i).length = ws.length :=
  List.length_modify _ _ _

/-- Membership, by the word and the bit. -/
theorem mem_toSet (ws : List (BitVec w)) (i : ℕ) :
    i ∈ toSet ws ↔ ∃ v, ws[i / w]? = some v ∧ v.getLsbD (i % w) = true := Iff.rfl

/-- Membership after a word has changed. -/
theorem mem_toSet_modify (ws : List (BitVec w)) (k : ℕ) (f : BitVec w → BitVec w) (i : ℕ) :
    i ∈ toSet (ws.modify k f) ↔
      ∃ v, ws[i / w]? = some v ∧ ((if k = i / w then f else id) v).getLsbD (i % w) = true := by
  rw [mem_toSet, List.getElem?_modify]
  cases ws[i / w]? with
  | none => simp
  | some v => split_ifs <;> simp

/-- A number has the word and the bit of another only if it is the other. -/
theorem eq_of_div_mod {i j : ℕ} (hdiv : i / w = j / w) (hmod : i % w = j % w) : i = j := by
  rw [← Nat.div_add_mod i w, hdiv, hmod, Nat.div_add_mod]

/-- The bit of a number that is shifted into place. -/
theorem getLsbD_one_shiftLeft {k : ℕ} (hk : k < w) (j : ℕ) :
    (1#w <<< k).getLsbD j = decide (k = j) := by
  rw [← BitVec.twoPow_eq, BitVec.getLsbD_twoPow, decide_eq_true hk, Bool.true_and]

section

variable (hw : 0 < w)
include hw

/-- The test is membership. -/
theorem contains_iff (ws : List (BitVec w)) (i : ℕ) : contains ws i = true ↔ i ∈ toSet ws := by
  have hmod : i % w < w := Nat.mod_lt i hw
  have hne : BitVec.twoPow w (i % w) ≠ 0#w := by
    intro heq
    have hbit := congrArg (fun v => v.getLsbD (i % w)) heq
    simp [hmod] at hbit
  unfold contains
  rw [Option.any_eq_true, mem_toSet]
  refine exists_congr fun v => and_congr_right fun _ => ?_
  rw [← BitVec.twoPow_eq, BitVec.and_twoPow, bne_iff_ne]
  split_ifs with hv
  · exact iff_of_true hne hv
  · exact iff_of_false (not_not.mpr rfl) hv

/-- Setting a bit inserts its number. -/
theorem toSet_insert {ws : List (BitVec w)} {i : ℕ} (hi : i / w < ws.length) :
    toSet (insert ws i) = Insert.insert i (toSet ws) := by
  have hmod : i % w < w := Nat.mod_lt i hw
  ext j
  unfold insert
  rw [Set.mem_insert_iff, mem_toSet_modify]
  -- In the word that is written the bit decides, and the other words stay.
  by_cases hdiv : i / w = j / w
  · rw [if_pos hdiv, mem_toSet, ← hdiv, List.getElem?_eq_getElem hi]
    simp only [Option.some.injEq, exists_eq_left', BitVec.getLsbD_or, Bool.or_eq_true,
      getLsbD_one_shiftLeft hmod, decide_eq_true_eq]
    constructor
    · rintro (hold | heq)
      · exact .inr hold
      · exact .inl (eq_of_div_mod hdiv heq).symm
    · rintro (rfl | hold)
      · exact .inr rfl
      · exact .inl hold
  · have hne : j ≠ i := fun heq => hdiv (by rw [heq])
    rw [if_neg hdiv, or_iff_right hne]
    rfl

/-- Clearing a bit removes its number. -/
theorem toSet_erase (ws : List (BitVec w)) (i : ℕ) : toSet (erase ws i) = toSet ws \ {i} := by
  have hmod : i % w < w := Nat.mod_lt i hw
  ext j
  unfold erase
  rw [Set.mem_sdiff, Set.mem_singleton_iff, mem_toSet_modify, mem_toSet]
  by_cases hdiv : i / w = j / w
  · have hiff : i % w = j % w ↔ j = i :=
      ⟨fun heq => (eq_of_div_mod hdiv heq).symm, fun heq => by rw [heq]⟩
    have hlt : j % w < w := Nat.mod_lt j hw
    rw [if_pos hdiv]
    simp only [BitVec.getLsbD_and, BitVec.getLsbD_not, getLsbD_one_shiftLeft hmod, Bool.and_eq_true,
      decide_eq_true hlt, Bool.true_and, Bool.not_eq_true', decide_eq_false_iff_not, hiff, exists_and_right,
      ← and_assoc]
  · have hne : j ≠ i := fun heq => hdiv (by rw [heq])
    rw [if_neg hdiv, and_iff_left hne]
    rfl

end

end WordSet

end Support
