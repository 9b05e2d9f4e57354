import Mathlib.Data.List.Pairwise
import Mathlib.Data.List.Perm.Basic
import Mathlib.Data.Nat.Notation
import Mathlib.Tactic.SplitIfs

/-!
# The bus of a device

What a device can reach on its bus is a list of regions, each at its base address and with its
contents. A region is mapped by adding it to the list and unmapped by its base address. As long as no
two regions have an address in common, a read inside a region gives its contents
(`BusRegion.read_of_mem`), and unmapping a region that is not empty removes that one
(`BusRegion.unmap_perm`).
-/

namespace Support

/-- Consecutive addresses on a bus, with what is stored there. -/
structure BusRegion (β : Type*) where
  /-- The first address. -/
  base : ℕ
  /-- The contents, from the first address on. -/
  data : List β
  deriving DecidableEq

namespace BusRegion

variable {β : Type*}

/-- Two regions have no address in common. -/
def Apart (r s : BusRegion β) : Prop :=
  r.base + r.data.length ≤ s.base ∨ s.base + s.data.length ≤ r.base

instance (r s : BusRegion β) : Decidable (Apart r s) := inferInstanceAs (Decidable (_ ∨ _))

/-- What a region has at an address. -/
def load (r : BusRegion β) (a : ℕ) : Option β := if r.base ≤ a then r.data[a - r.base]? else none

/-- What the first region that has the address has there. -/
def loadBus (rs : List (BusRegion β)) (a : ℕ) : Option β := rs.findSome? fun r => r.load a

/-- Read `len` addresses from `a` on; `none` as soon as one of them is not mapped. -/
def read (rs : List (BusRegion β)) : (a len : ℕ) → Option (List β)
  | _, 0 => some []
  | a, len + 1 => do
    let b ← loadBus rs a
    let bs ← read rs (a + 1) len
    return b :: bs

/-- Unmap the region at a base address. -/
def unmap (rs : List (BusRegion β)) (base : ℕ) : List (BusRegion β) :=
  rs.eraseP fun r => r.base = base

/-- Being apart is symmetric. -/
instance : Std.Symm (@Apart β) where
  symm _ _ h := Or.symm h

/-- A region has something exactly at its own addresses. -/
theorem load_isSome (r : BusRegion β) (a : ℕ) :
    (r.load a).isSome = true ↔ r.base ≤ a ∧ a < r.base + r.data.length := by
  unfold BusRegion.load
  split_ifs with hle
  · rw [isSome_getElem?]
    omega
  · exact ⟨fun h => absurd h Bool.false_ne_true, fun h => absurd h.1 hle⟩

/-- Regions that are apart do not both have an address. -/
theorem Apart.load_eq_none {r s : BusRegion β} (h : r.Apart s) {a : ℕ} {b : β} (hs : s.load a = some b) :
    r.load a = none := by
  have hin : s.base ≤ a ∧ a < s.base + s.data.length :=
    (s.load_isSome a).mp (Option.isSome_of_eq_some hs)
  rw [← Option.not_isSome_iff_eq_none, r.load_isSome]
  unfold Apart at h
  omega

/-- Unmapping removes regions and nothing else. -/
theorem foldl_unmap_sublist (rs ss : List (BusRegion β)) :
    (ss.foldl (fun rs r => unmap rs r.base) rs).Sublist rs := by
  induction ss generalizing rs with
  | nil => exact List.Sublist.refl rs
  | cons s ss ih => exact (ih (unmap rs s.base)).trans List.eraseP_sublist

section Bus

variable {rs : List (BusRegion β)} (hapart : rs.Pairwise Apart)
include hapart

/-- On a bus without overlaps, an address of a region has what the region has there. -/
theorem loadBus_of_mem {r : BusRegion β} (hr : r ∈ rs) {a : ℕ} {b : β} (hb : r.load a = some b) :
    loadBus rs a = some b := by
  induction rs with
  | nil => exact absurd hr List.not_mem_nil
  | cons s rs ih =>
    obtain ⟨hs, hrest⟩ := List.pairwise_cons.mp hapart
    unfold loadBus
    rw [List.findSome?_cons]
    rcases List.mem_cons.mp hr with rfl | hr
    · rw [hb]
    · rw [(hs r hr).load_eq_none hb]
      exact ih hrest hr

/-- On a bus without overlaps, a read inside a region gives the contents of the region. -/
theorem read_of_mem {r : BusRegion β} (hr : r ∈ rs) {off len : ℕ} (hle : off + len ≤ r.data.length) :
    read rs (r.base + off) len = some ((r.data.drop off).take len) := by
  induction len generalizing off with
  | zero => rw [read, List.take_zero]
  | succ len ih =>
    have hlt : off < r.data.length := by omega
    have hload : r.load (r.base + off) = some r.data[off] := by
      unfold BusRegion.load
      rw [if_pos (Nat.le_add_right _ _), Nat.add_sub_cancel_left, List.getElem?_eq_getElem hlt]
    rw [read, loadBus_of_mem hapart hr hload, Nat.add_assoc, ih (by omega),
      List.drop_eq_getElem_cons hlt, List.take_succ_cons]
    rfl

/-- On a bus without overlaps and without empty regions, the base address tells a region. -/
theorem eq_of_base_eq (hpos : ∀ r ∈ rs, r.data ≠ []) {r s : BusRegion β} (hr : r ∈ rs) (hs : s ∈ rs)
    (hbase : r.base = s.base) : r = s := by
  by_contra hne
  have h : r.Apart s := hapart.forall hr hs hne
  have hr' : 0 < r.data.length := List.length_pos_of_ne_nil (hpos r hr)
  have hs' : 0 < s.data.length := List.length_pos_of_ne_nil (hpos s hs)
  unfold Apart at h
  omega

/-- Unmapping a region by its base address leaves the others. -/
theorem unmap_perm (hpos : ∀ r ∈ rs, r.data ≠ []) {r : BusRegion β} {rest : List (BusRegion β)}
    (h : rs.Perm (r :: rest)) : (unmap rs r.base).Perm rest := by
  have hr : r ∈ rs := h.mem_iff.mpr List.mem_cons_self
  obtain ⟨s, l₁, l₂, -, hbase, hsplit, herase⟩ :=
    List.exists_of_eraseP (p := fun r' => decide (r'.base = r.base)) hr (decide_eq_true rfl)
  have hs : s ∈ rs := by
    rw [hsplit]
    exact List.mem_append_right _ List.mem_cons_self
  obtain rfl : s = r := eq_of_base_eq hapart hpos hs hr (of_decide_eq_true hbase)
  have hperm : (s :: (l₁ ++ l₂)).Perm (s :: rest) := by
    rw [hsplit] at h
    exact List.perm_middle.symm.trans h
  rw [unmap, herase]
  exact hperm.cons_inv

/-- Unmapping some of the regions by their base addresses leaves the others. -/
theorem foldl_unmap_perm (hpos : ∀ r ∈ rs, r.data ≠ []) {ss rest : List (BusRegion β)}
    (h : rs.Perm (ss ++ rest)) : (ss.foldl (fun rs r => unmap rs r.base) rs).Perm rest := by
  induction ss generalizing rs with
  | nil => exact h
  | cons s ss ih =>
    have hsub : (unmap rs s.base).Sublist rs := List.eraseP_sublist
    rw [List.foldl_cons]
    exact ih (hapart.sublist hsub) (fun r hr => hpos r (hsub.subset hr)) (unmap_perm hapart hpos h)

end Bus

end BusRegion

end Support
