import Mathlib.Algebra.BigOperators.Group.List.Basic
import Mathlib.Algebra.Order.Group.Nat
import Mathlib.Tactic.Ring

/-!
# Words of bit fields

A word of bit fields holds its fields from the least significant bit on, in the order in which they are
declared. A `Layout` says which fields the words of a structure have and how wide they are; that every
word is full is a field. Where a field begins follows from the widths of those that are declared before it.
Writing the words and reading them are inverse to each other.
-/

namespace Support

/-- The word that has these fields, each a width and a value. -/
def pack : List (ℕ × ℕ) → ℕ
  | [] => 0
  | (w, v) :: fs => v + 2 ^ w * pack fs

/-- Fields that have their widths fill as many bits. -/
theorem pack_lt (fs : List (ℕ × ℕ)) (h : ∀ f ∈ fs, f.2 < 2 ^ f.1) :
    pack fs < 2 ^ (fs.map Prod.fst).sum := by
  induction fs with
  | nil => exact Nat.one_pos
  | cons f fs ih =>
    obtain ⟨w, v⟩ := f
    obtain ⟨hv, hfs⟩ := List.forall_mem_cons.mp h
    have hrest := ih hfs
    rw [List.map_cons, List.sum_cons, pow_add, pack]
    calc v + 2 ^ w * pack fs < 2 ^ w + 2 ^ w * pack fs := Nat.add_lt_add_right hv _
      _ = 2 ^ w * (pack fs + 1) := by ring
      _ ≤ 2 ^ w * 2 ^ (fs.map Prod.fst).sum := Nat.mul_le_mul_left _ hrest

/-- Fields behind others are above their bits. -/
theorem pack_append (pre post : List (ℕ × ℕ)) :
    pack (pre ++ post) = pack pre + 2 ^ (pre.map Prod.fst).sum * pack post := by
  induction pre with
  | nil =>
    rw [List.nil_append, List.map_nil, List.sum_nil, pow_zero, pack]
    ring
  | cons f pre ih =>
    obtain ⟨w, v⟩ := f
    rw [List.cons_append, List.map_cons, List.sum_cons, pow_add, pack, pack, ih]
    ring

/-- A field is read at the bit behind those before it. -/
theorem pack_read (pre post : List (ℕ × ℕ)) {w v : ℕ} (hpre : ∀ f ∈ pre, f.2 < 2 ^ f.1)
    (hv : v < 2 ^ w) :
    pack (pre ++ (w, v) :: post) / 2 ^ (pre.map Prod.fst).sum % 2 ^ w = v := by
  have hpos : 0 < 2 ^ (pre.map Prod.fst).sum := Nat.two_pow_pos _
  rw [pack_append, Nat.add_mul_div_left _ _ hpos, Nat.div_eq_of_lt (pack_lt pre hpre), Nat.zero_add,
    pack, Nat.add_mul_mod_self_left, Nat.mod_eq_of_lt hv]

/-- The words of a structure of bit fields, `bits` bits each. -/
structure Layout (F : Type*) [DecidableEq F] (bits : ℕ) where
  /-- The fields of each word in the order of their declaration. -/
  words : List (List F)
  width : F → ℕ
  /-- The word that a field is in. -/
  word : F → ℕ
  mem_word : ∀ f, ∃ fs, words[word f]? = some fs ∧ f ∈ fs
  word_of_mem : ∀ p ∈ words.zipIdx, ∀ f ∈ p.1, word f = p.2
  nodup : ∀ fs ∈ words, fs.Nodup
  full : ∀ fs ∈ words, (fs.map width).sum = bits

namespace Layout

variable {F : Type*} [DecidableEq F] {bits : ℕ} (L : Layout F bits)

/-- The bit at which a field of a word begins. -/
def offIn (fs : List F) (f : F) : ℕ := ((fs.takeWhile (· ≠ f)).map L.width).sum

/-- The bit at which a field begins in its word. -/
def off (f : F) : ℕ := L.offIn (L.words.getD (L.word f) []) f

/-- The words that have these values in the fields. -/
def encode (v : F → ℕ) : List ℕ := L.words.map fun fs => pack (fs.map fun f => (L.width f, v f))

/-- The value of a field in words. -/
def read (ws : List ℕ) (f : F) : ℕ := ws.getD (L.word f) 0 / 2 ^ L.off f % 2 ^ L.width f

/-- What is read has the width of the field. -/
theorem read_lt (ws : List ℕ) (f : F) : L.read ws f < 2 ^ L.width f :=
  Nat.mod_lt _ (Nat.two_pow_pos _)

/-- The fields before one in its word. -/
theorem takeWhile_ne_append {pre post : List F} {f : F} (h : f ∉ pre) :
    (pre ++ f :: post).takeWhile (· ≠ f) = pre := by
  rw [List.takeWhile_append_of_pos]
  · rw [List.takeWhile_cons_of_neg (by simp), List.append_nil]
  · intro g hg
    have hne : g ≠ f := fun heq => h (heq ▸ hg)
    simpa using hne

/-- A field between others begins behind those before it. -/
theorem offIn_append {pre post : List F} {f : F} (h : (pre ++ f :: post).Nodup) :
    L.offIn (pre ++ f :: post) f = (pre.map L.width).sum := by
  have hnot : f ∉ pre := by
    intro hmem
    exact (List.nodup_append.mp h).2.2 f hmem f List.mem_cons_self rfl
  rw [offIn, takeWhile_ne_append hnot]

/-- Every field is read back as it has been written. -/
theorem read_encode {v : F → ℕ} (hv : ∀ f, v f < 2 ^ L.width f) (f : F) :
    L.read (L.encode v) f = v f := by
  obtain ⟨fs, hfs, hmem⟩ := L.mem_word f
  have hnodup := L.nodup fs (List.mem_of_getElem? hfs)
  obtain ⟨pre, post, rfl⟩ := List.append_of_mem hmem
  have hword : (L.encode v).getD (L.word f) 0 =
      pack (pre.map (fun f => (L.width f, v f)) ++
        (L.width f, v f) :: post.map fun f => (L.width f, v f)) := by
    rw [List.getD_eq_getElem?_getD, encode, List.getElem?_map, hfs, Option.map_some,
      Option.getD_some, List.map_append, List.map_cons]
  have hoff : L.off f = ((pre.map fun f => (L.width f, v f)).map Prod.fst).sum := by
    rw [off, List.getD_eq_getElem?_getD, hfs, Option.getD_some, L.offIn_append hnodup,
      List.map_map]
    rfl
  have hpre : ∀ p ∈ pre.map (fun f => (L.width f, v f)), p.2 < 2 ^ p.1 := by
    intro p hp
    obtain ⟨g, -, rfl⟩ := List.mem_map.mp hp
    exact hv g
  rw [read, hword, hoff]
  exact pack_read _ _ hpre (hv f)

/-- The fields of a word that are left make up the bits that are left. The induction is on these fields. -/
theorem pack_offIn (n : ℕ) (post : List F) : ∀ {pre : List F}, (pre ++ post).Nodup →
    n < 2 ^ ((pre ++ post).map L.width).sum →
    pack (post.map fun f => (L.width f, n / 2 ^ L.offIn (pre ++ post) f % 2 ^ L.width f)) =
      n / 2 ^ (pre.map L.width).sum := by
  induction post with
  | nil =>
    intro pre _ hn
    rw [List.append_nil] at hn
    exact (Nat.div_eq_of_lt hn).symm
  | cons f post ih =>
    intro pre hnodup hn
    have hshift : pre ++ f :: post = (pre ++ [f]) ++ post := by
      rw [List.append_assoc, List.singleton_append]
    have hrest := @ih (pre ++ [f]) (hshift ▸ hnodup) (hshift ▸ hn)
    have hsum : ((pre ++ [f]).map L.width).sum = (pre.map L.width).sum + L.width f := by
      rw [List.map_append, List.sum_append, List.map_singleton, List.sum_singleton]
    rw [← hshift, hsum, pow_add, ← Nat.div_div_eq_div_mul] at hrest
    rw [List.map_cons, pack, hrest, L.offIn_append hnodup]
    exact Nat.mod_add_div _ _

/-- Words are made up of what is read from them. -/
theorem encode_read {ws : List ℕ} (hlen : ws.length = L.words.length)
    (hws : ∀ n ∈ ws, n < 2 ^ bits) : L.encode (L.read ws) = ws := by
  refine List.ext_getElem ?_ fun i hi hi' => ?_
  · rw [encode, List.length_map, hlen]
  · have hiw : i < L.words.length := hlen ▸ hi'
    obtain ⟨fs, hfs⟩ : ∃ fs, fs = L.words[i] := ⟨_, rfl⟩
    have hmem : fs ∈ L.words := hfs ▸ List.getElem_mem hiw
    have hget : L.words[i]? = some fs := by
      rw [hfs]
      exact List.getElem?_eq_getElem hiw
    have hread : ∀ f ∈ fs, L.read ws f = ws[i] / 2 ^ L.offIn fs f % 2 ^ L.width f := by
      intro f hf
      have hword : L.word f = i :=
        L.word_of_mem (fs, i) (List.mem_zipIdx_iff_getElem?.mpr hget) f hf
      rw [read, off, hword, List.getD_eq_getElem?_getD, List.getD_eq_getElem?_getD, hget,
        List.getElem?_eq_getElem hi', Option.getD_some, Option.getD_some]
    have hn : ws[i] < 2 ^ (fs.map L.width).sum := by
      rw [L.full fs hmem]
      exact hws _ (List.getElem_mem hi')
    have hpack := @pack_offIn F _ bits L ws[i] fs [] (L.nodup fs hmem) hn
    rw [List.nil_append, List.map_nil, List.sum_nil, pow_zero, Nat.div_one] at hpack
    simp only [encode, List.getElem_map, ← hfs]
    rw [← hpack]
    congr 1
    exact List.map_congr_left fun f hf => by rw [hread f hf]

end Layout

end Support
