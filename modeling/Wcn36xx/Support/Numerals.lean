import Mathlib.Data.Nat.Digits.Lemmas
import Mathlib.Tactic.SplitIfs

/-!
# Numerals

A numeral is a sequence of characters that are digits in some base, the most significant one first.
Reading it from the front gives back the number that it has been printed for.
-/

namespace Support

namespace Numerals

variable {α : Type*} (digit : α → Option ℕ) (b : ℕ)

/-- A character is a digit in base `b`. -/
def isDigit (c : α) : Bool := (digit c).any fun d => decide (d < b)

/-- The number that digits stand for. -/
def value (cs : List α) : ℕ := cs.foldl (fun n c => b * n + (digit c).getD 0) 0

/-- The digits of a number. -/
def print (char : ℕ → α) (n : ℕ) : List α :=
  if n = 0 then [char 0] else (b.digits n).reverse.map char

variable {digit} {b}

/-- Digits with something else behind them. -/
theorem takeWhile_isDigit {cs rest : List α} (hcs : ∀ c ∈ cs, isDigit digit b c = true)
    (hrest : ∀ c ∈ rest.head?, isDigit digit b c = false) :
    (cs ++ rest).takeWhile (isDigit digit b) = cs ∧ (cs ++ rest).dropWhile (isDigit digit b) = rest := by
  rw [List.takeWhile_append_of_pos hcs, List.dropWhile_append_of_pos hcs]
  cases rest with
  | nil => exact ⟨List.append_nil cs, rfl⟩
  | cons c rest =>
    have hc := hrest c rfl
    rw [List.takeWhile_cons_of_neg (by rw [hc]; decide), List.dropWhile_cons_of_neg (by rw [hc]; decide),
      List.append_nil]
    exact ⟨rfl, rfl⟩

theorem value_append_singleton (cs : List α) (c : α) :
    value digit b (cs ++ [c]) = b * value digit b cs + (digit c).getD 0 := by
  unfold value
  rw [List.foldl_append, List.foldl_cons, List.foldl_nil]

/-- The value is that of the digits in the opposite order. -/
theorem value_reverse (cs : List α) :
    value digit b cs.reverse = Nat.ofDigits b (cs.map fun c => (digit c).getD 0) := by
  induction cs with
  | nil => rfl
  | cons c cs ih =>
    rw [List.reverse_cons, value_append_singleton, ih, List.map_cons, Nat.ofDigits_cons]
    exact Nat.add_comm _ _

theorem print_ne_nil (char : ℕ → α) (n : ℕ) : print b char n ≠ [] := by
  unfold print
  split_ifs with hn
  · exact List.cons_ne_nil _ _
  · rw [ne_eq, List.map_eq_nil_iff, List.reverse_eq_nil_iff, Nat.digits_eq_nil_iff_eq_zero]
    exact hn

section Characters

variable {char : ℕ → α} (hb : 1 < b) (hchar : ∀ d < b, digit (char d) = some d)
include hb

/-- A number has as many digits as fit. -/
theorem length_print_le {n k : ℕ} (hk : 0 < k) (hn : n < b ^ k) : (print b char n).length ≤ k := by
  unfold print
  split_ifs with hzero
  · exact hk
  · rw [List.length_map, List.length_reverse]
    exact (Nat.digits_length_le_iff hb n).mpr hn

/-- The digits of a number but zero do not begin with zero. -/
theorem head?_print (char : ℕ → α) {n : ℕ} (hn : n ≠ 0) :
    ∃ d, 0 < d ∧ d < b ∧ (print b char n).head? = some (char d) := by
  have hne : b.digits n ≠ [] := Nat.digits_ne_nil_iff_ne_zero.mpr hn
  refine ⟨(b.digits n).getLast hne, Nat.pos_of_ne_zero (Nat.getLast_digit_ne_zero b hn),
    Nat.digits_lt_base hb (List.getLast_mem hne), ?_⟩
  rw [print, if_neg hn, List.head?_map, List.head?_reverse, List.getLast?_eq_some_getLast hne]
  rfl

include hchar

/-- What is printed is digits. -/
theorem isDigit_of_mem_print {n : ℕ} {c : α} (hc : c ∈ print b char n) : isDigit digit b c = true := by
  obtain ⟨d, hd, rfl⟩ : ∃ d < b, char d = c := by
    unfold print at hc
    split_ifs at hc with hn
    · exact ⟨0, Nat.zero_lt_of_lt hb, (List.mem_singleton.mp hc).symm⟩
    · obtain ⟨d, hd, rfl⟩ := List.mem_map.mp hc
      exact ⟨d, Nat.digits_lt_base hb (List.mem_reverse.mp hd), rfl⟩
  rw [isDigit, hchar d hd]
  exact decide_eq_true hd

/-- A number is read back. -/
theorem value_print (n : ℕ) : value digit b (print b char n) = n := by
  unfold print
  split_ifs with hn
  · rw [value, List.foldl_cons, List.foldl_nil, hchar 0 (Nat.zero_lt_of_lt hb), hn]
    rfl
  · have hdigits : (b.digits n).map (fun d => (digit (char d)).getD 0) = b.digits n := by
      refine (List.map_congr_left fun d hd => ?_).trans (List.map_id _)
      rw [hchar d (Nat.digits_lt_base hb hd)]
      rfl
    rw [List.map_reverse, value_reverse, List.map_map]
    exact (congrArg (Nat.ofDigits b) hdigits).trans (Nat.ofDigits_digits b n)

end Characters

end Numerals

end Support
