import Mathlib.Data.List.TakeWhile
import Wcn36xx.Smd.Wire
import Wcn36xx.Support.Numerals

/-!
# The dump file

What is written to the debugfs file `dump` is up to five numbers with a space between two of them,
each as `kstrtou32` takes it: decimal, octal after a `0`, or hexadecimal after a `0x`.
`write_file_dump` sends them to the firmware in `DUMP_COMMAND`. It takes the numbers up to the first
word that is none, and zero for the others (`writeFileDump_sends`); nothing but what fits its buffer
of 255 bytes is looked at.
-/

namespace Wcn36xx

open Support (ByteLayout)
open Support.Numerals (isDigit value print)

/-! ## `kstrtou32` -/

/-- A character. -/
def ascii (c : Char) : Byte := BitVec.ofNat 8 c.toNat

/-- The digit that a character stands for, also in bases above ten. -/
def digit (c : Byte) : Option ℕ :=
  if ascii '0' ≤ c ∧ c ≤ ascii '9' then some (c.toNat - (ascii '0').toNat)
  else if ascii 'a' ≤ c ∧ c ≤ ascii 'f' then some (c.toNat - (ascii 'a').toNat + 10)
  else if ascii 'A' ≤ c ∧ c ≤ ascii 'F' then some (c.toNat - (ascii 'A').toNat + 10)
  else none

/-- The base of a numeral, when `kstrtou32` is given base 0, and the rest of it. -/
def strtoBase (s : List Byte) : ℕ × List Byte :=
  if s.head? ≠ some (ascii '0') then (10, s)
  else if (s[1]? = some (ascii 'x') ∨ s[1]? = some (ascii 'X')) ∧ (s[2]?).any (isDigit digit 16) then
    (16, s.drop 2)
  else (8, s)

/-- `kstrtou32` with base 0: a plus sign may stand before the numeral, and a newline behind it. -/
def kstrtou32 (s : List Byte) : Option (BitVec 32) :=
  let (base, s) := strtoBase (if s.head? = some (ascii '+') then s.tail else s)
  let digits := s.takeWhile (isDigit digit base)
  let rest := s.dropWhile (isDigit digit base)
  -- `-EINVAL`
  if digits = [] ∨ (rest ≠ [] ∧ rest ≠ [ascii '\n']) then none
  -- `-ERANGE`
  else if value digit base digits ≥ 2 ^ 32 then none
  else some (BitVec.ofNat 32 (value digit base digits))

/-- The numerals. -/
inductive IsNumeral : List Byte → ℕ → Prop
  | decimal {ds : List Byte} (ne : ds ≠ []) (digits : ∀ c ∈ ds, isDigit digit 10 c = true)
      (head : ds.head? ≠ some (ascii '0')) : IsNumeral ds (value digit 10 ds)
  | octal {ds : List Byte} (digits : ∀ c ∈ ds, isDigit digit 8 c = true)
      (head : ds.head? = some (ascii '0')) : IsNumeral ds (value digit 8 ds)
  | hexadecimal {x : Byte} {ds : List Byte} (hx : x = ascii 'x' ∨ x = ascii 'X') (ne : ds ≠ [])
      (digits : ∀ c ∈ ds, isDigit digit 16 c = true) :
      IsNumeral (ascii '0' :: x :: ds) (value digit 16 ds)

/-- A word that is taken for a number. -/
def IsNumber (s : List Byte) (n : ℕ) : Prop :=
  ∃ plus t newline, s = plus ++ (t ++ newline) ∧ (plus = [] ∨ plus = [ascii '+']) ∧ IsNumeral t n ∧
    (newline = [] ∨ newline = [ascii '\n'])

/-- A numeral begins with a digit. -/
theorem IsNumeral.head {t : List Byte} {n : ℕ} (h : IsNumeral t n) :
    ∃ c ∈ t.head?, isDigit digit 10 c = true := by
  cases h with
  | decimal ne digits head =>
    obtain ⟨c, cs, rfl⟩ := List.exists_cons_of_ne_nil ne
    exact ⟨c, rfl, digits c List.mem_cons_self⟩
  | octal digits head => exact ⟨_, head, by decide⟩
  | hexadecimal hx ne digits => exact ⟨_, rfl, by decide⟩

/-- The base of a numeral is that in which its digits stand for the number. -/
theorem strtoBase_of_isNumeral {t newline : List Byte} {n : ℕ} (h : IsNumeral t n)
    (hnl : newline = [] ∨ newline = [ascii '\n']) :
    ∃ base ds, strtoBase (t ++ newline) = (base, ds ++ newline) ∧ ds ≠ [] ∧
      (∀ c ∈ ds, isDigit digit base c = true) ∧ value digit base ds = n ∧
      isDigit digit base (ascii '\n') = false := by
  unfold strtoBase
  cases h with
  | decimal ne digits head =>
    refine ⟨10, t, ?_, ne, digits, rfl, by decide⟩
    rw [if_pos]
    rwa [List.head?_append_of_ne_nil _ ne]
  | octal digits head =>
    have ne : t ≠ [] := by
      rintro rfl
      cases head
    refine ⟨8, t, ?_, ne, digits, rfl, by decide⟩
    rw [if_neg (by rw [List.head?_append_of_ne_nil _ ne, head]; exact not_not.mpr rfl), if_neg]
    -- The character behind the zero is an octal digit or the newline.
    rintro ⟨hx, -⟩
    obtain ⟨c, t, rfl⟩ := List.exists_cons_of_ne_nil ne
    have hmem : ∀ x ∈ (t ++ newline).head?, x ≠ ascii 'x' ∧ x ≠ ascii 'X' := by
      intro x hx
      rcases List.mem_append.mp (List.mem_of_mem_head? hx) with hx | hx
      · have hdigit := digits x (List.mem_cons_of_mem c hx)
        constructor
        · rintro rfl
          exact absurd hdigit (by decide)
        · rintro rfl
          exact absurd hdigit (by decide)
      · rcases hnl with rfl | rfl
        · cases hx
        · rw [List.mem_singleton.mp hx]
          decide
    rw [List.cons_append, List.getElem?_cons_succ, ← List.head?_eq_getElem?] at hx
    rcases hx with hx | hx
    · exact (hmem _ hx).1 rfl
    · exact (hmem _ hx).2 rfl
  | @hexadecimal x ds hx ne digits =>
    refine ⟨16, ds, ?_, ne, digits, rfl, by decide⟩
    obtain ⟨c, cs, rfl⟩ := List.exists_cons_of_ne_nil ne
    have hc : isDigit digit 16 c = true := digits c List.mem_cons_self
    have hhead : (ascii '0' :: x :: (c :: cs) ++ newline).head? = some (ascii '0') := rfl
    rw [if_neg (not_not.mpr hhead), if_pos]
    · rfl
    · refine ⟨?_, hc⟩
      rcases hx with rfl | rfl
      · exact .inl rfl
      · exact .inr rfl

/-- Digits in the base that is found, with something else behind them, are those of a numeral. -/
theorem isNumeral_of_strtoBase {s u ds rest : List Byte} {base : ℕ} (h : strtoBase s = (base, u))
    (hu : u = ds ++ rest) (ne : ds ≠ []) (digits : ∀ c ∈ ds, isDigit digit base c = true) :
    ∃ t, s = t ++ rest ∧ IsNumeral t (value digit base ds) := by
  subst hu
  unfold strtoBase at h
  split_ifs at h with hhead hhex
  · cases h
    rw [List.head?_append_of_ne_nil _ ne] at hhead
    exact ⟨ds, rfl, .decimal ne digits hhead⟩
  · obtain ⟨rfl, hdrop⟩ := Prod.mk.inj h
    obtain ⟨hx, -⟩ := hhex
    obtain ⟨x, hx, hs⟩ : ∃ x, (x = ascii 'x' ∨ x = ascii 'X') ∧ s = ascii '0' :: x :: s.drop 2 := by
      rw [not_not] at hhead
      cases s with
      | nil => cases hhead
      | cons c s =>
        cases s with
        | nil => rcases hx with hx | hx <;> cases hx
        | cons x s =>
          refine ⟨x, hx.imp Option.some.inj Option.some.inj, ?_⟩
          rw [Option.some.inj hhead]
          rfl
    refine ⟨ascii '0' :: x :: ds, ?_, .hexadecimal hx ne digits⟩
    rw [hs, hdrop]
    rfl
  · cases h
    rw [not_not, List.head?_append_of_ne_nil _ ne] at hhead
    exact ⟨ds, rfl, .octal digits hhead⟩

/-- Behind a plus sign that it may have, a word is the same. -/
theorem isNumber_iff (s : List Byte) (n : ℕ) : IsNumber s n ↔ ∃ t newline,
    (if s.head? = some (ascii '+') then s.tail else s) = t ++ newline ∧ IsNumeral t n ∧
      (newline = [] ∨ newline = [ascii '\n']) := by
  constructor
  · rintro ⟨plus, t, newline, rfl, hplus, ht, hnl⟩
    refine ⟨t, newline, ?_, ht, hnl⟩
    rcases hplus with rfl | rfl
    · rw [List.nil_append, if_neg]
      intro hhead
      obtain ⟨c, hc, hdigit⟩ := ht.head
      rw [List.head?_append, Option.mem_def.mp hc, Option.some_or] at hhead
      rw [Option.some.inj hhead] at hdigit
      exact absurd hdigit (by decide)
    · rfl
  · rintro ⟨t, newline, hs, ht, hnl⟩
    split_ifs at hs with hplus
    · refine ⟨[ascii '+'], t, newline, ?_, .inr rfl, ht, hnl⟩
      rw [← hs]
      exact (List.cons_head?_tail hplus).symm
    · exact ⟨[], t, newline, hs, .inl rfl, ht, hnl⟩

/-- `kstrtou32` takes exactly the words that are numbers of 32 bits. -/
theorem kstrtou32_eq_some_iff (s : List Byte) (v : BitVec 32) :
    kstrtou32 s = some v ↔ IsNumber s v.toNat := by
  rw [isNumber_iff]
  unfold kstrtou32
  generalize (if s.head? = some (ascii '+') then s.tail else s) = u
  constructor
  · intro h
    obtain ⟨base, w, hbase⟩ : ∃ base w, strtoBase u = (base, w) := ⟨_, _, rfl⟩
    rw [hbase] at h
    dsimp only at h
    split_ifs at h with hbad hbig
    cases h
    rw [not_or, not_and_or, not_not, not_not] at hbad
    obtain ⟨ne, hrest⟩ := hbad
    obtain ⟨t, hu, ht⟩ := isNumeral_of_strtoBase hbase List.takeWhile_append_dropWhile.symm ne
      fun c hc => List.mem_takeWhile_imp hc
    rw [BitVec.toNat_ofNat, Nat.mod_eq_of_lt (Nat.not_le.mp hbig)]
    exact ⟨t, _, hu, ht, hrest⟩
  · rintro ⟨t, newline, rfl, ht, hnl⟩
    obtain ⟨base, ds, hbase, ne, digits, hvalue, hend⟩ := strtoBase_of_isNumeral ht hnl
    have hrest : ∀ c ∈ newline.head?, isDigit digit base c = false := by
      intro c hc
      rcases hnl with rfl | rfl
      · cases hc
      · cases hc
        exact hend
    obtain ⟨htake, hdrop⟩ := Support.Numerals.takeWhile_isDigit digits hrest
    rw [hbase]
    dsimp only
    rw [htake, hdrop, hvalue, if_neg, if_neg (by exact Nat.not_le.mpr v.isLt), BitVec.ofNat_toNat,
      BitVec.setWidth_eq]
    rintro (hds | ⟨hne, hne'⟩)
    · exact ne hds
    · exact hnl.elim hne hne'

/-! ## `write_file_dump` -/

/-- `WCN36xx_MAX_DUMP_ARGS`. -/
def WCN36xx_MAX_DUMP_ARGS : ℕ := 5

/-- `EFAULT`. -/
def EFAULT : ℤ := 14

/-- `strsep`: the string up to the delimiter, and the string behind it. -/
def strsep (s : List Byte) (delim : Byte) : List Byte × Option (List Byte) :=
  (s.takeWhile (· ≠ delim), if delim ∈ s then some (s.dropWhile (· ≠ delim)).tail else none)

/-- The elements of `arg` that the loop of `write_file_dump` sets, in the iterations that are left. -/
def dumpArgs : ℕ → Option (List Byte) → List (BitVec 32)
  | 0, _ => []
  | _ + 1, none => []
  | n + 1, some tmp =>
    let (word, tmp) := strsep tmp (ascii ' ')
    match kstrtou32 word with
    | none => []
    | some v => v :: dumpArgs n tmp

/-- What `buf` holds up to its end. -/
def dumpBuf (user_buf : List Byte) : List Byte := (user_buf.take 254).takeWhile (· ≠ 0)

/-- `write_file_dump`; `fault` says that `copy_from_user` fails. -/
def writeFileDump (fw : Firmware) (user_buf : List Byte) (fault : Bool) (smd : Smd) :
    Option (Smd × ℤ) :=
  if fault then some (smd, -EFAULT)
  else do
    let arg := dumpArgs WCN36xx_MAX_DUMP_ARGS (some (dumpBuf user_buf))
    let (smd, _) ← smdCall fw (.request (.dumpCmdReq (arg.getD 0 0) (arg.getD 1 0) (arg.getD 2 0)
      (arg.getD 3 0) (arg.getD 4 0))) smd
    return (smd, user_buf.length)

/-- The numbers that the first words are, up to one that is none. -/
def numbers : List (List Byte) → List (BitVec 32)
  | [] => []
  | word :: words =>
    match kstrtou32 word with
    | none => []
    | some v => v :: numbers words

/-- The words that `strsep` finds. -/
theorem splitOn_strsep (s : List Byte) (delim : Byte) :
    s.splitOn delim = (strsep s delim).1 :: ((strsep s delim).2.elim [] fun s => s.splitOn delim) := by
  unfold strsep
  split_ifs with hmem
  · obtain ⟨front, back, rfl, hfront⟩ := List.eq_append_cons_of_mem hmem
    -- The front is what stands before the first delimiter.
    have hall : ∀ c ∈ front, decide (c ≠ delim) = true := by
      intro c hc
      rw [decide_eq_true_eq]
      rintro rfl
      exact hfront hc
    have hstop : ¬decide (delim ≠ delim) = true := by
      rw [decide_eq_true_eq]
      exact not_not.mpr rfl
    rw [List.splitOn_append_cons_self_of_not_mem hfront, List.takeWhile_append_of_pos hall,
      List.dropWhile_append_of_pos hall, List.takeWhile_cons_of_neg (p := fun c => decide (c ≠ delim)) hstop,
      List.dropWhile_cons_of_neg (p := fun c => decide (c ≠ delim)) hstop, List.append_nil]
    rfl
  · have hall : ∀ c ∈ s, decide (c ≠ delim) = true := by
      intro c hc
      rw [decide_eq_true_eq]
      rintro rfl
      exact hmem hc
    rw [List.splitOn_eq_singleton hmem, List.takeWhile_eq_self_iff.mpr hall]
    rfl

/-- The loop takes the numbers at the front. -/
theorem dumpArgs_eq (n : ℕ) : ∀ s, dumpArgs n (some s) = numbers ((s.splitOn (ascii ' ')).take n) := by
  induction n with
  | zero => exact fun s => rfl
  | succ n ih =>
    intro s
    rw [splitOn_strsep, List.take_succ_cons]
    unfold dumpArgs numbers
    dsimp only
    cases kstrtou32 (strsep s (ascii ' ')).1 with
    | none => rfl
    | some v =>
      cases (strsep s (ascii ' ')).2 with
      | none =>
        cases n with
        | zero => rfl
        | succ n => rfl
      | some s => exact congrArg (v :: ·) (ih s)

/-- Behind the words that are numbers stands one that is none, or nothing. -/
theorem numbers_spec (words : List (List Byte)) : ∃ front rest, words = front ++ rest ∧
    List.Forall₂ (fun w (v : BitVec 32) => IsNumber w v.toNat) front (numbers words) ∧
      ∀ w ∈ rest.head?, ∀ v : BitVec 32, ¬IsNumber w v.toNat := by
  induction words with
  | nil => exact ⟨[], [], rfl, .nil, fun w hw => by cases hw⟩
  | cons word words ih =>
    unfold numbers
    cases hword : kstrtou32 word with
    | none =>
      -- The loop ends at this word, whatever is behind it.
      refine ⟨[], word :: words, rfl, .nil, fun w hw v hv => ?_⟩
      rw [← kstrtou32_eq_some_iff, ← Option.some.inj hw, hword] at hv
      cases hv
    | some v =>
      obtain ⟨front, rest, rfl, hfront, hrest⟩ := ih
      exact ⟨word :: front, rest, rfl, .cons ((kstrtou32_eq_some_iff word v).mp hword) hfront, hrest⟩

/-- What the arguments are for some words: the numbers that the first of them are, and zero from the first
word on that is none. -/
def ArgsOf (words : List (List Byte)) (args : List (BitVec 32)) : Prop :=
  ∃ front rest vs, words = front ++ rest ∧
    List.Forall₂ (fun w (v : BitVec 32) => IsNumber w v.toNat) front vs ∧
    (∀ w ∈ rest.head?, ∀ v : BitVec 32, ¬IsNumber w v.toNat) ∧
    args = vs ++ List.replicate (WCN36xx_MAX_DUMP_ARGS - vs.length) 0

/-- Five numbers that are read from a list of at most five, with zeros behind. -/
theorem getD_eq_append_replicate {vs : List (BitVec 32)} (h : vs.length ≤ WCN36xx_MAX_DUMP_ARGS) :
    [vs.getD 0 0, vs.getD 1 0, vs.getD 2 0, vs.getD 3 0, vs.getD 4 0] =
      vs ++ List.replicate (WCN36xx_MAX_DUMP_ARGS - vs.length) 0 := by
  match vs, h with
  | [], _ | [_], _ | [_, _], _ | [_, _, _], _ | [_, _, _, _], _ | [_, _, _, _, _], _ => rfl

/-- No more words are numbers than there are. -/
theorem length_numbers_le (words : List (List Byte)) : (numbers words).length ≤ words.length := by
  obtain ⟨front, rest, hwords, hfront, -⟩ := numbers_spec words
  rw [← hfront.length_eq, hwords, List.length_append]
  exact Nat.le_add_right _ _

/-- The firmware reads the numbers, and zeros behind them. -/
theorem writeFileDump_numbers (fw : Firmware) {user_buf : List Byte} (smd : Smd)
    {vs : List (BitVec 32)}
    (hvs : numbers (((dumpBuf user_buf).splitOn (ascii ' ')).take WCN36xx_MAX_DUMP_ARGS) = vs) :
    ∃ msg args, msgType msg = HalReq.DUMP_COMMAND.reqType ∧
      (le32.vector WCN36xx_MAX_DUMP_ARGS).read (msg.drop HalMsgHeader.size) = some args ∧
      args.toList = vs ++ List.replicate (WCN36xx_MAX_DUMP_ARGS - vs.length) 0 ∧
      (FitsHalBuf fw → (writeFileDump fw user_buf false smd).isSome) ∧
      ∀ smd' ret, writeFileDump fw user_buf false smd = some (smd', ret) →
        ret = user_buf.length ∧ smd'.sent = smd.sent ++ [msg] := by
  have hlen : vs.length ≤ WCN36xx_MAX_DUMP_ARGS := by
    rw [← hvs]
    exact (length_numbers_le _).trans (List.length_take_le _ _)
  obtain ⟨r, hr⟩ : ∃ r : SmdRequest, r =
      .dumpCmdReq (vs.getD 0 0) (vs.getD 1 0) (vs.getD 2 0) (vs.getD 3 0) (vs.getD 4 0) := ⟨_, rfl⟩
  have hcompose : r.fn.compose = fixedMsg .DUMP_COMMAND ((le32.vector WCN36xx_MAX_DUMP_ARGS).write
      #v[vs.getD 0 0, vs.getD 1 0, vs.getD 2 0, vs.getD 3 0, vs.getD 4 0]) := by
    rw [hr]
    rfl
  have hbounds : r.InBounds := by
    rw [hr]
    trivial
  obtain ⟨msg, hmsg, htype, hread⟩ :=
    composes_read (le32.vector WCN36xx_MAX_DUMP_ARGS) .DUMP_COMMAND hcompose (by decide)
  have hrun : writeFileDump fw user_buf false smd =
      (smdCall fw (.request r) smd).map fun out => (out.1, (user_buf.length : ℤ)) := by
    unfold writeFileDump
    rw [if_neg Bool.false_ne_true, dumpArgs_eq, hvs, hr, Option.map_eq_bind]
    rfl
  refine ⟨msg, _, htype, hread, getD_eq_append_replicate hlen, fun hfw => ?_, fun smd' ret h => ?_⟩
  · rw [hrun, Option.isSome_map]
    exact smdCall_isSome hfw hbounds smd
  · rw [hrun] at h
    obtain ⟨⟨smd₁, result⟩, hcall, hend⟩ := Option.map_eq_some_iff.mp h
    cases hend
    exact ⟨rfl, hmsg.sent hcall⟩

/-- Whatever is written, the firmware gets one `DUMP_COMMAND`, with the numbers that the first words of
what fits `buf` are, and zeros from the first word on that is no number of 32 bits. The call comes to an
end when the firmware's responses fit `hal_buf`. -/
theorem writeFileDump_sends (fw : Firmware) (user_buf : List Byte) (smd : Smd) :
    ∃ msg args, msgType msg = HalReq.DUMP_COMMAND.reqType ∧
      (le32.vector WCN36xx_MAX_DUMP_ARGS).read (msg.drop HalMsgHeader.size) = some args ∧
      ArgsOf (((dumpBuf user_buf).splitOn (ascii ' ')).take WCN36xx_MAX_DUMP_ARGS) args.toList ∧
      (FitsHalBuf fw → (writeFileDump fw user_buf false smd).isSome) ∧
      ∀ smd' ret, writeFileDump fw user_buf false smd = some (smd', ret) →
        ret = user_buf.length ∧ smd'.sent = smd.sent ++ [msg] := by
  obtain ⟨msg, args, htype, hread, hargs, hruns, hsent⟩ := writeFileDump_numbers fw smd rfl
  obtain ⟨front, rest, hwords, hfront, hrest⟩ :=
    numbers_spec (((dumpBuf user_buf).splitOn (ascii ' ')).take WCN36xx_MAX_DUMP_ARGS)
  exact ⟨msg, args, htype, hread, ⟨front, rest, _, hwords, hfront, hrest, hargs⟩, hruns, hsent⟩

/-- `7`, `x` and `9`: the second word is no number, so the third is not looked at. -/
theorem writeFileDump_sends_seven : ∃ smd' ret,
    writeFileDump ackFirmware ("7 x 9".toList.map ascii) false zeroSmd = some (smd', ret) ∧
    ret = ("7 x 9".toList.map ascii).length ∧ ∃ msg args, smd'.sent = zeroSmd.sent ++ [msg] ∧
      msgType msg = HalReq.DUMP_COMMAND.reqType ∧
      (le32.vector WCN36xx_MAX_DUMP_ARGS).read (msg.drop HalMsgHeader.size) = some args ∧
      ArgsOf (((dumpBuf ("7 x 9".toList.map ascii)).splitOn (ascii ' ')).take WCN36xx_MAX_DUMP_ARGS)
        args.toList := by
  obtain ⟨msg, args, htype, hread, hargs, hruns, hsent⟩ :=
    writeFileDump_sends ackFirmware ("7 x 9".toList.map ascii) zeroSmd
  obtain ⟨⟨smd', ret⟩, h⟩ := Option.isSome_iff_exists.mp (hruns fitsHalBuf_ackFirmware)
  obtain ⟨hret, hmsg⟩ := hsent smd' ret h
  exact ⟨smd', ret, h, hret, msg, args, hmsg, htype, hread, hargs⟩

/-! ## What is read of what one writes -/

/-- The ways to write a number. -/
inductive Radix where
  | decimal
  | octal
  | hexadecimal

/-- The base. -/
def Radix.base : Radix → ℕ
  | decimal => 10
  | octal => 8
  | hexadecimal => 16

/-- What stands before the digits. -/
def Radix.lead : Radix → List Byte
  | decimal => []
  | octal => [ascii '0']
  | hexadecimal => [ascii '0', ascii 'x']

/-- The character for a digit. -/
def digitChar (d : ℕ) : Byte :=
  if d < 10 then BitVec.ofNat 8 ('0'.toNat + d) else BitVec.ofNat 8 ('a'.toNat + (d - 10))

/-- A number as one writes it. -/
def Radix.numeral (r : Radix) (n : ℕ) : List Byte := r.lead ++ print r.base digitChar n

/-- What one writes to the file, as `echo` ends it. -/
def dumpText : List (Radix × BitVec 32) → List Byte
  | [] => [ascii '\n']
  | [x] => x.1.numeral x.2.toNat ++ [ascii '\n']
  | x :: y :: xs => x.1.numeral x.2.toNat ++ ascii ' ' :: dumpText (y :: xs)

theorem digit_digitChar : ∀ d < 16, digit (digitChar d) = some d := by decide

theorem Radix.one_lt_base (r : Radix) : 1 < r.base := by cases r <;> decide

/-- The characters for the digits of a base. -/
theorem Radix.digit_digitChar (r : Radix) : ∀ d < r.base, digit (digitChar d) = some d := by
  intro d hd
  refine Wcn36xx.digit_digitChar d (hd.trans_le ?_)
  cases r <;> decide

/-- A numeral is read as the number that it has been written for. -/
theorem Radix.isNumeral (r : Radix) (n : ℕ) : IsNumeral (r.numeral n) n := by
  have hvalue := Support.Numerals.value_print r.one_lt_base r.digit_digitChar n
  have hdigits : ∀ c ∈ print r.base digitChar n, isDigit digit r.base c = true := fun c hc =>
    Support.Numerals.isDigit_of_mem_print r.one_lt_base r.digit_digitChar hc
  have ne := Support.Numerals.print_ne_nil (b := r.base) digitChar n
  cases r with
  | decimal =>
    by_cases hn : n = 0
    · -- Zero begins with a zero.
      rw [hn]
      exact show IsNumeral [ascii '0'] (value digit 8 [ascii '0']) from .octal (by decide) rfl
    · obtain ⟨d, hpos, hlt, hhead⟩ := Support.Numerals.head?_print decimal.one_lt_base digitChar hn
      have hzero : ∀ d < 10, 0 < d → digitChar d ≠ ascii '0' := by decide
      have hnum := IsNumeral.decimal ne hdigits (by
        rw [hhead]
        exact fun h => hzero d hlt hpos (Option.some.inj h))
      change value digit 10 _ = n at hvalue
      rwa [hvalue] at hnum
  | octal =>
    have hnum := IsNumeral.octal (List.forall_mem_cons.mpr ⟨by decide, hdigits⟩)
      (show (ascii '0' :: _).head? = some (ascii '0') from rfl)
    change value digit 8 _ = n at hvalue
    rwa [show value digit 8 (ascii '0' :: _) = _ from hvalue] at hnum
  | hexadecimal =>
    have hnum := IsNumeral.hexadecimal (.inl rfl) ne hdigits
    change value digit 16 _ = n at hvalue
    rwa [hvalue] at hnum

/-- In a numeral there is no space and no end of the string. -/
theorem Radix.mem_numeral {r : Radix} {n : ℕ} {c : Byte} (hc : c ∈ r.numeral n) :
    c ≠ 0 ∧ c ≠ ascii ' ' := by
  rcases List.mem_append.mp hc with hc | hc
  · have hlead : ∀ c ∈ r.lead, c ≠ 0 ∧ c ≠ ascii ' ' := by cases r <;> decide
    exact hlead c hc
  · have hdigit := Support.Numerals.isDigit_of_mem_print r.one_lt_base r.digit_digitChar hc
    have hzero : isDigit digit r.base 0 = false := by cases r <;> decide
    have hspace : isDigit digit r.base (ascii ' ') = false := by cases r <;> decide
    constructor
    · rintro rfl
      rw [hzero] at hdigit
      cases hdigit
    · rintro rfl
      rw [hspace] at hdigit
      cases hdigit

/-- A number of 32 bits is at most twelve characters. -/
theorem Radix.length_numeral_le (r : Radix) (v : BitVec 32) : (r.numeral v.toNat).length ≤ 12 := by
  have hprint : ∀ k, 0 < k → 2 ^ 32 ≤ r.base ^ k → (print r.base digitChar v.toNat).length ≤ k :=
    fun k hk hpow => Support.Numerals.length_print_le r.one_lt_base hk (v.isLt.trans_le hpow)
  rw [numeral, List.length_append]
  cases r with
  | decimal =>
    have hlen := hprint 10 (by decide) (by decide)
    exact (Nat.add_le_add_left hlen 0).trans (by decide)
  | octal => exact Nat.add_le_add_left (hprint 11 (by decide) (by decide)) 1
  | hexadecimal =>
    have hlen := hprint 8 (by decide) (by decide)
    exact (Nat.add_le_add_left hlen 2).trans (by decide)

/-- Five numbers fit the buffer. -/
theorem length_dumpText_le (xs : List (Radix × BitVec 32)) :
    (dumpText xs).length ≤ 13 * xs.length + 1 := by
  induction xs using dumpText.induct with
  | case1 => exact Nat.le_refl 1
  | case2 x =>
    have hlen := x.1.length_numeral_le x.2
    rw [dumpText, List.length_append, List.length_singleton, List.length_singleton]
    omega
  | case3 x y xs ih =>
    have hlen := x.1.length_numeral_le x.2
    rw [dumpText, List.length_append, List.length_cons, List.length_cons]
    omega

/-- There is no end of the string in what is written. -/
theorem ne_zero_of_mem_dumpText (xs : List (Radix × BitVec 32)) : ∀ c ∈ dumpText xs, c ≠ 0 := by
  induction xs using dumpText.induct with
  | case1 => decide
  | case2 x =>
    intro c hc
    rcases List.mem_append.mp hc with hc | hc
    · exact (Radix.mem_numeral hc).1
    · rw [List.mem_singleton.mp hc]
      decide
  | case3 x y xs ih =>
    intro c hc
    rcases List.mem_append.mp hc with hc | hc
    · exact (Radix.mem_numeral hc).1
    · rcases List.mem_cons.mp hc with rfl | hc
      · decide
      · exact ih c hc

/-- The buffer holds all that is written. -/
theorem dumpBuf_dumpText {xs : List (Radix × BitVec 32)} (h : xs.length ≤ WCN36xx_MAX_DUMP_ARGS) :
    dumpBuf (dumpText xs) = dumpText xs := by
  have hlen := length_dumpText_le xs
  have hmax : WCN36xx_MAX_DUMP_ARGS = 5 := rfl
  rw [dumpBuf, List.take_of_length_le (by omega), List.takeWhile_eq_self_iff]
  exact fun c hc => decide_eq_true (ne_zero_of_mem_dumpText xs c hc)

/-- A word that is written is taken for its number. -/
theorem Radix.kstrtou32_numeral (r : Radix) (v : BitVec 32) {newline : List Byte}
    (hnl : newline = [] ∨ newline = [ascii '\n']) :
    kstrtou32 (r.numeral v.toNat ++ newline) = some v :=
  (kstrtou32_eq_some_iff _ v).mpr ⟨[], _, newline, rfl, .inl rfl, r.isNumeral v.toNat, hnl⟩

/-- The words of what is written are the numbers. -/
theorem numbers_dumpText (xs : List (Radix × BitVec 32)) : ∀ n, xs.length ≤ n →
    numbers (((dumpText xs).splitOn (ascii ' ')).take n) = xs.map Prod.snd := by
  induction xs using dumpText.induct with
  | case1 =>
    intro n hn
    cases n with
    | zero => rfl
    | succ n => rfl
  | case2 x =>
    intro n hn
    obtain ⟨n, rfl⟩ := Nat.exists_eq_add_of_le' (show 1 ≤ n from hn)
    -- The last word ends with the newline, which `kstrtou32` passes over.
    have hspace : ascii ' ' ∉ x.1.numeral x.2.toNat ++ [ascii '\n'] := by
      intro hc
      rcases List.mem_append.mp hc with hc | hc
      · exact (Radix.mem_numeral hc).2 rfl
      · exact absurd (List.mem_singleton.mp hc) (by decide)
    rw [dumpText, List.splitOn_eq_singleton hspace, List.take_succ_cons, List.take_nil, numbers,
      x.1.kstrtou32_numeral x.2 (.inr rfl)]
    rfl
  | case3 x y xs ih =>
    intro n hn
    obtain ⟨n, rfl⟩ := Nat.exists_eq_add_of_le' ((Nat.succ_le_succ (Nat.zero_le _)).trans hn)
    have hspace : ascii ' ' ∉ x.1.numeral x.2.toNat := fun hc => (Radix.mem_numeral hc).2 rfl
    have hword := x.1.kstrtou32_numeral x.2 (.inl rfl)
    rw [List.append_nil] at hword
    rw [dumpText, List.splitOn_append_cons_self_of_not_mem hspace, List.take_succ_cons, numbers, hword]
    exact congrArg (x.2 :: ·) (ih n (Nat.le_of_succ_le_succ hn))

/-- Up to five numbers that one writes, each in any way, are what the firmware gets. -/
theorem writeFileDump_dumpText (fw : Firmware) {xs : List (Radix × BitVec 32)}
    (hlen : xs.length ≤ WCN36xx_MAX_DUMP_ARGS) (smd : Smd) :
    ∃ msg args, msgType msg = HalReq.DUMP_COMMAND.reqType ∧
      (le32.vector WCN36xx_MAX_DUMP_ARGS).read (msg.drop HalMsgHeader.size) = some args ∧
      args.toList = xs.map Prod.snd ++ List.replicate (WCN36xx_MAX_DUMP_ARGS - xs.length) 0 ∧
      (FitsHalBuf fw → (writeFileDump fw (dumpText xs) false smd).isSome) ∧
      ∀ smd' ret, writeFileDump fw (dumpText xs) false smd = some (smd', ret) →
        smd'.sent = smd.sent ++ [msg] := by
  have hnumbers := numbers_dumpText xs WCN36xx_MAX_DUMP_ARGS hlen
  rw [← dumpBuf_dumpText hlen] at hnumbers
  obtain ⟨msg, args, htype, hread, hargs, hruns, hsent⟩ := writeFileDump_numbers fw smd hnumbers
  rw [List.length_map] at hargs
  exact ⟨msg, args, htype, hread, hargs, hruns, fun smd' ret h => (hsent smd' ret h).2⟩

/-- `7 0x1f 010`. -/
theorem writeFileDump_dumpText_three : ∃ smd' ret,
    writeFileDump ackFirmware (dumpText [(.decimal, 7), (.hexadecimal, 31), (.octal, 8)]) false zeroSmd =
      some (smd', ret) ∧
    ∃ msg args, smd'.sent = zeroSmd.sent ++ [msg] ∧ msgType msg = HalReq.DUMP_COMMAND.reqType ∧
      (le32.vector WCN36xx_MAX_DUMP_ARGS).read (msg.drop HalMsgHeader.size) = some args ∧
      args.toList = [(Radix.decimal, 7), (.hexadecimal, 31), (.octal, 8)].map Prod.snd ++
        List.replicate (WCN36xx_MAX_DUMP_ARGS - 3) (0 : BitVec 32) := by
  have hlen : [(Radix.decimal, (7 : BitVec 32)), (.hexadecimal, 31), (.octal, 8)].length ≤
    WCN36xx_MAX_DUMP_ARGS := by decide
  obtain ⟨msg, args, htype, hread, hargs, hruns, hsent⟩ :=
    writeFileDump_dumpText ackFirmware hlen zeroSmd
  obtain ⟨⟨smd', ret⟩, h⟩ := Option.isSome_iff_exists.mp (hruns fitsHalBuf_ackFirmware)
  exact ⟨smd', ret, h, msg, args, hsent smd' ret h, htype, hread, hargs⟩

end Wcn36xx
