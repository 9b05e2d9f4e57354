import Wcn36xx.Dxe.Construct
import Wcn36xx.Dxe.Rx

/-!
# The registers of the DMA engine

The register file behind `wcn->mmio`, and what `wcn36xx_dxe_init` writes to it. The engine starts a
channel at the bus address in its NEXT register, and goes on to the `phy_next_l` of the descriptor that it
is at. `BusLinked` says that this keeps it on the ring, in the order of the array.
-/

namespace Wcn36xx

/-! ## Registers -/

/-- `WCN36XX_DXE_REG_CSR_RESET`. -/
def WCN36XX_DXE_REG_CSR_RESET : BitVec 32 := 0x202000 + 0x00
/-- `WCN36XX_DXE_INT_MASK_REG`. -/
def WCN36XX_DXE_INT_MASK_REG : BitVec 32 := 0x202000 + 0x18
/-- `WCN36XX_DXE_REG_RESET`. -/
def WCN36XX_DXE_REG_RESET : BitVec 32 := 0x5c89
/-- `WCN36XX_DXE_CCU_INT`. -/
def WCN36XX_DXE_CCU_INT : BitVec 32 := 0xA0011
/-- `WCN36XX_DXE_CH_DEFAULT_CTL_RX_L`. -/
def WCN36XX_DXE_CH_DEFAULT_CTL_RX_L : BitVec 32 := 0x847EAD2F
/-- `WCN36XX_DXE_CH_DEFAULT_CTL_RX_H`. -/
def WCN36XX_DXE_CH_DEFAULT_CTL_RX_H : BitVec 32 := 0x84FED12F

/-- `wcn->chip_version`. -/
inductive ChipVersion where
  /-- `WCN36XX_CHIP_3660`. -/
  | chip3660
  /-- `WCN36XX_CHIP_3680`. -/
  | chip3680
  deriving DecidableEq, Repr

/-- `WCN36XX_DXE_REG_CCU_INT_3660` and `WCN36XX_DXE_REG_CCU_INT_3680`. -/
def WCN36XX_DXE_REG_CCU_INT : ChipVersion → BitVec 32
  | .chip3660 => 0x200b10
  | .chip3680 => 0x2050dc

/-- `WCN36XX_DXE_TX_LOW_OFFSET` and so on: the registers of a channel. -/
def dxeChOffset : DxeChType → BitVec 32
  | .txL => 0x400
  | .txH => 0x500
  | .rxL => 0x440
  | .rxH => 0x4C0

/-- `WCN36XX_DXE_CH_NEXT_DESC_ADDR_TX_L` and so on. -/
def WCN36XX_DXE_CH_NEXT_DESC_ADDR (c : DxeChType) : BitVec 32 := 0x202000 + dxeChOffset c + 0x001C

/-- `WCN36XX_DXE_CH_SRC_ADDR_RX_L` and so on. -/
def WCN36XX_DXE_CH_SRC_ADDR (c : DxeChType) : BitVec 32 := 0x202000 + dxeChOffset c + 0x000C

/-- `WCN36XX_DXE_CH_DEST_ADDR_TX_L` and so on. -/
def WCN36XX_DXE_CH_DEST_ADDR (c : DxeChType) : BitVec 32 := 0x202000 + dxeChOffset c + 0x0014

/-- `WCN36XX_DXE_REG_CTL_RX_L` and so on. -/
def WCN36XX_DXE_REG_CTL (c : DxeChType) : BitVec 32 := 0x202000 + dxeChOffset c

/-- `WCN36XX_INT_MASK_CHAN_TX_L` and so on. -/
def WCN36XX_INT_MASK_CHAN : DxeChType → BitVec 16
  | .txL => 0x0001
  | .rxL => 0x0002
  | .rxH => 0x0008
  | .txH => 0x0010

/-- The registers, by their offset from `wcn->mmio`. -/
abbrev Regs := BitVec 32 → BitVec 32

/-- `wcn36xx_dxe_write_register`. -/
def dxeWriteRegister (regs : Regs) (addr data : BitVec 32) : Regs := Function.update regs addr data

/-- `wcn36xx_dxe_read_register`. -/
def dxeReadRegister (regs : Regs) (addr : BitVec 32) : BitVec 32 := regs addr

/-- `wcn36xx_dxe_write_register_x` of the interrupt path. -/
def dxeWriteRegisterX (chip_version : ChipVersion) (regs : Regs) (data : BitVec 32) : Regs :=
  dxeWriteRegister regs (WCN36XX_DXE_REG_CCU_INT chip_version) data

/-- `wcn36xx_dxe_enable_ch_int`. -/
def dxeEnableChInt (regs : Regs) (wcn_ch : BitVec 16) : Regs :=
  let reg_data := dxeReadRegister regs WCN36XX_DXE_INT_MASK_REG
  dxeWriteRegister regs WCN36XX_DXE_INT_MASK_REG (reg_data ||| wcn_ch.setWidth 32)

/-- The register accesses of `wcn36xx_dxe_init` for the TX channel of type `c` with work queue `wq`. What
it reads from `WCN36XX_DXE_REG_CH_EN` is not used. -/
def dxeInitTxRegs (c : DxeChType) (wq : BitVec 32) (ch : DxeCh) (regs : Regs) : Option Regs := do
  let head ← ch.head_blk_ctl.bind ch.ctl
  let regs := dxeWriteRegister regs (WCN36XX_DXE_CH_NEXT_DESC_ADDR c) head.desc_phy_addr
  let regs := dxeWriteRegister regs (WCN36XX_DXE_CH_DEST_ADDR c) wq
  return dxeEnableChInt regs (WCN36XX_INT_MASK_CHAN c)

/-- The register accesses of `wcn36xx_dxe_init` for the RX channel of type `c` with work queue `wq`. -/
def dxeInitRxRegs (c : DxeChType) (wq ctl : BitVec 32) (ch : DxeCh) (regs : Regs) : Option Regs := do
  let head ← ch.head_blk_ctl.bind ch.ctl
  let regs := dxeWriteRegister regs (WCN36XX_DXE_CH_NEXT_DESC_ADDR c) head.desc_phy_addr
  let regs := dxeWriteRegister regs (WCN36XX_DXE_CH_SRC_ADDR c) wq
  -- `Program preallocated destination address`: it is the one of the next descriptor.
  let desc ← head.desc
  let regs := dxeWriteRegister regs (WCN36XX_DXE_CH_DEST_ADDR c) (ch.dxe desc).phy_next_l
  let regs := dxeWriteRegister regs (WCN36XX_DXE_REG_CTL c) ctl
  return dxeEnableChInt regs (WCN36XX_INT_MASK_CHAN c)

/-- The register accesses of `wcn36xx_dxe_init`, in its order, with the channels as it sets them up. -/
def dxeInitRegs (chip_version : ChipVersion) (ch : DxeChType → DxeCh) (regs : Regs) : Option Regs := do
  let regs := dxeWriteRegister regs WCN36XX_DXE_REG_CSR_RESET WCN36XX_DXE_REG_RESET
  let regs := dxeWriteRegisterX chip_version regs WCN36XX_DXE_CCU_INT
  let regs ← dxeInitTxRegs .txL WCN36XX_DXE_WQ_TX_L (ch .txL) regs
  let regs ← dxeInitTxRegs .txH WCN36XX_DXE_WQ_TX_H (ch .txH) regs
  let regs ← dxeInitRxRegs .rxL WCN36XX_DXE_WQ_RX_L WCN36XX_DXE_CH_DEFAULT_CTL_RX_L (ch .rxL) regs
  dxeInitRxRegs .rxH WCN36XX_DXE_WQ_RX_H WCN36XX_DXE_CH_DEFAULT_CTL_RX_H (ch .rxH) regs

/-! ### What is in them afterwards -/

section Programmed

variable {c : DxeChType} {wq ctl : BitVec 32} {ch : DxeCh} {regs regs' : Regs}

/-- The NEXT registers of the channels are different registers, and nothing else that `wcn36xx_dxe_init`
writes for a channel is one of them. -/
theorem nextAddr_ne (c c' : DxeChType) :
    (c ≠ c' → WCN36XX_DXE_CH_NEXT_DESC_ADDR c ≠ WCN36XX_DXE_CH_NEXT_DESC_ADDR c') ∧
    WCN36XX_DXE_CH_NEXT_DESC_ADDR c ≠ WCN36XX_DXE_CH_SRC_ADDR c' ∧
    WCN36XX_DXE_CH_NEXT_DESC_ADDR c ≠ WCN36XX_DXE_CH_DEST_ADDR c' ∧
    WCN36XX_DXE_CH_NEXT_DESC_ADDR c ≠ WCN36XX_DXE_REG_CTL c' ∧
    WCN36XX_DXE_CH_NEXT_DESC_ADDR c ≠ WCN36XX_DXE_INT_MASK_REG := by
  cases c <;> cases c' <;> decide

/-- What has become of the registers when a channel has been programmed: its NEXT register holds the
address of the head's descriptor, its interrupt is enabled, and no other NEXT register has changed. -/
structure ProgramsCh (c : DxeChType) (ch : DxeCh) (regs regs' : Regs) : Prop where
  next : ∃ head, ch.head_blk_ctl.bind ch.ctl = some head ∧
    regs' (WCN36XX_DXE_CH_NEXT_DESC_ADDR c) = head.desc_phy_addr
  mask : regs' WCN36XX_DXE_INT_MASK_REG =
    regs WCN36XX_DXE_INT_MASK_REG ||| (WCN36XX_INT_MASK_CHAN c).setWidth 32
  others : ∀ c', c' ≠ c →
    regs' (WCN36XX_DXE_CH_NEXT_DESC_ADDR c') = regs (WCN36XX_DXE_CH_NEXT_DESC_ADDR c')

/-- None of the registers of a channel is the interrupt mask. -/
theorem maskReg_ne (c : DxeChType) : WCN36XX_DXE_INT_MASK_REG ≠ WCN36XX_DXE_CH_NEXT_DESC_ADDR c ∧
    WCN36XX_DXE_INT_MASK_REG ≠ WCN36XX_DXE_CH_SRC_ADDR c ∧
    WCN36XX_DXE_INT_MASK_REG ≠ WCN36XX_DXE_CH_DEST_ADDR c ∧
    WCN36XX_DXE_INT_MASK_REG ≠ WCN36XX_DXE_REG_CTL c := by
  cases c <;> decide

/-- A TX channel. -/
theorem dxeInitTxRegs_programs (h : dxeInitTxRegs c wq ch regs = some regs') :
    ProgramsCh c ch regs regs' := by
  simp only [dxeInitTxRegs, Option.bind_eq_bind, Option.bind_eq_some_iff, Option.pure_def,
    Option.some.injEq] at h
  obtain ⟨head, hhead, rfl⟩ := h
  obtain ⟨-, -, hdest, -, hmask⟩ := nextAddr_ne c c
  obtain ⟨hnext', -, hdest', -⟩ := maskReg_ne c
  unfold dxeEnableChInt dxeWriteRegister dxeReadRegister
  constructor
  · refine ⟨head, Option.bind_eq_some_iff.mpr hhead, ?_⟩
    rw [Function.update_of_ne hmask, Function.update_of_ne hdest, Function.update_self]
  · rw [Function.update_self, Function.update_of_ne hdest', Function.update_of_ne hnext']
  · intro c' hc
    obtain ⟨hne, -, hdest, -, hmask⟩ := nextAddr_ne c' c
    rw [Function.update_of_ne hmask, Function.update_of_ne hdest, Function.update_of_ne (hne hc)]

/-- An RX channel. -/
theorem dxeInitRxRegs_programs (h : dxeInitRxRegs c wq ctl ch regs = some regs') :
    ProgramsCh c ch regs regs' := by
  simp only [dxeInitRxRegs, Option.bind_eq_bind, Option.bind_eq_some_iff, Option.pure_def,
    Option.some.injEq] at h
  obtain ⟨head, hhead, desc, -, rfl⟩ := h
  obtain ⟨-, hsrc, hdest, hctl, hmask⟩ := nextAddr_ne c c
  obtain ⟨hnext', hsrc', hdest', hctl'⟩ := maskReg_ne c
  unfold dxeEnableChInt dxeWriteRegister dxeReadRegister
  constructor
  · refine ⟨head, Option.bind_eq_some_iff.mpr hhead, ?_⟩
    rw [Function.update_of_ne hmask, Function.update_of_ne hctl, Function.update_of_ne hdest,
      Function.update_of_ne hsrc, Function.update_self]
  · rw [Function.update_self, Function.update_of_ne hctl', Function.update_of_ne hdest',
      Function.update_of_ne hsrc', Function.update_of_ne hnext']
  · intro c' hc
    obtain ⟨hne, hsrc, hdest, hctl, hmask⟩ := nextAddr_ne c' c
    rw [Function.update_of_ne hmask, Function.update_of_ne hctl, Function.update_of_ne hdest,
      Function.update_of_ne hsrc, Function.update_of_ne (hne hc)]

end Programmed

/-- After `wcn36xx_dxe_init` the NEXT register of every channel holds the address of the descriptor of the
channel's head, and the interrupts of the four channels are enabled besides those that were. -/
theorem dxeInitRegs_spec {chip_version : ChipVersion} {ch : DxeChType → DxeCh} {regs regs' : Regs}
    (h : dxeInitRegs chip_version ch regs = some regs') :
    (∀ c, ∃ head, (ch c).head_blk_ctl.bind (ch c).ctl = some head ∧
      regs' (WCN36XX_DXE_CH_NEXT_DESC_ADDR c) = head.desc_phy_addr) ∧
    regs' WCN36XX_DXE_INT_MASK_REG = regs WCN36XX_DXE_INT_MASK_REG ||| 0x1B := by
  simp only [dxeInitRegs, Option.bind_eq_bind, Option.bind_eq_some_iff] at h
  obtain ⟨r₁, h₁, r₂, h₂, r₃, h₃, h₄⟩ := h
  have p₁ := dxeInitTxRegs_programs h₁
  have p₂ := dxeInitTxRegs_programs h₂
  have p₃ := dxeInitRxRegs_programs h₃
  have p₄ := dxeInitRxRegs_programs h₄
  constructor
  · intro c
    -- What is programmed later does not reach the NEXT register of `c`.
    cases c
    · rw [p₄.others _ (by decide), p₃.others _ (by decide), p₂.others _ (by decide)]
      exact p₁.next
    · rw [p₄.others _ (by decide), p₃.others _ (by decide)]
      exact p₂.next
    · rw [p₄.others _ (by decide)]
      exact p₃.next
    · exact p₄.next
  · have hreset : WCN36XX_DXE_INT_MASK_REG ≠ WCN36XX_DXE_REG_CSR_RESET := by decide
    have hccu : WCN36XX_DXE_INT_MASK_REG ≠ WCN36XX_DXE_REG_CCU_INT chip_version := by
      cases chip_version <;> decide
    rw [p₄.mask, p₃.mask, p₂.mask, p₁.mask]
    unfold dxeWriteRegisterX dxeWriteRegister
    rw [Function.update_of_ne hccu, Function.update_of_ne hreset]
    simp only [BitVec.or_assoc]
    rfl

/-- Channels that have heads are programmed. The head of an RX channel must have its descriptor. -/
theorem exists_dxeInitRegs (chip_version : ChipVersion) {ch : DxeChType → DxeCh} (regs : Regs)
    (hhead : ∀ c, ∃ head, (ch c).head_blk_ctl.bind (ch c).ctl = some head ∧
      (c = .rxL ∨ c = .rxH → head.desc.isSome = true)) :
    ∃ regs', dxeInitRegs chip_version ch regs = some regs' := by
  obtain ⟨txl, htxl, -⟩ := hhead .txL
  obtain ⟨txh, htxh, -⟩ := hhead .txH
  obtain ⟨rxl, hrxl, hdesc⟩ := hhead .rxL
  obtain ⟨rxh, hrxh, hdesc'⟩ := hhead .rxH
  obtain ⟨i, hi⟩ := Option.isSome_iff_exists.mp (hdesc (.inl rfl))
  obtain ⟨j, hj⟩ := Option.isSome_iff_exists.mp (hdesc' (.inr rfl))
  apply Option.isSome_iff_exists.mp
  simp only [dxeInitRegs, dxeInitTxRegs, dxeInitRxRegs, htxl, htxh, hrxl, hrxh, hi, hj,
    Option.bind_eq_bind, Option.bind_some, Option.pure_def, Option.isSome_some]

/-! ## The engine on the ring -/

/-- The engine that is at descriptor `i` of the ring goes on to the next one of the array, and from the
last one to the first. -/
def DxeCh.BusLinked (ch : DxeCh) : Prop :=
  ∀ i, i < ch.desc_num → ch.descAt (ch.dxe i).phy_next_l = some ((i + 1) % ch.desc_num)

/-- A descriptor that an address denotes is in the array. -/
theorem DxeCh.descAt_lt {ch : DxeCh} {phy : BitVec 32} {i : ℕ} (h : ch.descAt phy = some i) :
    i < ch.desc_num := by
  unfold DxeCh.descAt at h
  dsimp only at h
  split_ifs at h with hin
  rw [← Option.some.inj h]
  exact hin.2.2

/-- The array of descriptors is where it was, and each descriptor is linked to the same one. -/
structure DxeCh.SameBus (ch ch' : DxeCh) : Prop where
  dma_addr : ch'.dma_addr = ch.dma_addr
  desc_num : ch'.desc_num = ch.desc_num
  next : ∀ i, (ch'.dxe i).phy_next_l = (ch.dxe i).phy_next_l

namespace DxeCh.SameBus

variable {ch ch' ch'' : DxeCh}

/-- Nothing has happened to the array. -/
theorem of_eq (hdma : ch'.dma_addr = ch.dma_addr) (hnum : ch'.desc_num = ch.desc_num)
    (hdxe : ch'.dxe = ch.dxe) : ch.SameBus ch' :=
  ⟨hdma, hnum, fun i => by rw [hdxe]⟩

/-- One change after the other. -/
theorem trans (h : ch.SameBus ch') (h' : ch'.SameBus ch'') : ch.SameBus ch'' :=
  ⟨h'.dma_addr.trans h.dma_addr, h'.desc_num.trans h.desc_num,
    fun i => (h'.next i).trans (h.next i)⟩

/-- A bus address denotes the same descriptor. -/
theorem descAt (h : ch.SameBus ch') (phy : BitVec 32) : ch'.descAt phy = ch.descAt phy := by
  unfold DxeCh.descAt
  rw [h.dma_addr, h.desc_num]

/-- The other fields of a descriptor may change. -/
theorem modDesc (ch : DxeCh) (i : ℕ) {f : DxeDesc → DxeDesc}
    (hf : ∀ d : DxeDesc, (f d).phy_next_l = d.phy_next_l) : ch.SameBus (ch.modDesc i f) where
  dma_addr := rfl
  desc_num := rfl
  next j := by
    rcases eq_or_ne j i with rfl | hj
    · simp only [DxeCh.modDesc, Function.update_self, hf]
    · simp only [DxeCh.modDesc, Function.update_of_ne hj]

/-- So may the control blocks. -/
theorem modCtl {p : ℕ} {f : DxeCtl → DxeCtl} (h : ch.modCtl p f = some ch') : ch.SameBus ch' := by
  obtain ⟨c, -, rfl⟩ := Option.map_eq_some_iff.mp h
  exact of_eq rfl rfl rfl

/-- The engine stays on the ring. -/
theorem busLinked (h : ch.SameBus ch') (hlinked : ch.BusLinked) : ch'.BusLinked := by
  intro i hi
  rw [h.desc_num] at hi ⊢
  rw [h.descAt, h.next]
  exact hlinked i hi

end DxeCh.SameBus

/-- The engine is on the ring when `wcn36xx_dxe_init_descs` has linked the descriptors of an array that
does not wrap. -/
theorem busLinked_of_initialized {ch : DxeCh} {ty : DxeChType}
    (hwrap : ch.dma_addr.toNat + ch.desc_num * DxeDesc.size ≤ 2 ^ 32)
    (hdxe : ch.dxe = initializedDesc ty ch.dma_addr ch.desc_num ch.desc_num) : ch.BusLinked := by
  intro i hi
  have hn : 0 < ch.desc_num := by omega
  have hnext := initializedDesc_next ty ch.dma_addr hn i
  rw [Nat.mod_eq_of_lt hi] at hnext
  rw [hdxe, hnext]
  exact descAt_descPhy hwrap ch rfl rfl (Nat.mod_lt _ hn)

end Wcn36xx
