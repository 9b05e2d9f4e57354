import Wcn36xx.Kernel
import Mathlib.Logic.Function.Basic

/-!
# DXE channels and their memory

The structures of `dxe.h`. A channel carries the memory that only it can reach: the control blocks
that its ring is made of, as a heap with addresses that are never used twice, its array of DMA
descriptors, and the bytes of its buffer descriptors. A pointer to a control block is its address,
a natural number, or `none` when it is null. Reading through a null or stale pointer is a
fault, `none`.
-/

namespace Wcn36xx

/-- `WCN36XX_DXE_CTRL_TX_L`. -/
def WCN36XX_DXE_CTRL_TX_L : BitVec 32 := 0x328a44
/-- `WCN36XX_DXE_CTRL_TX_H`. -/
def WCN36XX_DXE_CTRL_TX_H : BitVec 32 := 0x32ce44
/-- `WCN36XX_DXE_CTRL_RX_L`. -/
def WCN36XX_DXE_CTRL_RX_L : BitVec 32 := 0x12ad2f
/-- `WCN36XX_DXE_CTRL_RX_H`. -/
def WCN36XX_DXE_CTRL_RX_H : BitVec 32 := 0x12d12f
/-- `WCN36XX_DXE_CTRL_TX_H_BD`. -/
def WCN36XX_DXE_CTRL_TX_H_BD : BitVec 32 := 0x30ce45
/-- `WCN36XX_DXE_CTRL_TX_H_SKB`. -/
def WCN36XX_DXE_CTRL_TX_H_SKB : BitVec 32 := 0x32ce4d
/-- `WCN36XX_DXE_CTRL_TX_L_BD`. -/
def WCN36XX_DXE_CTRL_TX_L_BD : BitVec 32 := 0x308a45
/-- `WCN36XX_DXE_CTRL_TX_L_SKB`. -/
def WCN36XX_DXE_CTRL_TX_L_SKB : BitVec 32 := 0x328a4d
/-- `WCN36XX_DXE_WQ_TX_L`. -/
def WCN36XX_DXE_WQ_TX_L : BitVec 32 := 0x17
/-- `WCN36XX_DXE_WQ_TX_H`. -/
def WCN36XX_DXE_WQ_TX_H : BitVec 32 := 0x17
/-- `WCN36XX_DXE_WQ_RX_L`. -/
def WCN36XX_DXE_WQ_RX_L : BitVec 32 := 0xB
/-- `WCN36XX_DXE_WQ_RX_H`. -/
def WCN36XX_DXE_WQ_RX_H : BitVec 32 := 0x4
/-- `WCN36XX_DXE_CTRL_VALID_MASK`: the DMA engine may use the descriptor. -/
def WCN36XX_DXE_CTRL_VALID_MASK : BitVec 32 := 0x1
/-- `WCN36XX_DXE_CH_DEFAULT_CTL_TX_L`. -/
def WCN36XX_DXE_CH_DEFAULT_CTL_TX_L : BitVec 32 := 0x843e8b4d
/-- `WCN36XX_DXE_CH_DEFAULT_CTL_TX_H`. -/
def WCN36XX_DXE_CH_DEFAULT_CTL_TX_H : BitVec 32 := 0x853ECF4D
/-- `WCN36XX_DXE_REG_CTL_TX_L`. -/
def WCN36XX_DXE_REG_CTL_TX_L : BitVec 32 := 0x202000 + 0x400
/-- `WCN36XX_DXE_REG_CTL_TX_H`. -/
def WCN36XX_DXE_REG_CTL_TX_H : BitVec 32 := 0x202000 + 0x500
/-- `WCN36XX_BD_CHUNK_SIZE`. -/
def WCN36XX_BD_CHUNK_SIZE : ℕ := 128

/-- The size of one BD in a pool: `WCN36XX_BD_CHUNK_SIZE + 16 - (WCN36XX_BD_CHUNK_SIZE % 8)`. -/
def bdChunkSize : ℕ := WCN36XX_BD_CHUNK_SIZE + 16 - WCN36XX_BD_CHUNK_SIZE % 8

/-- `enum wcn36xx_dxe_ch_type`. -/
inductive DxeChType where
  | txL
  | txH
  | rxL
  | rxH
  deriving DecidableEq, Repr

/-- `struct wcn36xx_dxe_desc`. -/
structure DxeDesc where
  ctrl : BitVec 32 := 0
  fr_len : BitVec 32 := 0
  src_addr_l : BitVec 32 := 0
  dst_addr_l : BitVec 32 := 0
  phy_next_l : BitVec 32 := 0
  src_addr_h : BitVec 32 := 0
  dst_addr_h : BitVec 32 := 0
  phy_next_h : BitVec 32 := 0
  deriving DecidableEq, Repr

/-- `sizeof(struct wcn36xx_dxe_desc)`. -/
def DxeDesc.size : ℕ := 32

/-- `ctrl & WCN36XX_DXE_CTRL_VALID_MASK`. -/
def DxeDesc.valid (d : DxeDesc) : Bool := d.ctrl &&& WCN36XX_DXE_CTRL_VALID_MASK != 0

/-- What the DMA engine does to a descriptor that it has processed. -/
def DxeDesc.clearValid (d : DxeDesc) : DxeDesc :=
  { d with ctrl := d.ctrl &&& ~~~WCN36XX_DXE_CTRL_VALID_MASK }

/-- A processed descriptor is not valid. -/
@[simp]
theorem DxeDesc.valid_clearValid (d : DxeDesc) : d.clearValid.valid = false := by
  simp [DxeDesc.valid, DxeDesc.clearValid, BitVec.and_assoc]

/-- `struct wcn36xx_dxe_ctl`. A descriptor is named by its index in the channel's array, and `0` is
the null `bd_cpu_addr`. -/
structure DxeCtl where
  next : Option ℕ := none
  desc : Option ℕ := none
  desc_phy_addr : BitVec 32 := 0
  ctl_blk_order : ℕ := 0
  skb : Option SkBuff := none
  bd_cpu_addr : ℕ := 0
  bd_phy_addr : BitVec 32 := 0
  deriving DecidableEq

/-- `struct wcn36xx_dxe_mem_pool`. -/
structure DxeMemPool where
  chunk_size : ℕ
  virt_addr : ℕ
  phy_addr : BitVec 32

/-- `struct wcn36xx_dxe_ch`, with the memory behind its pointers. -/
structure DxeCh where
  ch_type : DxeChType
  desc_num : ℕ
  cpu_addr : Option ℕ := none
  dma_addr : BitVec 32 := 0
  head_blk_ctl : Option ℕ := none
  tail_blk_ctl : Option ℕ := none
  dxe_wq : BitVec 32 := 0
  ctrl_bd : BitVec 32 := 0
  ctrl_skb : BitVec 32 := 0
  reg_ctrl : BitVec 32 := 0
  def_ctrl : BitVec 32 := 0
  /-- The control blocks that are allocated. -/
  ctl : ℕ → Option DxeCtl := fun _ => none
  /-- The next address that `kzalloc` returns; no address is returned twice. -/
  fresh : ℕ := 1
  /-- The array of descriptors at `cpu_addr`. -/
  dxe : ℕ → DxeDesc := fun _ => {}
  /-- The bytes of the channel's memory pool for buffer descriptors. -/
  bd : ℕ → Byte := fun _ => 0

namespace DxeCh

variable (ch : DxeCh)

/-- Write through a pointer to a control block. -/
def modCtl (p : ℕ) (f : DxeCtl → DxeCtl) : Option DxeCh :=
  (ch.ctl p).map fun c => { ch with ctl := Function.update ch.ctl p (some (f c)) }

/-- Write through a pointer to a descriptor. -/
def modDesc (i : ℕ) (f : DxeDesc → DxeDesc) : DxeCh :=
  { ch with dxe := Function.update ch.dxe i (f (ch.dxe i)) }

/-- `ctl->next`. -/
def nextOf (p : ℕ) : Option (Option ℕ) := (ch.ctl p).map DxeCtl.next

/-- `ctl->desc->ctrl & WCN36XX_DXE_CTRL_VALID_MASK`. -/
def validAt (p : ℕ) : Option Bool := do
  let c ← ch.ctl p
  let i ← c.desc
  return (ch.dxe i).valid

/-- `ctl->skb`. -/
def skbAt (p : ℕ) : Option SkBuff := (ch.ctl p).bind DxeCtl.skb

end DxeCh

/-- `is_low ? &wcn->dxe_tx_l_ch : &wcn->dxe_tx_h_ch` as `wcn36xx_dxe_alloc_ctl_blks` configures it,
for a ring of `desc_num` descriptors. -/
def txChConfig (is_low : Bool) (desc_num : ℕ) : DxeCh :=
  if is_low then
    { ch_type := .txL, desc_num := desc_num, dxe_wq := WCN36XX_DXE_WQ_TX_L
      ctrl_bd := WCN36XX_DXE_CTRL_TX_L_BD, ctrl_skb := WCN36XX_DXE_CTRL_TX_L_SKB
      reg_ctrl := WCN36XX_DXE_REG_CTL_TX_L, def_ctrl := WCN36XX_DXE_CH_DEFAULT_CTL_TX_L }
  else
    { ch_type := .txH, desc_num := desc_num, dxe_wq := WCN36XX_DXE_WQ_TX_H
      ctrl_bd := WCN36XX_DXE_CTRL_TX_H_BD, ctrl_skb := WCN36XX_DXE_CTRL_TX_H_SKB
      reg_ctrl := WCN36XX_DXE_REG_CTL_TX_H, def_ctrl := WCN36XX_DXE_CH_DEFAULT_CTL_TX_H }

end Wcn36xx
