import Wcn36xx.Dxe.Channel
import Wcn36xx.Support.Cycle

/-!
# Building a channel's ring

`wcn36xx_dxe_allocate_ctl_block`, `wcn36xx_dxe_free_ctl_block`, `wcn36xx_dxe_init_descs`, and
`wcn36xx_dxe_init_tx_bd`. The outcome of the `i`-th `kzalloc` of a call and of `dma_alloc_coherent`
are arguments. The last two functions step along the ring a fixed number of times, which is `walk`.
-/

namespace Wcn36xx

open Support (walk)

namespace DxeCh

/-- `kfree` of a control block; freeing a block that is not allocated is a fault. -/
def kfree (ch : DxeCh) (p : ℕ) : Option DxeCh :=
  (ch.ctl p).map fun _ => { ch with ctl := Function.update ch.ctl p none }

/-- A successful `kzalloc` of a control block. -/
def kzalloc (ch : DxeCh) : ℕ × DxeCh :=
  (ch.fresh, { ch with ctl := Function.update ch.ctl ch.fresh (some {}), fresh := ch.fresh + 1 })

end DxeCh

/-- The loop of `wcn36xx_dxe_free_ctl_block`. -/
def dxeFreeCtlBlockLoop : (left : ℕ) → Option ℕ → DxeCh → Option DxeCh
  | 0, _, ch => some ch
  | _ + 1, none, ch => some ch
  | left + 1, some ctl, ch => do
    let c ← ch.ctl ctl
    let ch ← ch.kfree ctl
    dxeFreeCtlBlockLoop left c.next ch

/-- `wcn36xx_dxe_free_ctl_block`. -/
def dxeFreeCtlBlock (ch : DxeCh) : Option DxeCh :=
  dxeFreeCtlBlockLoop ch.desc_num ch.head_blk_ctl ch

/-- The body of the loop of `wcn36xx_dxe_allocate_ctl_block` after a successful `kzalloc`. -/
def dxeAllocateCtlBlockBody (i : ℕ) (prev_ctl : Option ℕ) (ch : DxeCh) :
    Option (ℕ × DxeCh) := do
  let (cur_ctl, ch) := ch.kzalloc
  let ch ← ch.modCtl cur_ctl fun c => { c with ctl_blk_order := i }
  if i = 0 then
    return (cur_ctl, { ch with head_blk_ctl := some cur_ctl, tail_blk_ctl := some cur_ctl })
  else
    let prev ← prev_ctl
    let ch ← ch.modCtl prev fun c => { c with next := some cur_ctl }
    if ch.desc_num - 1 = i then
      let ch ← ch.modCtl cur_ctl fun c => { c with next := ch.head_blk_ctl }
      return (cur_ctl, ch)
    else
      return (cur_ctl, ch)

/-- The loop of `wcn36xx_dxe_allocate_ctl_block`, with `left` iterations to go. -/
def dxeAllocateCtlBlockLoop (kzalloc : ℕ → Bool) :
    (left i : ℕ) → (prev_ctl : Option ℕ) → DxeCh → Option (DxeCh × ℤ)
  | 0, _, _, ch => some (ch, 0)
  | left + 1, i, prev_ctl, ch =>
    if kzalloc i then do
      let (cur_ctl, ch) ← dxeAllocateCtlBlockBody i prev_ctl ch
      dxeAllocateCtlBlockLoop kzalloc left (i + 1) (some cur_ctl) ch
    else do
      -- `out_fail`
      let ch ← dxeFreeCtlBlock ch
      return (ch, -ENOMEM)

/-- `wcn36xx_dxe_allocate_ctl_block`. -/
def dxeAllocateCtlBlock (kzalloc : ℕ → Bool) (ch : DxeCh) : Option (DxeCh × ℤ) :=
  dxeAllocateCtlBlockLoop kzalloc ch.desc_num 0 none ch

/-- The `switch` of `wcn36xx_dxe_init_descs`. -/
def dxeInitDesc (ch_type : DxeChType) (d : DxeDesc) : DxeDesc :=
  match ch_type with
  | .txL => { d with ctrl := WCN36XX_DXE_CTRL_TX_L, dst_addr_l := WCN36XX_DXE_WQ_TX_L }
  | .txH => { d with ctrl := WCN36XX_DXE_CTRL_TX_H, dst_addr_l := WCN36XX_DXE_WQ_TX_H }
  | .rxL => { d with ctrl := WCN36XX_DXE_CTRL_RX_L, src_addr_l := WCN36XX_DXE_WQ_RX_L }
  | .rxH => { d with ctrl := WCN36XX_DXE_CTRL_RX_H, src_addr_l := WCN36XX_DXE_WQ_RX_H }

/-- The body of the loop of `wcn36xx_dxe_init_descs` at descriptor `i`; `prev_dxe` is the descriptor
of the iteration before. -/
def dxeInitDescsBody (i : ℕ) (cur_ctl : ℕ) (prev_dxe : Option ℕ) (ch : DxeCh) :
    Option (Option ℕ × DxeCh) := do
  let phy := ch.dma_addr + BitVec.ofNat 32 (i * DxeDesc.size)
  let ch ← ch.modCtl cur_ctl fun c => { c with desc := some i, desc_phy_addr := phy }
  let ch := ch.modDesc i (dxeInitDesc ch.ch_type)
  if i = 0 then
    return (some i, ch.modDesc i fun d => { d with phy_next_l := 0 })
  else
    -- Both other branches link the descriptor before; the last one closes the chain.
    let prev ← prev_dxe
    let ch := ch.modDesc prev fun d => { d with phy_next_l := phy }
    if i < ch.desc_num - 1 then
      return (some i, ch)
    else
      let head ← ch.head_blk_ctl
      let c ← ch.ctl head
      return (some i, ch.modDesc i fun d => { d with phy_next_l := c.desc_phy_addr })

/-- `wcn36xx_dxe_init_descs`; `coherent` is what `dma_alloc_coherent` returns. -/
def dxeInitDescs (coherent : Option (ℕ × BitVec 32)) (ch : DxeCh) : Option (DxeCh × ℤ) :=
  match coherent with
  | none => some ({ ch with cpu_addr := none }, -ENOMEM)
  | some (cpu_addr, dma_addr) => do
    let ch := { ch with cpu_addr := some cpu_addr, dma_addr := dma_addr, dxe := fun _ => {} }
    let (_, ch) ← walk DxeCh.nextOf dxeInitDescsBody ch.desc_num 0 ch.head_blk_ctl none ch
    return (ch, 0)

/-- The body of the loop of `wcn36xx_dxe_init_tx_bd`; the accumulator is the pair of `bd_phy_addr`
and `bd_cpu_addr`. -/
def dxeInitTxBdBody (chunk_size : ℕ) (i : ℕ) (cur : ℕ) (bd : BitVec 32 × ℕ) (ch : DxeCh) :
    Option ((BitVec 32 × ℕ) × DxeCh) := do
  -- Only every second block needs a BD pointer, the other will point to the skb data.
  if i % 2 = 0 then
    let ch ← ch.modCtl cur fun c => { c with bd_phy_addr := bd.1, bd_cpu_addr := bd.2 }
    return ((bd.1 + BitVec.ofNat 32 chunk_size, bd.2 + chunk_size), ch)
  else
    let ch ← ch.modCtl cur fun c => { c with bd_phy_addr := 0, bd_cpu_addr := 0 }
    return (bd, ch)

/-- `wcn36xx_dxe_init_tx_bd`. -/
def dxeInitTxBd (pool : DxeMemPool) (ch : DxeCh) : Option DxeCh := do
  let (_, ch) ← walk DxeCh.nextOf (dxeInitTxBdBody pool.chunk_size) ch.desc_num 0 ch.head_blk_ctl
    (pool.phy_addr, pool.virt_addr) ch
  return ch

/-- A TX channel of `desc_num` descriptors as the driver sets it up when every allocation succeeds:
the control blocks, then the descriptors, then the BD pointers. -/
def txChSetup (is_low : Bool) (desc_num : ℕ) (coherent : ℕ × BitVec 32) (pool : DxeMemPool) :
    Option DxeCh := do
  let (ch, _) ← dxeAllocateCtlBlock (fun _ => true) (txChConfig is_low desc_num)
  let (ch, _) ← dxeInitDescs (some coherent) ch
  dxeInitTxBd pool ch

end Wcn36xx
