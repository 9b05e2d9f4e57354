import Wcn36xx.Dxe.CtlBlocks

/-!
# Receiving

The RX side of `dxe.c`: `wcn36xx_dxe_fill_skb`, `wcn36xx_dxe_ch_alloc_skb`, `wcn36xx_rx_handle_packets`
and `wcn36xx_dxe_ch_free_skbs`. What the next calls of `alloc_skb` come to is part of the state; a call
for which nothing is given does not happen.
-/

namespace Wcn36xx

open Support (walk)

/-- `WCN36XX_DXE_ENCH_ADDR`. -/
def WCN36XX_DXE_ENCH_ADDR : BitVec 32 := 0x202000 + 0x04
/-- `WCN36XX_DXE_INT_CH1_MASK`. -/
def WCN36XX_DXE_INT_CH1_MASK : BitVec 32 := 0x2
/-- `WCN36XX_DXE_INT_CH3_MASK`. -/
def WCN36XX_DXE_INT_CH3_MASK : BitVec 32 := 0x8
/-- `WCN36XX_DXE_CH_DESC_NUMB_RX_L`. -/
def WCN36XX_DXE_CH_DESC_NUMB_RX_L : ℕ := 512
/-- `WCN36XX_DXE_CH_DESC_NUMB_RX_H`. -/
def WCN36XX_DXE_CH_DESC_NUMB_RX_H : ℕ := 40

/-- What the receive path does to the world outside its channel. -/
inductive RxEffect where
  /-- `dma_map_single` of a new buffer, `WCN36XX_PKT_SIZE` bytes. -/
  | dmaMap (skb : SkBuff)
  /-- `dma_unmap_single` at a bus address, `WCN36XX_PKT_SIZE` bytes. -/
  | dmaUnmap (addr : BitVec 32)
  /-- `wcn36xx_dxe_write_register`. -/
  | writeRegister (addr data : BitVec 32)
  /-- `wcn36xx_rx_skb`, which hands the buffer to mac80211. -/
  | rxSkb (skb : SkBuff)
  /-- `kfree_skb`. -/
  | kfreeSkb (skb : SkBuff)
  deriving DecidableEq

/-- The buffer that an effect hands to mac80211. -/
def RxEffect.delivers : RxEffect → Option SkBuff
  | .rxSkb skb => some skb
  | _ => none

/-- The buffer that an effect frees. -/
def RxEffect.frees : RxEffect → Option SkBuff
  | .kfreeSkb skb => some skb
  | _ => none

/-- An RX channel and what the receive path uses besides. -/
structure RxState where
  ch : DxeCh
  /-- The address of the next buffer that `alloc_skb` returns; no address is returned twice. -/
  next_skb : ℕ := 1
  /-- What the next calls of `alloc_skb` come to: a failure, or a buffer for which `dma_map_single`
  returns this bus address. -/
  allocs : List (Option (BitVec 32)) := []
  /-- What the driver has done so far. -/
  log : List RxEffect := []

namespace RxState

variable (s : RxState)

/-- Record effects. -/
def emit (es : List RxEffect) : RxState := { s with log := s.log ++ es }

/-- The buffers that have been passed to `wcn36xx_rx_skb`, oldest first. -/
def delivered : List SkBuff := s.log.filterMap RxEffect.delivers

/-- The buffer that `alloc_skb` returns next. -/
def newSkb (dma : BitVec 32) : SkBuff where
  ptr := s.next_skb
  data := []
  dma := dma
  flags := 0
  queue_mapping := 0

end RxState

/-- `wcn36xx_dxe_fill_skb`. -/
def dxeFillSkb (s : RxState) (ctl : ℕ) : Option (RxState × ℤ) := do
  let c ← s.ch.ctl ctl
  match s.allocs with
  | [] => none
  | none :: allocs => return ({ s with allocs := allocs }, -ENOMEM)
  | some dma :: allocs =>
    let dxe ← c.desc
    let skb := s.newSkb dma
    let ch := s.ch.modDesc dxe fun d => { d with dst_addr_l := skb.dma }
    let ch ← ch.modCtl ctl fun c => { c with skb := some skb }
    return ({ s with
      ch := ch, next_skb := s.next_skb + 1, allocs := allocs, log := s.log ++ [.dmaMap skb] }, 0)

/-- `wcn36xx_dxe_ch_alloc_skb`. The error of `wcn36xx_dxe_fill_skb` is not looked at. -/
def dxeChAllocSkb (s : RxState) : Option RxState := do
  let (_, s) ← walk (fun s => s.ch.nextOf)
    (fun _ cur _ s => (dxeFillSkb s cur).map fun r => ((), r.1)) s.ch.desc_num 0 s.ch.head_blk_ctl () s
  return s

/-- `wcn36xx_dxe_ch_free_skbs`. Freeing a null pointer does nothing. -/
def dxeChFreeSkbs (s : RxState) : Option RxState := do
  let (_, s) ← walk (fun s => s.ch.nextOf)
    (fun _ cur _ s => (s.ch.ctl cur).map fun c =>
      ((), s.emit (c.skb.toList.map RxEffect.kfreeSkb))) s.ch.desc_num 0 s.ch.head_blk_ctl () s
  return s

/-- The `switch` of `wcn36xx_rx_handle_packets`: a descriptor goes back to the device. -/
def rxRearm (s : RxState) (dxe : ℕ) : RxState :=
  match s.ch.ch_type with
  | .rxL =>
    { s with ch := s.ch.modDesc dxe fun d => { d with ctrl := WCN36XX_DXE_CTRL_RX_L } }.emit
      [.writeRegister WCN36XX_DXE_ENCH_ADDR WCN36XX_DXE_INT_CH1_MASK]
  | .rxH =>
    { s with ch := s.ch.modDesc dxe fun d => { d with ctrl := WCN36XX_DXE_CTRL_RX_H } }.emit
      [.writeRegister WCN36XX_DXE_ENCH_ADDR WCN36XX_DXE_INT_CH3_MASK]
  -- `Unknown channel`
  | .txL | .txH => s

/-- `wcn36xx_rx_skb` on a control block's buffer. It starts by reading `skb->data`. -/
def rxSkb (s : RxState) (skb : Option SkBuff) : Option RxState :=
  skb.map fun skb => s.emit [.rxSkb skb]

/-- The body of the loop of `wcn36xx_rx_handle_packets`, up to the step to the next block. -/
def rxHandlePacket (s : RxState) (ctl : ℕ) : Option RxState := do
  let c ← s.ch.ctl ctl
  let dxe ← c.desc
  let dma_addr := (s.ch.dxe dxe).dst_addr_l
  -- The error is not looked at.
  let (s, _) ← dxeFillSkb s ctl
  let s := (rxRearm s dxe).emit [.dmaUnmap dma_addr]
  rxSkb s c.skb

/-- The loop of `wcn36xx_rx_handle_packets`, whose condition is looked at `fuel` times at most. -/
def rxHandlePacketsLoop : (fuel : ℕ) → (ctl : ℕ) → RxState → Option (ℕ × RxState)
  | 0, _, _ => none
  | fuel + 1, ctl, s => do
    let valid ← s.ch.validAt ctl
    if valid then return (ctl, s)
    else
      let s ← rxHandlePacket s ctl
      let ctl ← (← s.ch.nextOf ctl)
      rxHandlePacketsLoop fuel ctl s

/-- `wcn36xx_rx_handle_packets`. After one lap every descriptor is VALID. -/
def rxHandlePackets (s : RxState) : Option RxState := do
  let ctl ← s.ch.head_blk_ctl
  let (ctl, s) ← rxHandlePacketsLoop (s.ch.desc_num + 1) ctl s
  return { s with ch := { s.ch with head_blk_ctl := some ctl } }

/-- `is_low ? &wcn->dxe_rx_l_ch : &wcn->dxe_rx_h_ch` as `wcn36xx_dxe_alloc_ctl_blks` configures it, for
a ring of `desc_num` descriptors. -/
def rxChConfig (is_low : Bool) (desc_num : ℕ) : DxeCh where
  ch_type := if is_low then .rxL else .rxH
  desc_num := desc_num

/-- An RX channel before `wcn36xx_dxe_ch_alloc_skb`, when every allocation so far has succeeded. -/
def rxChSetup (is_low : Bool) (desc_num : ℕ) (coherent : ℕ × BitVec 32) : Option DxeCh := do
  let (ch, _) ← dxeAllocateCtlBlock (fun _ => true) (rxChConfig is_low desc_num)
  let (ch, _) ← dxeInitDescs (some coherent) ch
  return ch

end Wcn36xx
