import Wcn36xx.Driver
import Wcn36xx.Txrx.Bd

/-!
# Transmission through a DXE channel

`wcn36xx_dxe_get_next_bd`, `wcn36xx_dxe_tx_frame`, `reap_tx_dxes`, and `wcn36xx_dxe_tx_ack_ind`, and
what the DMA engine does to a descriptor.
-/

namespace Wcn36xx

/-- `wcn36xx_dxe_get_next_bd`. -/
def dxeGetNextBd (wcn : Wcn) (is_low : Bool) : Option ℕ := do
  let ch := wcn.txCh is_low
  let ctl ← ch.head_blk_ctl
  let c ← ch.ctl ctl
  return c.bd_cpu_addr

/-- The end of `wcn36xx_dxe_tx_frame`: the device learns of the new frame. -/
def dxeTxKick (wcn : Wcn) (vif_priv : Option WcnVif) (is_low : Bool) (ch : DxeCh) : Option Wcn :=
  if is_low then do
    let vif ← vif_priv
    if vif.pw_state = .BMPS then
      return wcn.emit [.smsmChangeState 0 WCN36XX_SMSM_WLAN_TX_ENABLE]
    else
      return wcn.emit [.writeRegister ch.reg_ctrl ch.def_ctrl]
  else
    return wcn.emit [.writeRegister ch.reg_ctrl ch.def_ctrl]

/-- `wcn36xx_dxe_tx_frame`. The stores to `ctl->skb` leave the other fields of the two control blocks
as they were read. -/
def dxeTxFrame (wcn : Wcn) (vif_priv : Option WcnVif) (skb : SkBuff) (is_low : Bool) :
    Option (Wcn × ℤ) := do
  let ch := wcn.txCh is_low
  let ctl ← ch.head_blk_ctl
  let c ← ch.ctl ctl
  let next ← c.next
  let n ← ch.ctl next
  if n.skb.isSome then
    -- The ring is full.
    return ({ wcn with queues_stopped := true }.emit [.stopQueues], -EBUSY)
  else
    let ch ← ch.modCtl ctl fun c => { c with skb := none }
    let i ← c.desc
    let ch := ch.modDesc i fun d => { d with
      src_addr_l := c.bd_phy_addr, dst_addr_l := ch.dxe_wq
      fr_len := BitVec.ofNat 32 TxBd.size, ctrl := ch.ctrl_bd }
    let ch ← ch.modCtl next fun c => { c with skb := some skb }
    if n.bd_cpu_addr ≠ 0 then
      -- `bd_cpu_addr cannot be NULL for skb DXE`
      return (wcn.setTxCh is_low ch, -EINVAL)
    else
      let j ← n.desc
      let ch := ch.modDesc j fun d => { d with
        src_addr_l := skb.dma, dst_addr_l := ch.dxe_wq
        fr_len := BitVec.ofNat 32 skb.len, ctrl := ch.ctrl_skb }
      let ch := { ch with head_blk_ctl := n.next }
      let wcn := (wcn.setTxCh is_low ch).emit [.dmaMap skb]
      let wcn ← dxeTxKick wcn vif_priv is_low ch
      return (wcn, 0)

/-- What `reap_tx_dxes` does with the frame of a control block. -/
def reapSkb (wcn : Wcn) (is_low : Bool) (ctl : ℕ) : Option Wcn := do
  let ch := wcn.txCh is_low
  let c ← ch.ctl ctl
  match c.skb with
  | none => return wcn
  | some skb =>
    let i ← c.desc
    let wcn := wcn.emit [.dmaUnmap (ch.dxe i).src_addr_l skb, .txInfo skb]
    let wcn := if skb.wantsStatus then wcn else wcn.emit [.freeTxskb skb]
    let wcn :=
      if wcn.queues_stopped then { wcn with queues_stopped := false }.emit [.wakeQueues] else wcn
    let ch ← ch.modCtl ctl fun c => { c with skb := none }
    return wcn.setTxCh is_low ch

/-- The `do … while` loop of `reap_tx_dxes`, with at most `fuel` iterations. -/
def reapTxDxesLoop (is_low : Bool) : (fuel : ℕ) → (ctl : ℕ) → Wcn → Option (ℕ × Wcn)
  | 0, _, _ => none
  | fuel + 1, ctl, wcn => do
    let valid ← (wcn.txCh is_low).validAt ctl
    if valid then
      -- `break`
      return (ctl, wcn)
    else
      let wcn ← reapSkb wcn is_low ctl
      let ch := wcn.txCh is_low
      let ctl ← (← ch.nextOf ctl)
      if ch.head_blk_ctl = some ctl then
        return (ctl, wcn)
      else
        let valid ← ch.validAt ctl
        if valid then return (ctl, wcn) else reapTxDxesLoop is_low fuel ctl wcn

/-- `reap_tx_dxes`. One lap of the ring is enough for the loop. -/
def reapTxDxes (wcn : Wcn) (is_low : Bool) : Option Wcn := do
  let ctl ← (wcn.txCh is_low).tail_blk_ctl
  let (ctl, wcn) ← reapTxDxesLoop is_low (wcn.txCh is_low).desc_num ctl wcn
  return wcn.setTxCh is_low { wcn.txCh is_low with tail_blk_ctl := some ctl }

/-- `wcn36xx_dxe_tx_ack_ind`. -/
def dxeTxAckInd (wcn : Wcn) (status : BitVec 32) : Wcn :=
  match wcn.tx_ack_skb with
  | none => { wcn with tx_ack_skb := none }
  | some skb =>
    let wcn := { wcn with tx_ack_skb := none }
    if status = 1 then
      wcn.emit [.txInfo skb, .txStatus { skb with flags := skb.flags ||| IEEE80211_TX_STAT_ACK },
        .wakeQueues]
    else
      wcn.emit [.txStatus skb, .wakeQueues]

/-- What `wcn36xx_dxe_deinit` does with the frame that waits for its status. -/
def dxeDeinitTx (wcn : Wcn) : Wcn :=
  match wcn.tx_ack_skb with
  | none => wcn
  | some skb => { wcn.emit [.txStatus skb] with tx_ack_skb := none }

/-- The DMA engine has processed descriptor `i` of a TX channel. -/
def dmaComplete (wcn : Wcn) (is_low : Bool) (i : ℕ) : Wcn :=
  wcn.setTxCh is_low ((wcn.txCh is_low).modDesc i DxeDesc.clearValid)

end Wcn36xx
