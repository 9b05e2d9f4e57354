import Wcn36xx.Dxe.Channel
import Wcn36xx.Ieee80211

/-!
# The driver's state

`struct wcn36xx` with the structures it points to, and the calls that the driver makes to mac80211,
to the DMA layer and to the hardware. The calls that matter to what the driver may still do with a
frame are kept in order in a log, with the driver's own reads of frames that it holds.
-/

namespace Wcn36xx

/-- `WCN36XX_SMSM_WLAN_TX_ENABLE`. -/
def WCN36XX_SMSM_WLAN_TX_ENABLE : BitVec 32 := 0x400
/-- `WCN36XX_DXE_CH_DESC_NUMB_TX_L`. -/
def WCN36XX_DXE_CH_DESC_NUMB_TX_L : ℕ := 128
/-- `WCN36XX_DXE_CH_DESC_NUMB_TX_H`. -/
def WCN36XX_DXE_CH_DESC_NUMB_TX_H : ℕ := 10
/-- `WCN36XX_AMPDU_START_THRESH`. -/
def WCN36XX_AMPDU_START_THRESH : ℤ := 20

/-- `enum wcn36xx_power_state`. -/
inductive PowerState where
  | FULL_POWER
  | BMPS
  deriving DecidableEq, Repr

/-- `enum wcn36xx_ampdu_state`. -/
inductive AmpduState where
  | NONE
  | INIT
  | START
  | OPERATIONAL
  deriving DecidableEq, Repr

/-- `enum ieee80211_band`, as far as the driver tells the bands apart. -/
inductive Band where
  | GHZ2
  | GHZ5
  deriving DecidableEq, Repr

/-- `enum ani_ed_type`. -/
inductive AniEdType where
  | NONE
  | WEP40
  | WEP104
  | TKIP
  | CCMP
  | WPI
  | AES_128_CMAC
  deriving DecidableEq, Repr

/-- `struct wcn36xx_vif`, with the fields of the `struct ieee80211_vif` around it that the driver
reads. -/
structure WcnVif where
  type : Nl80211Iftype
  addr : List Byte
  dtim_period : Byte := 0
  encrypt_type : AniEdType := .NONE
  is_joining : Bool := false
  sta_assoc : Bool := false
  ssid : List Byte := []
  pw_state : PowerState := .FULL_POWER
  bss_index : Byte := 0
  self_sta_index : Byte := 0
  self_dpu_desc_index : Byte := 0
  self_ucast_dpu_sign : Byte := 0

/-- `struct wcn36xx_sta`; `vif` is the address of an interface. -/
structure WcnSta where
  vif : Option ℕ := none
  tid : BitVec 16 := 0
  sta_index : Byte := 0
  dpu_desc_index : Byte := 0
  ucast_dpu_sign : Byte := 0
  bss_sta_index : Byte := 0
  bss_dpu_desc_index : Byte := 0
  is_data_encrypted : Bool := false
  ampdu_state : ℕ → AmpduState := fun _ => .NONE
  non_agg_frame_ct : ℤ := 0

/-- The part of the state that mac80211's configuration calls change: `wcn->vif_list`, the
interfaces, the stations, `conf_is_ht(&wcn->hw->conf)` and `WCN36XX_BAND(wcn)`. -/
structure MacConf where
  vif_list : List ℕ := []
  vif : ℕ → Option WcnVif := fun _ => none
  sta : ℕ → Option WcnSta := fun _ => none
  is_ht : Bool := false
  band : Band := .GHZ2

/-- What the driver does outside its own structures, and its reads of frames through its own
pointers to them. -/
inductive Effect where
  /-- `ieee80211_stop_queues`. -/
  | stopQueues
  /-- `ieee80211_wake_queues`. -/
  | wakeQueues
  /-- `ieee80211_free_txskb`. -/
  | freeTxskb (skb : SkBuff)
  /-- `ieee80211_tx_status_irqsafe`. -/
  | txStatus (skb : SkBuff)
  /-- `ieee80211_start_tx_ba_session`. -/
  | startTxBaSession (sta : ℕ) (tid : ℕ)
  /-- `dma_map_single` of `ctl->skb->data`, `ctl->skb->len`. -/
  | dmaMap (skb : SkBuff)
  /-- `dma_unmap_single` at a bus address, for `ctl->skb->len` bytes. -/
  | dmaUnmap (addr : BitVec 32) (skb : SkBuff)
  /-- An access to `IEEE80211_SKB_CB(skb)->flags`. -/
  | txInfo (skb : SkBuff)
  /-- `smsm_change_state`. -/
  | smsmChangeState (clear_mask set_mask : BitVec 32)
  /-- `wcn36xx_dxe_write_register`. -/
  | writeRegister (addr data : BitVec 32)
  deriving DecidableEq

/-- The frame that an effect hands back to mac80211. -/
def Effect.handsBack : Effect → Option SkBuff
  | .freeTxskb skb | .txStatus skb => some skb
  | _ => none

/-- The frame that an effect reads. -/
def Effect.reads : Effect → Option SkBuff
  | .dmaMap skb | .dmaUnmap _ skb | .txInfo skb => some skb
  | _ => none

/-- Neither `ieee80211_stop_queues` nor `ieee80211_wake_queues`. -/
def Effect.leavesQueues : Effect → Bool
  | .stopQueues | .wakeQueues => false
  | _ => true

/-- `struct wcn36xx`, as far as transmission needs it. -/
structure Wcn where
  dxe_tx_l_ch : DxeCh
  dxe_tx_h_ch : DxeCh
  tx_ack_skb : Option SkBuff := none
  queues_stopped : Bool := false
  mac : MacConf := {}
  /-- What the driver has done so far. -/
  log : List Effect := []

namespace Wcn

variable (wcn : Wcn)

/-- `is_low ? &wcn->dxe_tx_l_ch : &wcn->dxe_tx_h_ch`. -/
def txCh (is_low : Bool) : DxeCh := if is_low then wcn.dxe_tx_l_ch else wcn.dxe_tx_h_ch

/-- Write a TX channel back. -/
def setTxCh (is_low : Bool) (ch : DxeCh) : Wcn :=
  if is_low then { wcn with dxe_tx_l_ch := ch } else { wcn with dxe_tx_h_ch := ch }

/-- Append to the log. -/
def emit (es : List Effect) : Wcn := { wcn with log := wcn.log ++ es }

variable (is_low : Bool) (ch : DxeCh) (es : List Effect)

@[simp]
theorem txCh_setTxCh : (wcn.setTxCh is_low ch).txCh is_low = ch := by cases is_low <;> rfl

@[simp]
theorem txCh_setTxCh_not : (wcn.setTxCh is_low ch).txCh (!is_low) = wcn.txCh (!is_low) := by
  cases is_low <;> rfl

@[simp]
theorem txCh_not_setTxCh : (wcn.setTxCh (!is_low) ch).txCh is_low = wcn.txCh is_low := by
  cases is_low <;> rfl

@[simp]
theorem setTxCh_tx_ack_skb : (wcn.setTxCh is_low ch).tx_ack_skb = wcn.tx_ack_skb := by
  cases is_low <;> rfl

@[simp]
theorem setTxCh_queues_stopped : (wcn.setTxCh is_low ch).queues_stopped = wcn.queues_stopped := by
  cases is_low <;> rfl

@[simp]
theorem setTxCh_mac : (wcn.setTxCh is_low ch).mac = wcn.mac := by cases is_low <;> rfl

@[simp]
theorem setTxCh_log : (wcn.setTxCh is_low ch).log = wcn.log := by cases is_low <;> rfl

@[simp]
theorem emit_txCh : (wcn.emit es).txCh is_low = wcn.txCh is_low := rfl

@[simp]
theorem emit_log : (wcn.emit es).log = wcn.log ++ es := rfl

@[simp]
theorem emit_tx_ack_skb : (wcn.emit es).tx_ack_skb = wcn.tx_ack_skb := rfl

@[simp]
theorem emit_queues_stopped : (wcn.emit es).queues_stopped = wcn.queues_stopped := rfl

@[simp]
theorem emit_mac : (wcn.emit es).mac = wcn.mac := rfl

@[simp]
theorem emit_emit (es' : List Effect) : (wcn.emit es).emit es' = wcn.emit (es ++ es') := by
  simp only [emit, List.append_assoc]

/-- A channel written back twice is the last one. -/
@[simp]
theorem setTxCh_setTxCh (ch' : DxeCh) :
    (wcn.setTxCh is_low ch).setTxCh is_low ch' = wcn.setTxCh is_low ch' := by
  cases is_low <;> rfl

/-- Which channel is the other one. -/
theorem txCh_setTxCh_ne {is_low is_low' : Bool} (h : is_low' ≠ is_low) (ch : DxeCh) :
    (wcn.setTxCh is_low ch).txCh is_low' = wcn.txCh is_low' := by
  cases is_low <;> cases is_low' <;> first | rfl | exact absurd rfl h

end Wcn

end Wcn36xx
