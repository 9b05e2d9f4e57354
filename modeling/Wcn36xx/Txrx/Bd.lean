import Wcn36xx.Kernel

/-!
# The TX buffer descriptor

`struct wcn36xx_pdu` and `struct wcn36xx_tx_bd`. The compiler fills each 32-bit word from its least
significant bit, first field first, so a word is its fields appended in the opposite order.
`buff_to_be` turns the words into big-endian order and the signature is written after it.
-/

namespace Wcn36xx

/-- `WCN36XX_BMU_WQ_TX`. -/
def WCN36XX_BMU_WQ_TX : BitVec 8 := 25
/-- `WCN36XX_TID`. -/
def WCN36XX_TID : BitVec 16 := 7
/-- `WCN36XX_TX_B_WQ_ID`. -/
def WCN36XX_TX_B_WQ_ID : BitVec 5 := 0xA
/-- `WCN36XX_TX_U_WQ_ID`. -/
def WCN36XX_TX_U_WQ_ID : BitVec 5 := 0x9
/-- `WCN36XX_BD_RATE_DATA`. -/
def WCN36XX_BD_RATE_DATA : BitVec 2 := 0
/-- `WCN36XX_BD_RATE_MGMT`. -/
def WCN36XX_BD_RATE_MGMT : BitVec 2 := 2
/-- `WCN36XX_BD_RATE_CTRL`. -/
def WCN36XX_BD_RATE_CTRL : BitVec 2 := 3
/-- `WCN36XX_TXBD_SSN_FILL_DPU_QOS`. -/
def WCN36XX_TXBD_SSN_FILL_DPU_QOS : BitVec 2 := 2

/-- `struct wcn36xx_pdu`. -/
structure Pdu where
  dpu_fb : BitVec 8 := 0
  adu_fb : BitVec 8 := 0
  pdu_id : BitVec 16 := 0
  tail_pdu_idx : BitVec 16 := 0
  head_pdu_idx : BitVec 16 := 0
  pdu_count : BitVec 7 := 0
  mpdu_data_off : BitVec 9 := 0
  mpdu_header_off : BitVec 8 := 0
  mpdu_header_len : BitVec 8 := 0
  reserved4 : BitVec 8 := 0
  tid : BitVec 4 := 0
  bd_ssn : BitVec 2 := 0
  reserved3 : BitVec 2 := 0
  mpdu_len : BitVec 16 := 0
  deriving DecidableEq

/-- `struct wcn36xx_tx_bd`. -/
structure TxBd where
  bdt : BitVec 2 := 0
  ft : BitVec 1 := 0
  dpu_ne : BitVec 1 := 0
  fw_tx_comp : BitVec 1 := 0
  tx_comp : BitVec 1 := 0
  reserved1 : BitVec 1 := 0
  ub : BitVec 1 := 0
  rmf : BitVec 1 := 0
  reserved0 : BitVec 12 := 0
  dpu_sign : BitVec 3 := 0
  dpu_rf : BitVec 8 := 0
  pdu : Pdu := {}
  reserved5 : BitVec 7 := 0
  queue_id : BitVec 5 := 0
  bd_rate : BitVec 2 := 0
  ack_policy : BitVec 2 := 0
  sta_index : BitVec 8 := 0
  dpu_desc_idx : BitVec 8 := 0
  tx_bd_sign : BitVec 32 := 0
  reserved6 : BitVec 32 := 0
  dxe_start_time : BitVec 32 := 0
  dxe_end_time : BitVec 32 := 0
  deriving DecidableEq

/-- The four words of a PDU. -/
def Pdu.words (pdu : Pdu) : List (BitVec 32) :=
  [pdu.pdu_id ++ pdu.adu_fb ++ pdu.dpu_fb,
   pdu.head_pdu_idx ++ pdu.tail_pdu_idx,
   pdu.mpdu_header_len ++ pdu.mpdu_header_off ++ pdu.mpdu_data_off ++ pdu.pdu_count,
   pdu.mpdu_len ++ pdu.reserved3 ++ pdu.bd_ssn ++ pdu.tid ++ pdu.reserved4]

namespace TxBd

/-- `sizeof(struct wcn36xx_tx_bd)`. -/
def size : ℕ := 40

/-- The ten words of a BD. -/
def words (bd : TxBd) : List (BitVec 32) :=
  (bd.dpu_rf ++ bd.dpu_sign ++ bd.reserved0 ++ bd.rmf ++ bd.ub ++ bd.reserved1 ++ bd.tx_comp ++
    bd.fw_tx_comp ++ bd.dpu_ne ++ bd.ft ++ bd.bdt) ::
  bd.pdu.words ++
  [bd.dpu_desc_idx ++ bd.sta_index ++ bd.ack_policy ++ bd.bd_rate ++ bd.queue_id ++ bd.reserved5,
   bd.tx_bd_sign, bd.reserved6, bd.dxe_start_time, bd.dxe_end_time]

/-- The bytes of words in memory. -/
def bytesOfWords (ws : List (BitVec 32)) : List Byte := ws.flatMap leBytes

/-- The bytes of a BD as the driver's stores leave them, before `buff_to_be`. -/
def bytes (bd : TxBd) : List Byte := bytesOfWords bd.words

/-- `buff_to_be` over the words of a BD, then the store of `tx_bd_sign`, the seventh word. -/
def sentWords (bd : TxBd) : List (BitVec 32) :=
  (bd.words.map cpuToBe32).set 6 0xbdbdbdbd

/-- The bytes of a BD that is ready for the device. -/
def sentBytes (bd : TxBd) : List Byte := bytesOfWords bd.sentWords

/-- A BD is `sizeof(struct wcn36xx_tx_bd)` bytes long while the driver fills it. -/
@[simp]
theorem length_bytes (bd : TxBd) : bd.bytes.length = size := rfl

/-- A BD is `sizeof(struct wcn36xx_tx_bd)` bytes long when it is ready. -/
@[simp]
theorem length_sentBytes (bd : TxBd) : bd.sentBytes.length = size := rfl

end TxBd

end Wcn36xx
