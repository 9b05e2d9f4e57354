import Mathlib.Data.BitVec

/-!
# What the driver takes from the kernel

Error numbers, bytes in little-endian order, and the socket buffer as the driver sees it: a frame's
bytes, the bus address that `dma_map_single` gives for them, and the `ieee80211_tx_info` flags of
its control buffer. A function that returns a negative error number returns it as an integer.
-/

namespace Wcn36xx

/-- A byte of memory. -/
abbrev Byte := BitVec 8

/-- `ENOENT`. -/
def ENOENT : ℤ := 2
/-- `EIO`. -/
def EIO : ℤ := 5
/-- `ENOMEM`. -/
def ENOMEM : ℤ := 12
/-- `EBUSY`. -/
def EBUSY : ℤ := 16
/-- `EINVAL`. -/
def EINVAL : ℤ := 22
/-- `ETIME`. -/
def ETIME : ℤ := 62
/-- `EOPNOTSUPP`. -/
def EOPNOTSUPP : ℤ := 95

/-- The four bytes of a 32-bit word in the memory of a little-endian machine. -/
def leBytes (w : BitVec 32) : List Byte :=
  [w.extractLsb' 0 8, w.extractLsb' 8 8, w.extractLsb' 16 8, w.extractLsb' 24 8]

/-- `cpu_to_be32` on a little-endian machine: the bytes in the opposite order. -/
def cpuToBe32 (w : BitVec 32) : BitVec 32 :=
  w.extractLsb' 0 8 ++ w.extractLsb' 8 8 ++ w.extractLsb' 16 8 ++ w.extractLsb' 24 8

/-- `IEEE80211_TX_CTL_REQ_TX_STATUS`: mac80211 asks for the frame's TX status. -/
def IEEE80211_TX_CTL_REQ_TX_STATUS : BitVec 32 := 0x1
/-- `IEEE80211_TX_STAT_ACK`: the frame was acknowledged. -/
def IEEE80211_TX_STAT_ACK : BitVec 32 := 0x200

/-- `struct sk_buff`, as much of it as the driver reads. The address tells buffers apart: no two
buffers that mac80211 hands over share one. -/
structure SkBuff where
  /-- The address of the buffer. -/
  ptr : ℕ
  /-- The frame, `skb->len` bytes from `skb->data`. -/
  data : List Byte
  /-- What `dma_map_single` returns for the frame. -/
  dma : BitVec 32
  /-- `IEEE80211_SKB_CB(skb)->flags`. -/
  flags : BitVec 32
  /-- `skb_get_queue_mapping(skb)`. -/
  queue_mapping : ℕ
  deriving DecidableEq, Repr

/-- `skb->len`. -/
def SkBuff.len (skb : SkBuff) : ℕ := skb.data.length

/-- mac80211 asks for a TX status of the frame. -/
def SkBuff.wantsStatus (skb : SkBuff) : Bool :=
  skb.flags &&& IEEE80211_TX_CTL_REQ_TX_STATUS != 0

end Wcn36xx
