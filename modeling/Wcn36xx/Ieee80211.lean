import Wcn36xx.Kernel

/-!
# 802.11 frames and interfaces

The predicates on a frame's header that mac80211 defines and the driver uses, over the bytes of a
socket buffer, and the types of interface. A byte past the end of the frame reads as zero; the
driver reads headers only, and mac80211 hands over whole headers.
-/

namespace Wcn36xx

/-- `enum nl80211_iftype`, as far as the driver tells the types apart. -/
inductive Nl80211Iftype where
  | ADHOC
  | STATION
  | AP
  | MESH_POINT
  | other
  deriving DecidableEq, Repr

/-- `IEEE80211_FCTL_FTYPE`. -/
def IEEE80211_FCTL_FTYPE : BitVec 16 := 0x000c
/-- `IEEE80211_FCTL_STYPE`. -/
def IEEE80211_FCTL_STYPE : BitVec 16 := 0x00f0
/-- `IEEE80211_FCTL_TODS | IEEE80211_FCTL_FROMDS`. -/
def IEEE80211_FCTL_TODS_FROMDS : BitVec 16 := 0x0300
/-- `IEEE80211_FTYPE_MGMT`. -/
def IEEE80211_FTYPE_MGMT : BitVec 16 := 0x0000
/-- `IEEE80211_FTYPE_CTL`. -/
def IEEE80211_FTYPE_CTL : BitVec 16 := 0x0004
/-- `IEEE80211_FTYPE_DATA`. -/
def IEEE80211_FTYPE_DATA : BitVec 16 := 0x0008
/-- `IEEE80211_STYPE_PROBE_REQ`. -/
def IEEE80211_STYPE_PROBE_REQ : BitVec 16 := 0x0040
/-- `IEEE80211_STYPE_NULLFUNC`. -/
def IEEE80211_STYPE_NULLFUNC : BitVec 16 := 0x0040
/-- `IEEE80211_STYPE_QOS_DATA`. -/
def IEEE80211_STYPE_QOS_DATA : BitVec 16 := 0x0080
/-- `IEEE80211_QOS_CTL_TID_MASK`. -/
def IEEE80211_QOS_CTL_TID_MASK : Byte := 0x0f
/-- `IEEE80211_AC_VO`. -/
def IEEE80211_AC_VO : ℕ := 0
/-- `sizeof(struct ieee80211_hdr_3addr)`. -/
def sizeofHdr3addr : ℕ := 24
/-- `sizeof(struct ieee80211_qos_hdr)`. -/
def sizeofQosHdr : ℕ := 26

namespace SkBuff

variable (skb : SkBuff)

/-- `skb->data[i]`. -/
def byte (i : ℕ) : Byte := skb.data.getD i 0

/-- `hdr->frame_control`. -/
def frameControl : BitVec 16 := skb.byte 1 ++ skb.byte 0

/-- `hdr->addr1`. -/
def addr1 : List Byte := (List.range 6).map fun i => skb.byte (4 + i)

/-- `hdr->addr2`. -/
def addr2 : List Byte := (List.range 6).map fun i => skb.byte (10 + i)

/-- `*ieee80211_get_qos_ctl(hdr)`. -/
def qosCtl : Byte :=
  if skb.frameControl &&& IEEE80211_FCTL_TODS_FROMDS = IEEE80211_FCTL_TODS_FROMDS then skb.byte 30
  else skb.byte 24

end SkBuff

/-- `ieee80211_is_data`. -/
def ieee80211IsData (fc : BitVec 16) : Bool := fc &&& IEEE80211_FCTL_FTYPE = IEEE80211_FTYPE_DATA

/-- `ieee80211_is_mgmt`. -/
def ieee80211IsMgmt (fc : BitVec 16) : Bool := fc &&& IEEE80211_FCTL_FTYPE = IEEE80211_FTYPE_MGMT

/-- `ieee80211_is_ctl`. -/
def ieee80211IsCtl (fc : BitVec 16) : Bool := fc &&& IEEE80211_FCTL_FTYPE = IEEE80211_FTYPE_CTL

/-- `ieee80211_is_data_qos`. -/
def ieee80211IsDataQos (fc : BitVec 16) : Bool :=
  fc &&& (IEEE80211_FCTL_FTYPE ||| IEEE80211_STYPE_QOS_DATA) =
    IEEE80211_FTYPE_DATA ||| IEEE80211_STYPE_QOS_DATA

/-- `ieee80211_is_nullfunc`. -/
def ieee80211IsNullfunc (fc : BitVec 16) : Bool :=
  fc &&& (IEEE80211_FCTL_FTYPE ||| IEEE80211_FCTL_STYPE) =
    IEEE80211_FTYPE_DATA ||| IEEE80211_STYPE_NULLFUNC

/-- `ieee80211_is_probe_req`. -/
def ieee80211IsProbeReq (fc : BitVec 16) : Bool :=
  fc &&& (IEEE80211_FCTL_FTYPE ||| IEEE80211_FCTL_STYPE) =
    IEEE80211_FTYPE_MGMT ||| IEEE80211_STYPE_PROBE_REQ

/-- `is_broadcast_ether_addr`. -/
def isBroadcastEtherAddr (addr : List Byte) : Bool := addr.all fun b => b = 0xff

/-- `is_multicast_ether_addr`. -/
def isMulticastEtherAddr (addr : List Byte) : Bool := addr.getD 0 0 &&& 1 != 0

end Wcn36xx
