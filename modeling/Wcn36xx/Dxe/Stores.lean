import Wcn36xx.Dxe.TxRing

/-!
# The stores of a transmission

`wcn36xx_dxe_tx_frame` hands a frame to the device and to `reap_tx_dxes` store by store: the BD's descriptor
with its VALID bit, the pointer to the frame in the skb block, the descriptor of the frame with its VALID
bit, and at last the head. Here the function is a program of single stores, and `txFrameStoresAll_eq`
says that it is the function when nothing happens between its stores.
-/

namespace Wcn36xx

/-! ## The stores of `wcn36xx_dxe_tx_frame` -/

/-- The stores, each by what is stored. -/
inductive TxStore where
  /-- `ctl->skb = NULL`. -/
  | skbNull
  /-- `desc->src_addr_l = ctl->bd_phy_addr`. -/
  | bdSrc
  /-- `desc->dst_addr_l = ch->dxe_wq`. -/
  | bdDst
  /-- `desc->fr_len = sizeof(struct wcn36xx_tx_bd)`. -/
  | bdLen
  /-- `desc->ctrl = ch->ctrl_bd`. -/
  | bdCtrl
  /-- `ctl = ctl->next; ctl->skb = skb`. -/
  | skbPtr
  /-- `desc->src_addr_l = dma_map_single(NULL, ctl->skb->data, ctl->skb->len, DMA_TO_DEVICE)`. -/
  | skbSrc
  /-- `desc->dst_addr_l = ch->dxe_wq`. -/
  | skbDst
  /-- `desc->fr_len = ctl->skb->len`. -/
  | skbLen
  /-- `desc->ctrl = ch->ctrl_skb`. -/
  | skbCtrl
  /-- `ch->head_blk_ctl = ctl->next`. -/
  | head
  /-- The device learns of the frame. -/
  | kick
  deriving DecidableEq

/-- A call of `wcn36xx_dxe_tx_frame` before one of its stores, with its local variables. -/
structure TxFrameCall where
  vif_priv : Option WcnVif
  skb : SkBuff
  store : TxStore
  ctl : ℕ
  desc : ℕ := 0

/-- `wcn36xx_dxe_tx_frame` up to its first store: the error that it returns, or the call before that
store. -/
def txFrameBegin (wcn : Wcn) (vif_priv : Option WcnVif) (skb : SkBuff) (is_low : Bool) :
    Option (Wcn × (ℤ ⊕ TxFrameCall)) := do
  let ch := wcn.txCh is_low
  let ctl ← ch.head_blk_ctl
  let c ← ch.ctl ctl
  let next ← c.next
  let n ← ch.ctl next
  if n.skb.isSome then
    -- The ring is full.
    return ({ wcn with queues_stopped := true }.emit [.stopQueues], .inl (-EBUSY))
  else return (wcn, .inr { vif_priv := vif_priv, skb := skb, store := .skbNull, ctl := ctl })

/-- The next store of a call, and what the call does then: it returns, or goes on. -/
def txFrameStore (wcn : Wcn) (is_low : Bool) (call : TxFrameCall) :
    Option (Wcn × (ℤ ⊕ TxFrameCall)) :=
  let ch := wcn.txCh is_low
  -- A store to the descriptor.
  let store (f : DxeDesc → DxeDesc) (next : TxStore) : Option (Wcn × (ℤ ⊕ TxFrameCall)) :=
    some (wcn.setTxCh is_low (ch.modDesc call.desc f), .inr { call with store := next })
  match call.store with
  | .skbNull => do
    let ch' ← ch.modCtl call.ctl fun c => { c with skb := none }
    let c ← ch'.ctl call.ctl
    let desc ← c.desc
    return (wcn.setTxCh is_low ch', .inr { call with store := .bdSrc, desc := desc })
  | .bdSrc => do
    let c ← ch.ctl call.ctl
    store (fun d => { d with src_addr_l := c.bd_phy_addr }) .bdDst
  | .bdDst => store (fun d => { d with dst_addr_l := ch.dxe_wq }) .bdLen
  | .bdLen => store (fun d => { d with fr_len := BitVec.ofNat 32 TxBd.size }) .bdCtrl
  | .bdCtrl => store (fun d => { d with ctrl := ch.ctrl_bd }) .skbPtr
  | .skbPtr => do
    let c ← ch.ctl call.ctl
    let next ← c.next
    let ch' ← ch.modCtl next fun c => { c with skb := some call.skb }
    let n ← ch'.ctl next
    let desc ← n.desc
    if n.bd_cpu_addr ≠ 0 then
      -- `bd_cpu_addr cannot be NULL for skb DXE`
      return (wcn.setTxCh is_low ch', .inl (-EINVAL))
    else
      return (wcn.setTxCh is_low ch',
        .inr { call with store := .skbSrc, ctl := next, desc := desc })
  | .skbSrc => do
    let n ← ch.ctl call.ctl
    let skb ← n.skb
    let wcn' := wcn.setTxCh is_low (ch.modDesc call.desc fun d => { d with src_addr_l := skb.dma })
    return (wcn'.emit [.dmaMap skb], .inr { call with store := .skbDst })
  | .skbDst => store (fun d => { d with dst_addr_l := ch.dxe_wq }) .skbLen
  | .skbLen => do
    let n ← ch.ctl call.ctl
    let skb ← n.skb
    store (fun d => { d with fr_len := BitVec.ofNat 32 skb.len }) .skbCtrl
  | .skbCtrl => store (fun d => { d with ctrl := ch.ctrl_skb }) .head
  | .head => do
    let n ← ch.ctl call.ctl
    return (wcn.setTxCh is_low { ch with head_blk_ctl := n.next },
      .inr { call with store := .kick })
  | .kick => do
    let wcn ← dxeTxKick wcn call.vif_priv is_low ch
    return (wcn, .inl 0)

/-- The rest of a call, with at most `fuel` stores, when nothing happens in between. -/
def txFrameStores (is_low : Bool) : (fuel : ℕ) → Wcn → TxFrameCall → Option (Wcn × ℤ)
  | 0, _, _ => none
  | fuel + 1, wcn, call => do
    let (wcn, r) ← txFrameStore wcn is_low call
    match r with
    | .inl ret => return (wcn, ret)
    | .inr call => txFrameStores is_low fuel wcn call

/-- A call of `wcn36xx_dxe_tx_frame`, when nothing happens in between. -/
def txFrameStoresAll (wcn : Wcn) (vif_priv : Option WcnVif) (skb : SkBuff) (is_low : Bool) :
    Option (Wcn × ℤ) := do
  let (wcn, r) ← txFrameBegin wcn vif_priv skb is_low
  match r with
  | .inl ret => return (wcn, ret)
  | .inr call => txFrameStores is_low 12 wcn call

/-! ## One store on a ring -/

namespace TxStore

/-- The store after a store. -/
def next : TxStore → TxStore
  | skbNull => bdSrc
  | bdSrc => bdDst
  | bdDst => bdLen
  | bdLen => bdCtrl
  | bdCtrl => skbPtr
  | skbPtr => skbSrc
  | skbSrc => skbDst
  | skbDst => skbLen
  | skbLen => skbCtrl
  | skbCtrl => head
  | head | kick => kick

/-- Before this store `ctl` is the BD block. -/
def atBd : TxStore → Bool
  | skbNull | bdSrc | bdDst | bdLen | bdCtrl | skbPtr => true
  | skbSrc | skbDst | skbLen | skbCtrl | head | kick => false

/-- The store reads the frame through the pointer to it. -/
def readsSkb : TxStore → Bool
  | skbSrc | skbLen => true
  | _ => false

end TxStore

/-- The call for a frame whose blocks are at `H` and `H + 1`, before a store. -/
def callAt (ch : DxeCh) (H : ℕ) (vif_priv : Option WcnVif) (skb : SkBuff) (store : TxStore) :
    TxFrameCall where
  vif_priv := vif_priv
  skb := skb
  store := store
  ctl := if store.atBd then ch.blk H else ch.blk (H + 1)
  desc := if store = .skbNull then 0 else if store.atBd then H % ch.desc_num
    else (H + 1) % ch.desc_num

/-- A channel after a store of the call for a frame whose blocks are at `H` and `H + 1`. -/
def storeCh (ch : DxeCh) (H : ℕ) (skb : SkBuff) : TxStore → DxeCh
  | .skbNull => ch.setSkb H none
  | .bdSrc => ch.modDesc (H % ch.desc_num) fun d =>
    { d with src_addr_l := (ch.ctl (ch.blk H)).elim 0 DxeCtl.bd_phy_addr }
  | .bdDst => ch.modDesc (H % ch.desc_num) fun d => { d with dst_addr_l := ch.dxe_wq }
  | .bdLen => ch.modDesc (H % ch.desc_num) fun d =>
    { d with fr_len := BitVec.ofNat 32 TxBd.size }
  | .bdCtrl => ch.modDesc (H % ch.desc_num) fun d => { d with ctrl := ch.ctrl_bd }
  | .skbPtr => ch.setSkb (H + 1) (some skb)
  | .skbSrc => ch.modDesc ((H + 1) % ch.desc_num) fun d => { d with src_addr_l := skb.dma }
  | .skbDst => ch.modDesc ((H + 1) % ch.desc_num) fun d => { d with dst_addr_l := ch.dxe_wq }
  | .skbLen => ch.modDesc ((H + 1) % ch.desc_num) fun d =>
    { d with fr_len := BitVec.ofNat 32 skb.len }
  | .skbCtrl => ch.modDesc ((H + 1) % ch.desc_num) fun d => { d with ctrl := ch.ctrl_skb }
  | .head => { ch with head_blk_ctl := some (ch.blk (H + 2)) }
  | .kick => ch

/-- What a store does besides. -/
def storeEffects (skb : SkBuff) : TxStore → List Effect
  | .skbSrc => [.dmaMap skb]
  | _ => []

/-- Nothing is appended to the log. -/
theorem emit_nil (wcn : Wcn) : wcn.emit [] = wcn := by
  rw [Wcn.emit, List.append_nil]

section Store

variable {pool : DxeMemPool} {wcn : Wcn} {is_low : Bool} {H : ℕ}
  (h : TxReady pool (wcn.txCh is_low))
include h

/-- A store, as long as it reads no pointer to a frame that is not there. -/
theorem txFrameStore_eq {vif_priv : Option WcnVif} {skb : SkBuff} {store : TxStore} (hH : H % 2 = 0)
    (hreads : store.readsSkb = true → (wcn.txCh is_low).slotSkb (H + 1) = some skb)
    (hkick : store ≠ .kick) :
    txFrameStore wcn is_low (callAt (wcn.txCh is_low) H vif_priv skb store) =
      some ((wcn.setTxCh is_low (storeCh (wcn.txCh is_low) H skb store)).emit
        (storeEffects skb store), .inr (callAt (wcn.txCh is_low) H vif_priv skb store.next)) := by
  obtain ⟨c, hc, hnext, hdesc, -⟩ := h.ctl H
  obtain ⟨n, hn, hnnext, hndesc, hbd⟩ := h.ctl (H + 1)
  have hskb : store.readsSkb = true → n.skb = some skb := by
    intro hr
    have hslot := hreads hr
    rw [DxeCh.slotSkb, DxeCh.skbAt, hn] at hslot
    exact hslot
  cases store with
  | skbNull =>
    have hc' : ((wcn.txCh is_low).setSkb H none).ctl ((wcn.txCh is_low).blk H) =
        some { c with skb := none } := by
      simp only [DxeCh.setSkb, if_true, hc, Option.map_some]
    simp only [txFrameStore, callAt, TxStore.atBd, if_true, h.ring.modCtl_skb H none,
      Option.bind_eq_bind, Option.bind_some, hc', hdesc, Option.pure_def, storeCh, storeEffects,
      emit_nil, TxStore.next]
    rfl
  | bdSrc =>
    simp only [txFrameStore, callAt, TxStore.atBd, if_true, hc, Option.bind_eq_bind,
      Option.bind_some, storeCh, storeEffects, emit_nil, TxStore.next, Option.elim_some]
    rfl
  | bdDst | bdLen | bdCtrl | skbDst | skbCtrl =>
    simp only [storeEffects, emit_nil]
    rfl
  | skbPtr =>
    have hnull : n.bd_cpu_addr = 0 := by
      have hpos := (h.bdAddr_pos_iff (H + 1)).not.mpr (by omega)
      omega
    have hn' : ((wcn.txCh is_low).setSkb (H + 1) (some skb)).ctl ((wcn.txCh is_low).blk (H + 1)) =
        some { n with skb := some skb } := by
      simp only [DxeCh.setSkb, if_true, hn, Option.map_some]
    simp only [txFrameStore, callAt, TxStore.atBd, if_true, hc, hnext, Option.bind_eq_bind,
      Option.bind_some, h.ring.modCtl_skb (H + 1) (some skb), hn', hndesc, hnull, ne_eq,
      not_true_eq_false, if_false, Option.pure_def, storeCh, storeEffects, emit_nil, TxStore.next]
    rfl
  | skbSrc =>
    simp only [txFrameStore, callAt, TxStore.atBd, Bool.false_eq_true, if_false, hn, hskb rfl,
      Option.bind_eq_bind, Option.bind_some, Option.pure_def, storeCh, storeEffects, TxStore.next]
    rfl
  | skbLen =>
    simp only [txFrameStore, callAt, TxStore.atBd, Bool.false_eq_true, if_false, hn, hskb rfl,
      Option.bind_eq_bind, Option.bind_some, storeCh, storeEffects, emit_nil, TxStore.next]
    rfl
  | head =>
    simp only [txFrameStore, callAt, TxStore.atBd, Bool.false_eq_true, if_false, hn, hnnext,
      Option.bind_eq_bind, Option.bind_some, Option.pure_def, storeCh, storeEffects, emit_nil,
      TxStore.next]
    rfl
  | kick => exact absurd rfl hkick

end Store

/-- A write to a descriptor, and the VALID bits. -/
theorem DxeCh.slotValid_modDesc (ch : DxeCh) (j : ℕ) (f : DxeDesc → DxeDesc) (k : ℕ) :
    (ch.modDesc (j % ch.desc_num) f).slotValid k =
      if k % ch.desc_num = j % ch.desc_num then (f (ch.dxe (j % ch.desc_num))).valid
      else ch.slotValid k := by
  rw [slotValid, slotValid, modDesc]
  dsimp only
  split_ifs with hk
  · rw [hk, Function.update_self]
  · rw [Function.update_of_ne hk]

section StoreCh

variable {pool : DxeMemPool} {ch : DxeCh} (h : TxReady pool ch) (H : ℕ) (skb : SkBuff)
  (store : TxStore)
include h

/-- A store keeps the ring. -/
theorem TxReady.storeCh : TxReady pool (storeCh ch H skb store) := by
  cases store with
  | skbNull => exact h.setSkb H none
  | skbPtr => exact h.setSkb (H + 1) (some skb)
  | bdSrc | bdDst | bdLen | bdCtrl | skbSrc | skbDst | skbLen | skbCtrl | head | kick =>
    exact h.congr rfl rfl rfl rfl

/-- Two of the stores make a descriptor VALID. -/
theorem slotValid_storeCh (k : ℕ) :
    (storeCh ch H skb store).slotValid k =
      if store = .bdCtrl ∧ k % ch.desc_num = H % ch.desc_num ∨
          store = .skbCtrl ∧ k % ch.desc_num = (H + 1) % ch.desc_num then true
      else ch.slotValid k := by
  -- A field of a descriptor other than `ctrl`.
  have hfield : ∀ j (f : DxeDesc → DxeDesc), (∀ d, (f d).valid = d.valid) →
      (ch.modDesc (j % ch.desc_num) f).slotValid k = ch.slotValid k := by
    intro j f hf
    rw [ch.slotValid_modDesc, hf]
    split_ifs with hk
    · rw [DxeCh.slotValid, hk]
    · rfl
  cases store with
  | bdCtrl =>
    rw [Wcn36xx.storeCh, ch.slotValid_modDesc]
    simp only [true_and, reduceCtorEq, false_and, or_false]
    split_ifs
    · exact valid_of_ctrl h.ctrl_bd
    · rfl
  | skbCtrl =>
    rw [Wcn36xx.storeCh, ch.slotValid_modDesc]
    simp only [true_and, reduceCtorEq, false_and, false_or]
    split_ifs
    · exact valid_of_ctrl h.ctrl_skb
    · rfl
  | bdSrc | bdDst | bdLen | skbSrc | skbDst | skbLen =>
    rw [if_neg (by simp), Wcn36xx.storeCh, hfield]
    exact fun d => rfl
  | skbNull | skbPtr | head | kick =>
    rw [if_neg (by simp)]
    rfl

/-- Two of the stores are to pointers to frames. -/
theorem slotSkb_storeCh (k : ℕ) :
    (storeCh ch H skb store).slotSkb k =
      if store = .skbPtr ∧ k % ch.desc_num = (H + 1) % ch.desc_num then some skb
      else if store = .skbNull ∧ k % ch.desc_num = H % ch.desc_num then none
      else ch.slotSkb k := by
  cases store with
  | skbNull =>
    rw [Wcn36xx.storeCh, h.ring.slotSkb_setSkb]
    simp only [reduceCtorEq, false_and, if_false, true_and]
  | skbPtr =>
    rw [Wcn36xx.storeCh, h.ring.slotSkb_setSkb]
    simp only [reduceCtorEq, false_and, if_false, true_and]
  | bdSrc | bdDst | bdLen | bdCtrl | skbSrc | skbDst | skbLen | skbCtrl | head | kick =>
    rw [if_neg (by simp), if_neg (by simp)]
    rfl

omit h

/-- A store keeps the size of the ring. -/
theorem desc_num_storeCh : (storeCh ch H skb store).desc_num = ch.desc_num := by
  cases store <;> rfl

/-- No store is to the tail. -/
theorem tail_storeCh : (storeCh ch H skb store).tail_blk_ctl = ch.tail_blk_ctl := by
  cases store <;> rfl

/-- One store is to the head. -/
theorem head_storeCh : (storeCh ch H skb store).head_blk_ctl =
    if store = .head then some (ch.blk (H + 2)) else ch.head_blk_ctl := by
  cases store <;> rfl

/-- The call knows its blocks by their addresses, which no store changes. -/
theorem callAt_storeCh (vif_priv : Option WcnVif) (store' : TxStore) :
    callAt (storeCh ch H skb store) H vif_priv skb store' = callAt ch H vif_priv skb store' := by
  rw [callAt, callAt, DxeCh.blk, DxeCh.blk, DxeCh.blk, DxeCh.blk, desc_num_storeCh]

end StoreCh

/-! ## The program is the function -/

/-- Two writes to one descriptor. -/
theorem DxeCh.modDesc_modDesc (ch : DxeCh) (i : ℕ) (f g : DxeDesc → DxeDesc) :
    (ch.modDesc i f).modDesc i g = ch.modDesc i fun d => g (f d) := by
  simp only [modDesc, Function.update_idem, Function.update_self]

/-- The four stores to the descriptor of the BD. -/
theorem storeCh_bd (ch : DxeCh) (H : ℕ) (skb : SkBuff) :
    storeCh (storeCh (storeCh (storeCh ch H skb .bdSrc) H skb .bdDst) H skb .bdLen) H skb .bdCtrl =
      ch.modDesc (H % ch.desc_num) fun d => { d with
        src_addr_l := (ch.ctl (ch.blk H)).elim 0 DxeCtl.bd_phy_addr, dst_addr_l := ch.dxe_wq
        fr_len := BitVec.ofNat 32 TxBd.size, ctrl := ch.ctrl_bd } := by
  have h₂ := ch.modDesc_modDesc (H % ch.desc_num)
    (fun d => { d with src_addr_l := (ch.ctl (ch.blk H)).elim 0 DxeCtl.bd_phy_addr })
    (fun d => { d with dst_addr_l := ch.dxe_wq })
  have h₃ := (congrArg (fun ch' : DxeCh => ch'.modDesc (H % ch.desc_num)
    fun d => { d with fr_len := BitVec.ofNat 32 TxBd.size }) h₂).trans (ch.modDesc_modDesc _ _ _)
  exact (congrArg (fun ch' : DxeCh => ch'.modDesc (H % ch.desc_num)
    fun d => { d with ctrl := ch.ctrl_bd }) h₃).trans (ch.modDesc_modDesc _ _ _)

/-- The four stores to the descriptor of the frame. -/
theorem storeCh_skb (ch : DxeCh) (H : ℕ) (skb : SkBuff) :
    storeCh (storeCh (storeCh (storeCh ch H skb .skbSrc) H skb .skbDst) H skb .skbLen) H skb
        .skbCtrl =
      ch.modDesc ((H + 1) % ch.desc_num) fun d => { d with
        src_addr_l := skb.dma, dst_addr_l := ch.dxe_wq
        fr_len := BitVec.ofNat 32 skb.len, ctrl := ch.ctrl_skb } := by
  have h₂ := ch.modDesc_modDesc ((H + 1) % ch.desc_num) (fun d => { d with src_addr_l := skb.dma })
    (fun d => { d with dst_addr_l := ch.dxe_wq })
  have h₃ := (congrArg (fun ch' : DxeCh => ch'.modDesc ((H + 1) % ch.desc_num)
    fun d => { d with fr_len := BitVec.ofNat 32 skb.len }) h₂).trans (ch.modDesc_modDesc _ _ _)
  exact (congrArg (fun ch' : DxeCh => ch'.modDesc ((H + 1) % ch.desc_num)
    fun d => { d with ctrl := ch.ctrl_skb }) h₃).trans (ch.modDesc_modDesc _ _ _)

/-- The eleven stores, one after the other, put the frame at the head. -/
theorem acceptCh_eq_stores {pool : DxeMemPool} {ch : DxeCh} (h : TxReady pool ch) {H : ℕ}
    {c : DxeCtl} (hc : ch.ctl (ch.blk H) = some c) {skb : SkBuff} :
    acceptCh ch H c.bd_phy_addr skb =
      storeCh (storeCh (storeCh (storeCh (storeCh (storeCh (storeCh (storeCh (storeCh (storeCh
        (storeCh ch H skb .skbNull) H skb .bdSrc) H skb .bdDst) H skb .bdLen) H skb .bdCtrl) H skb
        .skbPtr) H skb .skbSrc) H skb .skbDst) H skb .skbLen) H skb .skbCtrl) H skb .head := by
  have hphy : ((storeCh ch H skb .skbNull).ctl ((storeCh ch H skb .skbNull).blk H)).elim 0
      DxeCtl.bd_phy_addr = c.bd_phy_addr := by
    have hblk : (ch.setSkb H none).blk H = ch.blk H := rfl
    rw [storeCh, hblk]
    simp only [DxeCh.setSkb, if_true, hc, Option.map_some, Option.elim_some]
  have hne : Function.update ch.dxe (H % ch.desc_num) { ch.dxe (H % ch.desc_num) with
      src_addr_l := c.bd_phy_addr, dst_addr_l := ch.dxe_wq
      fr_len := BitVec.ofNat 32 TxBd.size, ctrl := ch.ctrl_bd } ((H + 1) % ch.desc_num) =
      ch.dxe ((H + 1) % ch.desc_num) := Function.update_of_ne (h.succ_mod_ne H) _ _
  rw [storeCh_skb, storeCh_bd, hphy, acceptCh, ← hne]
  rfl

/-- A channel written back as it is. -/
theorem setTxCh_self (wcn : Wcn) (is_low : Bool) : wcn.setTxCh is_low (wcn.txCh is_low) = wcn := by
  cases is_low <;> rfl

/-- One store of a call that goes on after it. -/
theorem txFrameStores_succ {pool : DxeMemPool} {ch : DxeCh} (h : TxReady pool ch) {H : ℕ}
    (hH : H % 2 = 0) (wcn : Wcn) (is_low : Bool) (es : List Effect) (vif_priv : Option WcnVif)
    (skb : SkBuff) (store store' : TxStore) (fuel : ℕ) (hnext : store.next = store')
    (hreads : store.readsSkb = true → ch.slotSkb (H + 1) = some skb) (hkick : store ≠ .kick) :
    txFrameStores is_low (fuel + 1) ((wcn.setTxCh is_low ch).emit es)
        (callAt ch H vif_priv skb store) =
      txFrameStores is_low fuel
        ((wcn.setTxCh is_low (storeCh ch H skb store)).emit (es ++ storeEffects skb store))
        (callAt (storeCh ch H skb store) H vif_priv skb store') := by
  have hch : ((wcn.setTxCh is_low ch).emit es).txCh is_low = ch := by
    rw [Wcn.emit_txCh, Wcn.txCh_setTxCh]
  have hstore : txFrameStore ((wcn.setTxCh is_low ch).emit es) is_low (callAt
      (((wcn.setTxCh is_low ch).emit es).txCh is_low) H vif_priv skb store) = _ :=
    txFrameStore_eq (hch.symm ▸ h) hH (hch.symm ▸ hreads) hkick
  rw [hch] at hstore
  have hset : ((wcn.setTxCh is_low ch).emit es).setTxCh is_low (storeCh ch H skb store) =
      (wcn.setTxCh is_low (storeCh ch H skb store)).emit es := by
    cases is_low <;> rfl
  rw [txFrameStores, hstore, hset, Wcn.emit_emit, callAt_storeCh, ← hnext]
  rfl

/-- When nothing happens between its stores, the program is `wcn36xx_dxe_tx_frame`. -/
theorem txFrameStoresAll_eq {pool : DxeMemPool} {wcn : Wcn} {is_low : Bool} {H : ℕ}
    (h : TxReady pool (wcn.txCh is_low)) (hH : H % 2 = 0)
    (hhead : (wcn.txCh is_low).head_blk_ctl = some ((wcn.txCh is_low).blk H))
    (vif_priv : Option WcnVif) (skb : SkBuff) :
    txFrameStoresAll wcn vif_priv skb is_low = dxeTxFrame wcn vif_priv skb is_low := by
  obtain ⟨c, hc, hnext, hdesc, -⟩ := h.ctl H
  obtain ⟨n, hn, -⟩ := h.ctl (H + 1)
  cases hfull : n.skb with
  | some skb' =>
    simp only [txFrameStoresAll, txFrameBegin, dxeTxFrame, hhead, hc, hnext, hn, hfull,
      Option.isSome_some, Option.bind_eq_bind, Option.bind_some, if_true, Option.pure_def]
  | none =>
    have hfree : (wcn.txCh is_low).slotSkb (H + 1) = none := by
      rw [DxeCh.slotSkb, DxeCh.skbAt, hn, Option.bind_some, hfull]
    rw [dxeTxFrame_acceptAt h hhead hH hfree hc]
    -- Up to the first store nothing happens.
    have hbegin : txFrameStoresAll wcn vif_priv skb is_low =
        txFrameStores is_low 12 ((wcn.setTxCh is_low (wcn.txCh is_low)).emit [])
          (callAt (wcn.txCh is_low) H vif_priv skb .skbNull) := by
      rw [emit_nil, setTxCh_self]
      simp only [txFrameStoresAll, txFrameBegin, hhead, hc, hnext, hn, hfull, Option.isSome_none,
        Option.bind_eq_bind, Option.bind_some, Bool.false_eq_true, if_false, Option.pure_def]
      rfl
    rw [hbegin]
    generalize wcn.txCh is_low = ch at h hc ⊢
    -- The eleven stores before the device is told, one by one.
    have hno : ∀ {store : TxStore}, store.readsSkb = false →
        ∀ {ch : DxeCh}, store.readsSkb = true → ch.slotSkb (H + 1) = some skb := by
      intro store hfalse ch htrue
      rw [hfalse] at htrue
      exact absurd htrue Bool.false_ne_true
    have h₁ := h.storeCh H skb .skbNull
    have h₂ := h₁.storeCh H skb .bdSrc
    have h₃ := h₂.storeCh H skb .bdDst
    have h₄ := h₃.storeCh H skb .bdLen
    have h₅ := h₄.storeCh H skb .bdCtrl
    have h₆ := h₅.storeCh H skb .skbPtr
    have hs₆ := slotSkb_storeCh h₅ H skb .skbPtr (H + 1)
    rw [if_pos ⟨rfl, by rw [desc_num_storeCh]⟩] at hs₆
    have h₇ := h₆.storeCh H skb .skbSrc
    have h₈ := h₇.storeCh H skb .skbDst
    have hs₇ := slotSkb_storeCh h₆ H skb .skbSrc (H + 1)
    rw [if_neg (by simp), if_neg (by simp), hs₆] at hs₇
    have hs₈ := slotSkb_storeCh h₇ H skb .skbDst (H + 1)
    rw [if_neg (by simp), if_neg (by simp), hs₇] at hs₈
    have h₉ := h₈.storeCh H skb .skbLen
    have h₁₀ := h₉.storeCh H skb .skbCtrl
    rw [txFrameStores_succ h hH wcn is_low _ vif_priv skb .skbNull .bdSrc _ rfl (hno rfl)
        (by decide),
      txFrameStores_succ h₁ hH wcn is_low _ vif_priv skb .bdSrc .bdDst _ rfl (hno rfl)
        (by decide),
      txFrameStores_succ h₂ hH wcn is_low _ vif_priv skb .bdDst .bdLen _ rfl (hno rfl)
        (by decide),
      txFrameStores_succ h₃ hH wcn is_low _ vif_priv skb .bdLen .bdCtrl _ rfl (hno rfl)
        (by decide),
      txFrameStores_succ h₄ hH wcn is_low _ vif_priv skb .bdCtrl .skbPtr _ rfl (hno rfl)
        (by decide),
      txFrameStores_succ h₅ hH wcn is_low _ vif_priv skb .skbPtr .skbSrc _ rfl (hno rfl)
        (by decide),
      txFrameStores_succ h₆ hH wcn is_low _ vif_priv skb .skbSrc .skbDst _ rfl (fun _ => hs₆)
        (by decide),
      txFrameStores_succ h₇ hH wcn is_low _ vif_priv skb .skbDst .skbLen _ rfl (hno rfl)
        (by decide),
      txFrameStores_succ h₈ hH wcn is_low _ vif_priv skb .skbLen .skbCtrl _ rfl (fun _ => hs₈)
        (by decide),
      txFrameStores_succ h₉ hH wcn is_low _ vif_priv skb .skbCtrl .head _ rfl (hno rfl)
        (by decide),
      txFrameStores_succ h₁₀ hH wcn is_low _ vif_priv skb .head .kick _ rfl (hno rfl)
        (by decide)]
    rw [← acceptCh_eq_stores h hc]
    simp only [storeEffects, List.nil_append, List.append_nil, txFrameStores, txFrameStore, callAt,
      Wcn.emit_txCh, Wcn.txCh_setTxCh]
    cases dxeTxKick _ vif_priv is_low _ with
    | none => rfl
    | some wcn' => rfl

end Wcn36xx
