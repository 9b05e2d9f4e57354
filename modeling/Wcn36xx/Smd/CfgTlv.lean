import Wcn36xx.Smd.Residue

/-!
# Configuration entries

`wcn36xx_smd_start` puts a list of configuration entries behind its message with `put_cfg_tlv_u32`.
`parseCfg` reads such an area from front to back by the format of `hal.h`, and reads back what the loop has
written (`parseCfg_entries`). `cfgRoundTrip_iff` says which lists make the round trip: all that fit
`hal_buf`, but for those that fill it to the last byte.
-/

namespace Wcn36xx

/-! ## Reading an area of entries -/

/-- Read entries to the end of the area: the id, and the bytes that are as many as the length
says. An entry that goes beyond the end is an error. -/
def parseCfg (area : List Byte) : Option (List (ℕ × List Byte)) :=
  if area.isEmpty then some []
  else if area.length < 8 then none
  else
    let id := field area 0 2
    let len := field area 2 2
    if area.length < 8 + len then none
    else (parseCfg (area.drop (8 + len))).map fun rest => (id, (area.drop 8).take len) :: rest
termination_by area.length
decreasing_by
  rw [List.length_drop]
  omega

/-- Nothing is left. -/
theorem parseCfg_nil : parseCfg [] = some [] := by
  unfold parseCfg
  rfl

/-- An entry in front of the area. -/
theorem parseCfg_cfgEntry {id : BitVec 32} (value : BitVec 32) (rest : List Byte)
    (hid : id.toNat < 2 ^ 16) :
    parseCfg (cfgEntry id value ++ rest) =
      (parseCfg rest).map fun entries => (id.toNat, leBytes value) :: entries := by
  have hlen : (cfgEntry id value).length = 12 := rfl
  have hid' : field (cfgEntry id value ++ rest) 0 2 = id.toNat := by
    have hmod : (id.setWidth 16).toNat = id.toNat := by
      rw [BitVec.toNat_setWidth]
      exact Nat.mod_eq_of_lt hid
    rw [← hmod, ← readLe_leBytes16]
    exact field_append [] (leBytes16 (id.setWidth 16)) _ rfl rfl
  have hlen' : field (cfgEntry id value ++ rest) 2 2 = 4 :=
    field_append (leBytes16 (id.setWidth 16)) (leBytes16 4) _ rfl rfl
  have hempty : ¬(cfgEntry id value ++ rest).isEmpty = true := Bool.false_ne_true
  have hbody : ((cfgEntry id value ++ rest).drop 8).take 4 = leBytes value := rfl
  have hrest : (cfgEntry id value ++ rest).drop (8 + 4) = rest := rfl
  rw [parseCfg]
  dsimp only
  rw [if_neg hempty, hid', hlen', hbody, hrest, List.length_append, hlen, if_neg (by omega),
    if_neg (by omega)]

/-- The entries are read back in their order. The induction is on the list. -/
theorem parseCfg_entries (cfg_vals : List (BitVec 32 × BitVec 32))
    (hid : ∀ val ∈ cfg_vals, val.1.toNat < 2 ^ 16) :
    parseCfg (cfg_vals.flatMap fun val => cfgEntry val.1 val.2) =
      some (cfg_vals.map fun val => (val.1.toNat, leBytes val.2)) := by
  induction cfg_vals with
  | nil => exact parseCfg_nil
  | cons val cfg_vals ih =>
    obtain ⟨hval, hvals⟩ := List.forall_mem_cons.mp hid
    rw [List.flatMap_cons, parseCfg_cfgEntry _ _ hval, ih hvals]
    rfl

/-! ## The loop when there is no room -/

/-- An entry for which there is no room is an error, and the buffer stays as it is. -/
theorem putCfgTlvU32_refused (hal_buf : HalBuf) {len : ℕ} (id value : BitVec 32)
    (h : WCN36XX_HAL_BUF_SIZE ≤ len + 12) :
    putCfgTlvU32 hal_buf len id value = some (hal_buf, len, -ENOMEM) := by
  unfold putCfgTlvU32
  rw [if_pos h]
  rfl

/-- The loop ends with an error at the first entry for which there is no room. The induction is on the
entries that are left. -/
theorem putCfgTlvs_refused (cfg_vals : List (BitVec 32 × BitVec 32)) :
    ∀ {hal_buf : HalBuf} {msg : List Byte}, msg <+: hal_buf.bytes →
    msg.length < WCN36XX_HAL_BUF_SIZE → WCN36XX_HAL_BUF_SIZE ≤ msg.length + 12 * cfg_vals.length →
    ∃ hal_buf' len, putCfgTlvs cfg_vals hal_buf msg.length = some (hal_buf', len, -ENOMEM) := by
  induction cfg_vals with
  | nil =>
    intro hal_buf msg h hlt hge
    rw [List.length_nil] at hge
    omega
  | cons val cfg_vals ih =>
    intro hal_buf msg h hlt hge
    obtain ⟨id, value⟩ := val
    rw [List.length_cons] at hge
    rcases Nat.lt_or_ge (msg.length + 12) WCN36XX_HAL_BUF_SIZE with hroom | hfull
    · have hentry : (msg ++ cfgEntry id value).length = msg.length + 12 := List.length_append
      obtain ⟨buf₁, h₁, hmsg₁⟩ := putCfgTlvU32_spec id value h hroom
      obtain ⟨buf₂, len, h₂⟩ := ih hmsg₁ (by omega) (by omega)
      refine ⟨buf₂, len, ?_⟩
      rw [putCfgTlvs, h₁]
      rw [hentry] at h₂
      exact h₂
    · refine ⟨hal_buf, msg.length, ?_⟩
      rw [putCfgTlvs, putCfgTlvU32_refused hal_buf id value hfull]
      rfl

/-- Then nothing is sent. -/
theorem startWith_refused {cfg_vals : List (BitVec 32 × BitVec 32)}
    (h : WCN36XX_HAL_BUF_SIZE ≤ 16 + 12 * cfg_vals.length) :
    Refuses (SmdFn.startWith cfg_vals).compose (-ENOMEM) := by
  intro hal_buf
  obtain ⟨buf₁, h₁, hmsg₁, hlen₁⟩ := startWith_prepare hal_buf
  obtain ⟨buf₂, len, h₂⟩ := putCfgTlvs_refused cfg_vals hmsg₁ (by decide) h
  have h₂' : putCfgTlvs cfg_vals buf₁ 16 = some (buf₂, len, -ENOMEM) := h₂
  have hret : ¬(-ENOMEM) = 0 := by decide
  simp only [SmdFn.startWith, h₁, hlen₁, h₂', hret, Option.bind_eq_bind, Option.bind_some,
    Option.pure_def, ne_eq, not_false_eq_true, if_true]

/-! ## The round trip -/

/-- A START request is sent whose area of entries is read as the list, with the lengths of the message and
of the area. -/
def SendsCfg (compose : HalBuf → Option Composed) (cfg_vals : List (BitVec 32 × BitVec 32)) : Prop :=
  ∃ msg, Composes compose msg ∧ field msg 0 2 = HalReq.START.reqType.toNat ∧
    field msg 4 4 = 16 + 12 * cfg_vals.length ∧ msg.length = 16 + 12 * cfg_vals.length ∧
    field msg 12 4 = 12 * cfg_vals.length ∧
    parseCfg (msg.drop 16) = some (cfg_vals.map fun val => (val.1.toNat, leBytes val.2))

/-- A list that fits `hal_buf` is sent, and another is refused. -/
def CfgRoundTrip (cfg_vals : List (BitVec 32 × BitVec 32)) : Prop :=
  if 16 + 12 * cfg_vals.length ≤ WCN36XX_HAL_BUF_SIZE then
    SendsCfg (SmdFn.startWith cfg_vals).compose cfg_vals
  else Refuses (SmdFn.startWith cfg_vals).compose (-ENOMEM)

/-- What is composed is read back. -/
theorem startWith_sendsCfg {cfg_vals : List (BitVec 32 × BitVec 32)}
    (hid : ∀ val ∈ cfg_vals, val.1.toNat < 2 ^ 16)
    (hle : 16 + 12 * cfg_vals.length < WCN36XX_HAL_BUF_SIZE) :
    SendsCfg (SmdFn.startWith cfg_vals).compose cfg_vals := by
  have hsize : WCN36XX_HAL_BUF_SIZE = 4096 := rfl
  obtain ⟨hframed, hmsg⟩ := startWith_composes cfg_vals hle
  have hlength : (startMsg cfg_vals).length = 16 + 12 * cfg_vals.length := by
    have hheader : ∀ header : HalMsgHeader, header.bytes.length = 8 := fun _ => rfl
    unfold startMsg
    simp only [List.length_append, hheader, length_leBytes, length_cfgEntries]
    omega
  refine ⟨startMsg cfg_vals, hmsg, ?_, hlength ▸ hframed.len, hlength, ?_, ?_⟩
  · unfold startMsg
    rw [← readLe_leBytes16, HalMsgHeader.bytes]
    simp only [List.append_assoc]
    exact field_append [] (leBytes16 HalReq.START.reqType) _ rfl rfl
  · have hlen : (BitVec.ofNat 32 (12 * cfg_vals.length)).toNat = 12 * cfg_vals.length := by
      rw [BitVec.toNat_ofNat]
      omega
    rw [← hlen, ← readLe_leBytes]
    unfold startMsg
    rw [← List.append_assoc]
    exact field_append _ _ _ rfl rfl
  · rw [← parseCfg_entries cfg_vals hid]
    rfl

/-- For every list of entries with ids of 16 bits, the list makes the round trip if and only if it does not
fill `hal_buf` to the last byte. -/
theorem cfgRoundTrip_iff (cfg_vals : List (BitVec 32 × BitVec 32))
    (hid : ∀ val ∈ cfg_vals, val.1.toNat < 2 ^ 16) :
    CfgRoundTrip cfg_vals ↔ 16 + 12 * cfg_vals.length ≠ WCN36XX_HAL_BUF_SIZE := by
  unfold CfgRoundTrip
  rcases Nat.lt_trichotomy (16 + 12 * cfg_vals.length) WCN36XX_HAL_BUF_SIZE with hlt | heq | hgt
  · rw [if_pos hlt.le]
    exact iff_of_true (startWith_sendsCfg hid hlt) hlt.ne
  · rw [if_pos heq.le]
    refine iff_of_false ?_ (not_not.mpr heq)
    rintro ⟨msg, hmsg, -⟩
    exact (startWith_refused heq.ge).not_composes msg hmsg
  · rw [if_neg (Nat.not_le.mpr hgt)]
    exact iff_of_true (startWith_refused hgt.le) hgt.ne'

/-- The list of the driver makes the round trip. -/
theorem cfgRoundTrip_iff_cfg_vals : CfgRoundTrip wcn36xx_cfg_vals := by
  have hid : (wcn36xx_cfg_vals.all fun val => val.1.toNat < 2 ^ 16) = true := rfl
  apply (cfgRoundTrip_iff wcn36xx_cfg_vals ?_).mpr (by decide)
  intro val hval
  exact of_decide_eq_true (List.all_eq_true.mp hid val hval)

/-- A list of 340 entries fits, and is refused. -/
theorem cfgRoundTrip_fails_on_full_buffer : ¬CfgRoundTrip (List.replicate 340 (1, 1)) := by
  unfold CfgRoundTrip
  rw [List.length_replicate, if_pos (by decide)]
  rintro ⟨msg, hmsg, -⟩
  exact Refuses.not_composes (startWith_refused (by rw [List.length_replicate]; decide)) msg hmsg

end Wcn36xx
