import Mapecd.Ebpf.ByteOrder

/-! The two translations in closed form, and from them when a program rewrites a
packet: whether there is a value to translate, and to which, is read off the
packet and the configuration. -/
namespace Mapecd

open Checked Effects

namespace PsidConfig

/-- `staging_min + ((R - 1) * 2^(16-a-k) + j)` for the row R and the index j of a port. -/
def stagingPort (cfg : PsidConfig) (p : U16) : Nat :=
  cfg.stagingMin.toNat + ((p.toNat / 2 ^ (16 - cfg.offset.toNat) - 1) * cfg.blockSize +
    p.toNat % cfg.blockSize)

/-- A loaded value that is its own translation: there are no PSID bits, or the
PSID is zero and the value lies in the first block. -/
def Keeps (cfg : PsidConfig) (value : U16) : Prop :=
  cfg.length = 0 ∨ (value.toNat < cfg.stagingMin.toNat + cfg.blockSize ∧ cfg.psid = 0)

variable {cfg : PsidConfig} {value : U16}

theorem Coherent.stagingPort_eq (h : cfg.Coherent) (p : U16) :
    cfg.stagingPort p = Radix.gather cfg.psids cfg.blockSize p.toNat := by
  rw [stagingPort, Radix.gather, Radix.high_eq_div, Radix.low, h.stagingMin, ← h.row_width]

/-- `Keeps` in the digits of the value. -/
theorem Coherent.keeps_iff (h : cfg.Coherent) (value : U16) :
    cfg.Keeps value ↔ cfg.psids = 1 ∨
      ((value.toNat - cfg.psids * cfg.blockSize) / cfg.blockSize = 0 ∧ cfg.psid.toNat = 0) := by
  have hLength : cfg.length = 0 ↔ cfg.psids = 1 := by
    rw [psids, Nat.pow_eq_one, ← BitVec.toNat_inj]
    exact ⟨Or.inr, fun hPsids => hPsids.resolve_left (by decide)⟩
  have hPsid : cfg.psid = 0 ↔ cfg.psid.toNat = 0 := BitVec.toNat_inj.symm
  have hPos := cfg.blockSize_pos
  rw [Keeps, hLength, hPsid, h.stagingMin, Nat.div_eq_zero_iff_lt hPos]
  omega

theorem Coherent.psidPort_eq_self_iff (h : cfg.Coherent) (hs : cfg.Staging value) :
    cfg.psidPort value = value.toNat ↔ cfg.Keeps value := by
  have hCompact := (h.staging_iff value).mp hs
  rw [h.psidPort_eq, h.keeps_iff]
  exact Radix.spread_eq_self_iff h.psid_lt cfg.blockSize_pos hCompact.1

theorem Coherent.stagingPort_eq_self_iff (h : cfg.Coherent) (hp : cfg.InBlocks value) :
    cfg.stagingPort value = value.toNat ↔ cfg.Keeps value := by
  rw [h.stagingPort_eq, h.keeps_iff]
  exact Radix.gather_eq_self_iff h.psid_lt cfg.blockSize_pos h.rows_pos hp

end PsidConfig

/-- Which values a direction translates, and to which. -/
structure PortMap where
  Moves : PsidConfig → U16 → Prop
  image : PsidConfig → U16 → Nat

/-- Staging ports go to the ports of the PSID. -/
def egressPorts : PortMap := { Moves := PsidConfig.Staging, image := PsidConfig.psidPort }

/-- The ports of the PSID go back to staging ports. -/
def ingressPorts : PortMap := { Moves := PsidConfig.InBlocks, image := PsidConfig.stagingPort }

/-- The arithmetic of the direction has the closed form on every configuration
of `try_new`. No image is zero. -/
structure Direction.Computes (dir : Direction) (ports : PortMap) : Prop where
  moves : ∀ {cfg value}, cfg.Coherent → ports.Moves cfg value →
    ∃ new, dir.translate cfg value = some (some new) ∧ new.toNat = ports.image cfg value ∧ new ≠ 0
  passes : ∀ {cfg value}, cfg.Coherent → ¬ ports.Moves cfg value →
    dir.translate cfg value = some none
  keeps : ∀ {cfg value}, cfg.Coherent → ports.Moves cfg value →
    (ports.image cfg value = value.toNat ↔ cfg.Keeps value)

theorem first_row_pos (cfg : PsidConfig) : 0 < cfg.psids * cfg.blockSize :=
  Nat.mul_pos cfg.psids_pos cfg.blockSize_pos

theorem ne_zero_of_first_row {cfg : PsidConfig} {new : U16}
    (h : cfg.psids * cfg.blockSize ≤ new.toNat) : new ≠ 0 := by
  have hPos := first_row_pos cfg
  rintro rfl
  exact absurd h (Nat.not_le.mpr hPos)

/-- `egress_psid_val` is total and computes the spread port within the staging range. -/
theorem egress_computes : egress.Computes egressPorts := by
  refine ⟨?_, fun _ hOutside => PsidConfig.egressPsidVal_outside hOutside, ?_⟩
  · intro cfg value h hMoves
    obtain ⟨new, hNew, hNat⟩ := h.egressPsidVal_staging hMoves
    refine ⟨new, hNew, hNat.trans (h.psidPort_eq value).symm, ?_⟩
    apply ne_zero_of_first_row
    rw [hNat]
    exact Radix.le_spread _ _ _ _
  · intro cfg value h hMoves
    exact h.psidPort_eq_self_iff hMoves

/-- `ingress_staging_val` is total and computes the gathered port within the blocks. -/
theorem ingress_computes : ingress.Computes ingressPorts := by
  refine ⟨?_, fun h hOutside => h.ingressStagingVal_outside hOutside, ?_⟩
  · intro cfg value h hMoves
    obtain ⟨new, hNew, hNat⟩ := h.ingressStagingVal_inBlocks hMoves
    refine ⟨new, hNew, hNat.trans (h.stagingPort_eq value).symm, ?_⟩
    apply ne_zero_of_first_row
    rw [hNat]
    exact (Radix.gather_mem cfg.blockSize_pos hMoves).1
  · intro cfg value h hMoves
    exact h.stagingPort_eq_self_iff hMoves

/-- There is a value to translate: the configuration has offset bits, the packet
carries the field at its place, and the loaded value is one that moves. -/
structure PortMap.Applies (ports : PortMap) (dir : Direction) (configMap : Option PsidConfig)
    (pkt : Packet) (cfg : PsidConfig) (field : Nat) (value : U16) : Prop where
  config : configMap = some cfg
  offset : cfg.offset ≠ 0
  carries : dir.Carries pkt field
  loaded : pkt.native16 field = some value
  moves : ports.Moves cfg value

section Rewriting

variable {dir : Direction} {ports : PortMap} {configMap : Option PsidConfig} {pkt : Packet}
  {cfg : PsidConfig} {field : Nat} {value : U16}

/-- Only a packet with a protocol byte carries a field. -/
theorem long_of_carries (h : dir.Carries pkt field) : ¬ pkt.length ≤ ipv4ProtoOffset := by
  intro hShort
  have hProto : pkt.proto = 0 := by
    have hByte : pkt[ipv4ProtoOffset]? = none := List.getElem?_eq_none hShort
    exact congrArg (·.getD 0) hByte
  unfold Direction.Carries at h
  rw [hProto] at h
  rcases h with ⟨hPort | hPort, -⟩ | ⟨hIcmp, -⟩
  · exact absurd hPort (by decide)
  · exact absurd hPort (by decide)
  · exact absurd hIcmp (by decide)

/-- The packet and the configuration determine what applies. -/
theorem PortMap.Applies.unique {cfg' : PsidConfig} {field' : Nat} {value' : U16}
    (h : ports.Applies dir configMap pkt cfg field value)
    (h' : ports.Applies dir configMap pkt cfg' field' value') :
    cfg' = cfg ∧ field' = field ∧ value' = value := by
  have hField : field' = field := by
    rcases h.carries with ⟨hPort, rfl⟩ | ⟨hIcmp, -, rfl⟩
    · rcases h'.carries with ⟨-, rfl⟩ | ⟨hOther, -⟩
      · rfl
      · rw [hOther] at hPort
        exact absurd hPort (by decide)
    · rcases h'.carries with ⟨hOther, -⟩ | ⟨-, -, rfl⟩
      · rw [hIcmp] at hOther
        exact absurd hOther (by decide)
      · rfl
  have hLoaded := h'.loaded
  rw [hField, h.loaded] at hLoaded
  exact ⟨Option.some.inj (h'.config.symm.trans h.config), hField, (Option.some.inj hLoaded).symm⟩

/-- Where the map applies, the program writes the image of the value that it loads. -/
theorem PortMap.Applies.rewrite (hComputes : dir.Computes ports) (hCoherent : cfg.Coherent)
    (h : ports.Applies dir configMap pkt cfg field value) :
    ∃ new, dir.rewrite configMap pkt =
        some ⟨field, value, new, pkt.csumOffset, pkt.csumFlags⟩ ∧
      new.toNat = ports.image cfg value ∧ new ≠ 0 := by
  obtain ⟨new, hTranslate, hNew⟩ := hComputes.moves hCoherent h.moves
  obtain ⟨csumOffset, isIcmp, hFound⟩ := located_of_carries h.carries h.loaded
  obtain ⟨-, hCsum, hFlags, -⟩ := located_spec hFound
  have hRewrite := rewrite_of_located dir h.offset (long_of_carries h.carries)
  rw [hFound, Option.bind_some, hTranslate] at hRewrite
  refine ⟨new, ?_, hNew⟩
  rw [h.config, hRewrite, ← hCsum, ← hFlags]

/-- Without such a value the packet is not rewritten. -/
theorem rewrite_eq_none (hComputes : dir.Computes ports)
    (hConfig : ∀ cfg, configMap = some cfg → cfg.offset = 0 ∨ cfg.Coherent)
    (h : ∀ cfg field value, ¬ ports.Applies dir configMap pkt cfg field value) :
    dir.rewrite configMap pkt = none := by
  cases hRewrite : dir.rewrite configMap pkt with
  | none => rfl
  | some rewrite =>
      have hFrom := rewrite_from hRewrite
      obtain ⟨cfg, hCfg, hOffset, hTranslate⟩ := hFrom.new
      have hMoves : ports.Moves cfg rewrite.old := by
        by_contra hPasses
        have hNone := hComputes.passes ((hConfig cfg hCfg).resolve_left hOffset) hPasses
        cases hTranslate.symm.trans hNone
      exact absurd ⟨hCfg, hOffset, hFrom.carries, hFrom.old, hMoves⟩ (h cfg _ _)

end Rewriting

end Mapecd
