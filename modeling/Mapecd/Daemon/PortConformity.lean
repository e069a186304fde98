import Mapecd.Daemon.Frame
import Mapecd.Ebpf.PortSetAgreement
import Mathlib.Order.CompletePartialOrder

/-! Which source ports can leave the tunnel: the ports of the installed
masquerade range, translated by egress. For `a = 0` nothing is translated and
the range is every port. -/
namespace Mapecd

open Effects Checked

/-- The ports of a PSID: offset bits not all zero, PSID bits equal, not port 0. -/
def rfc7597Ports (a k psid : Nat) : Set U16 :=
  {p | (0 < a → p.toNat / 2 ^ (16 - a) ≠ 0) ∧ p.toNat / 2 ^ (16 - a - k) % 2 ^ k = psid ∧ p ≠ 0}

/-- The blocks of the programs are the ports of the RFC. -/
theorem PsidConfig.Coherent.mem_rfc7597Ports {cfg : PsidConfig} (h : cfg.Coherent) (p : U16) :
    p ∈ rfc7597Ports cfg.offset.toNat cfg.length.toNat cfg.psid.toNat ↔ cfg.InBlocks p := by
  have hPos := h.offset_pos
  rw [h.inBlocks_iff, Radix.high_eq_div, h.row_width, Radix.mid, PsidConfig.blockSize, h.blockShift]
  constructor
  · rintro ⟨hRow, hPsid, -⟩
    exact ⟨Nat.one_le_iff_ne_zero.mpr (hRow hPos), hPsid⟩
  · rintro ⟨hRow, hPsid⟩
    refine ⟨fun _ => Nat.one_le_iff_ne_zero.mp hRow, hPsid, ?_⟩
    rintro rfl
    exact absurd hRow (by simp)

/-- What the run of step 6 installs, read off its result. -/
theorem applyStep6Nftables_ok {config : Config} {params : MapeParams} {w w' : DaemonWorld}
    {ranges : List RangeInclusive} {psidConfig : Except MapEError PsidConfig}
    (hRanges : calcPortRanges params.rule.portParams params.psid = some ranges)
    (hConfig : psidConfigFromParams params = some psidConfig)
    (hRun : applyStep6Nftables config params w = .ok () w') :
    ranges ≠ [] ∧ w'.sys.nft = installedTables w.sys.nft ranges config.tunnelInterface
      params.brAddress (stagingRange psidConfig) := by
  let Installed (k : Kernel) : Prop := ranges ≠ [] ∧ k.nft = installedTables w.sys.nft ranges
    config.tunnelInterface params.brAddress (stagingRange psidConfig)
  have hWp : wp (applyStep6Nftables config params) (fun _ w' => Installed w'.sys)
      (fun _ _ => True) w := by
    apply wp_applyStep6Nftables w.isAt hRanges hConfig
    · exact fun _ _ _ => trivial
    · exact fun _ _ _ _ _ => trivial
    · intro hNonempty w₁ h₁
      rw [h₁.sys]
      exact ⟨hNonempty, rfl⟩
  have hDone := wp_ok hWp hRun
  exact hDone

/-- The source ports of masqueraded traffic behind the tunnel. -/
def emitted (config : Config) (params : MapeParams) : Set U16 :=
  {out | ∃ (w w' : DaemonWorld) (table : NftIpTable) (rule : MasqueradeRule) (port : U16)
    (cfg : PsidConfig), applyStep6Nftables config params w = .ok () w' ∧
      w'.sys.nft.ip = some table ∧ rule ∈ table.postrouting ∧
      rule.portMin ≤ port ∧ port ≤ rule.portMax ∧
      psidConfigFromParams params = some (.ok cfg) ∧ egressPort cfg port = some out}

section Emitted

variable {config : Config} {params : MapeParams} {cfg : PsidConfig} {ranges : List RangeInclusive}

/-- Without ranges nothing is installed; otherwise the range is the staging range. -/
theorem mem_emitted_iff (hRanges : calcPortRanges params.rule.portParams params.psid = some ranges)
    (hConfig : psidConfigFromParams params = some (.ok cfg)) (out : U16) :
    out ∈ emitted config params ↔
      ranges ≠ [] ∧ ∃ port, cfg.Staging port ∧ egressPort cfg port = some out := by
  constructor
  · rintro ⟨w, w', table, rule, port, cfg', hRun, hTable, hRule, hMin, hMax, hConfig', hOut⟩
    cases hConfig.symm.trans hConfig'
    obtain ⟨hNonempty, hTables⟩ := applyStep6Nftables_ok hRanges hConfig hRun
    rw [hTables] at hTable
    cases hTable
    cases List.mem_singleton.mp hRule
    exact ⟨hNonempty, port, ⟨hMin, hMax⟩, hOut⟩
  · rintro ⟨hNonempty, port, hPort, hOut⟩
    let w : DaemonWorld := initialWorld (Kernel.idle config.upstreamInterface) noFaults none
    have hWp : wp (applyStep6Nftables config params) (fun _ w' => w'.sys.nft =
        installedTables .none ranges config.tunnelInterface params.brAddress
          (cfg.stagingMin, cfg.stagingMax)) (fun _ _ => False) w := by
      apply wp_applyStep6Nftables w.isAt hRanges hConfig
      · exact fun hNil _ _ => hNonempty hNil
      · exact fun hFaults _ _ _ _ => hFaults rfl
      · intro _ w₁ h₁
        rw [h₁.sys]
        rfl
    obtain ⟨w', hRun, hTables⟩ := exists_unit_of_wp _ hWp
    exact ⟨w, w', _, _, port, cfg, hRun, by rw [hTables]; rfl, List.mem_singleton.mpr rfl,
      hPort.1, hPort.2, hConfig, hOut⟩

theorem psidConfigFromParams_some (hNew : PsidConfig.tryNew params.rule.portParams.psidOffset
    params.rule.portParams.psidLength params.psid = some (some cfg)) :
    psidConfigFromParams params = some (.ok cfg) := by
  rw [psidConfigFromParams, hNew]
  rfl

/-- Without offset bits egress lets every port of the range pass as it is. -/
theorem mem_emitted_zero (hOffset : params.rule.portParams.psidOffset = 0)
    (hFits : params.rule.portParams.psidLength.toNat ≤ 16) (out : U16) :
    out ∈ emitted config params ↔
      params.rule.portParams.psidLength.toNat ≠ 16 ∧ out ≠ 0 := by
  have hSum : params.rule.portParams.psidOffset.toNat + params.rule.portParams.psidLength.toNat =
      params.rule.portParams.psidLength.toNat := by
    rw [hOffset]
    exact Nat.zero_add _
  obtain ⟨ranges, hRanges, hNil⟩ :=
    calcPortRanges_eq_nil_iff params.rule.portParams params.psid (hSum.le.trans hFits)
  have hNew := PsidConfig.tryNew_zero params.rule.portParams.psidLength params.psid hFits
  rw [← hOffset] at hNew
  rw [mem_emitted_iff hRanges (psidConfigFromParams_some hNew), Ne, hNil, hSum]
  refine and_congr_right fun _ => ?_
  simp only [egressPort, hOffset, if_true, Option.some.injEq, exists_eq_right, PsidConfig.Staging,
    BitVec.le_def]
  constructor
  · rintro ⟨hMin, -⟩ rfl
    exact absurd hMin (by decide)
  · intro hOut
    have hPos : out.toNat ≠ 0 := fun h => hOut (BitVec.eq_of_toNat_eq h)
    exact ⟨Nat.one_le_iff_ne_zero.mpr hPos, Nat.le_of_lt_succ out.isLt⟩

/-- With offset bits the CE sends from its ports alone, and from none where the ruleset
cannot be written. -/
theorem mem_emitted_pos (hOffset : 1 ≤ params.rule.portParams.psidOffset.toNat)
    (hFits : params.rule.portParams.psidOffset.toNat + params.rule.portParams.psidLength.toNat ≤ 16)
    (hPsid : params.psid.toNat < 2 ^ params.rule.portParams.psidLength.toNat) (out : U16) :
    out ∈ emitted config params ↔
      params.rule.portParams.psidOffset.toNat + params.rule.portParams.psidLength.toNat ≠ 16 ∧
        out ∈ rfc7597Ports params.rule.portParams.psidOffset.toNat
          params.rule.portParams.psidLength.toNat params.psid.toNat := by
  obtain ⟨cfg, hNew, h, hCfgOffset, hCfgLength, hCfgPsid⟩ :=
    PsidConfig.tryNew_coherent _ _ params.psid hOffset hFits hPsid
  obtain ⟨ranges, hRanges, hNil⟩ :=
    calcPortRanges_eq_nil_iff params.rule.portParams params.psid hFits
  rw [mem_emitted_iff hRanges (psidConfigFromParams_some hNew), Ne, hNil, ← hCfgOffset,
    ← hCfgLength, ← hCfgPsid, h.mem_rfc7597Ports]
  refine and_congr_right fun _ => ⟨?_, fun hIn => ?_⟩
  · rintro ⟨port, hPort, hOut⟩
    obtain ⟨p, hp, hIn, -⟩ := h.ingress_egress hPort
    cases hOut.symm.trans hp
    exact hIn
  · obtain ⟨port, -, hPort, hOut⟩ := h.egress_ingress hIn
    exact ⟨port, hPort, hOut⟩

end Emitted

/-- Different PSIDs share no port. -/
theorem rfc7597Ports_disjoint {a k psid psid' : Nat} (h : psid' ≠ psid) :
    Disjoint (rfc7597Ports a k psid) (rfc7597Ports a k psid') := by
  rw [Set.disjoint_left]
  intro p hp hp'
  exact h (hp'.2.1.symm.trans hp.2.1)

/-- Without offset bits the ports of a PSID are all ports only if there is one PSID. -/
theorem forall_mem_rfc7597Ports_zero {k psid : Nat} (hWidth : k < 16) (hPsid : psid < 2 ^ k) :
    (∀ p : U16, p ≠ 0 → p ∈ rfc7597Ports 0 k psid) ↔ k = 0 := by
  constructor
  · intro h
    by_contra hPos
    have hTwo : 2 ^ 1 ≤ 2 ^ k := Nat.pow_le_pow_right Nat.two_pos (Nat.one_le_iff_ne_zero.mpr hPos)
    have hBlock : 2 ^ (16 - k) < 2 ^ 16 := Nat.pow_lt_pow_right Nat.one_lt_two (by omega)
    have hSmall : 1 < 2 ^ (16 - k) := Nat.one_lt_two_pow (by omega)
    let start : U16 := BitVec.ofNat 16 (2 ^ (16 - k))
    have hStart : start.toNat = 2 ^ (16 - k) := Nat.mod_eq_of_lt hBlock
    have hStartPos : start ≠ 0 := by
      intro hZero
      rw [hZero] at hStart
      exact absurd hStart (Nat.two_pow_pos _).ne
    have hFirst := (h 1 (by decide)).2.1
    have hSecond := (h start hStartPos).2.1
    rw [Nat.sub_zero, show (1 : U16).toNat = 1 from rfl, Nat.div_eq_of_lt hSmall,
      Nat.zero_mod] at hFirst
    rw [Nat.sub_zero, hStart, Nat.div_self (Nat.two_pow_pos _), Nat.mod_eq_of_lt hTwo] at hSecond
    exact absurd (hSecond.trans hFirst.symm) Nat.one_ne_zero
  · rintro rfl p hp
    rw [pow_zero, Nat.lt_one_iff] at hPsid
    exact ⟨fun h => absurd h (Nat.lt_irrefl 0), by rw [pow_zero, Nat.mod_one, hPsid], hp⟩

/-- The emitted ports conform to the PSID, and are apart from those of another
CE with the same parameters, unless `a = 0` and there is more than one PSID. For
`a + k = 16` nothing is installed. -/
theorem emitted_conforms_iff (config : Config) (params : MapeParams)
    (hFits : params.rule.portParams.psidOffset.toNat + params.rule.portParams.psidLength.toNat ≤ 16)
    (hPsid : params.psid.toNat < 2 ^ params.rule.portParams.psidLength.toNat) :
    (emitted config params ⊆ rfc7597Ports params.rule.portParams.psidOffset.toNat
        params.rule.portParams.psidLength.toNat params.psid.toNat ∧
      ∀ (config' : Config) (params' : MapeParams),
        params'.rule.portParams = params.rule.portParams →
        params'.psid.toNat < 2 ^ params.rule.portParams.psidLength.toNat →
        params'.psid ≠ params.psid → Disjoint (emitted config params) (emitted config' params')) ↔
      1 ≤ params.rule.portParams.psidOffset.toNat ∨
        params.rule.portParams.psidLength.toNat = 0 ∨ params.rule.portParams.psidLength.toNat = 16 := by
  have hApart (h : ∀ (c : Config) (p : MapeParams), p.rule.portParams = params.rule.portParams →
      p.psid.toNat < 2 ^ params.rule.portParams.psidLength.toNat →
      emitted c p ⊆ rfc7597Ports params.rule.portParams.psidOffset.toNat
        params.rule.portParams.psidLength.toNat p.psid.toNat)
      (config' : Config) (params' : MapeParams)
      (hParams : params'.rule.portParams = params.rule.portParams)
      (hPsid' : params'.psid.toNat < 2 ^ params.rule.portParams.psidLength.toNat)
      (hNe : params'.psid ≠ params.psid) :
      Disjoint (emitted config params) (emitted config' params') :=
    (rfc7597Ports_disjoint fun hEq => hNe (BitVec.eq_of_toNat_eq hEq)).mono
      (h config params rfl hPsid) (h config' params' hParams hPsid')
  rcases Nat.eq_zero_or_pos params.rule.portParams.psidOffset.toNat with hZero | hPos
  · have hOffset : params.rule.portParams.psidOffset = 0 := BitVec.eq_of_toNat_eq hZero
    rw [hZero, Nat.zero_add] at hFits
    constructor
    · rintro ⟨hConform, -⟩
      refine Or.inr (Or.symm (or_iff_not_imp_left.mpr fun hFull => ?_))
      refine (forall_mem_rfc7597Ports_zero (lt_of_le_of_ne hFits hFull) hPsid).mp fun p hp => ?_
      have hIn := hConform ((mem_emitted_zero hOffset hFits p).mpr ⟨hFull, hp⟩)
      rwa [hZero] at hIn
    · intro hWhen
      have hConform (c : Config) (p : MapeParams) (hp : p.rule.portParams = params.rule.portParams)
          (hPsid' : p.psid.toNat < 2 ^ params.rule.portParams.psidLength.toNat) :
          emitted c p ⊆ rfc7597Ports params.rule.portParams.psidOffset.toNat
            params.rule.portParams.psidLength.toNat p.psid.toNat := by
        intro out hOut
        rw [← hp] at hOffset hFits
        obtain ⟨hFull, hNonzero⟩ := (mem_emitted_zero hOffset hFits out).mp hOut
        rw [hp] at hFull hFits
        have hLength : params.rule.portParams.psidLength.toNat = 0 :=
          hWhen.resolve_left (by omega) |>.resolve_right hFull
        rw [hZero]
        exact (forall_mem_rfc7597Ports_zero (lt_of_le_of_ne hFits hFull) hPsid').mpr hLength
          out hNonzero
      exact ⟨hConform config params rfl hPsid, hApart hConform⟩
  · refine iff_of_true ?_ (Or.inl hPos)
    have hConform (c : Config) (p : MapeParams) (hp : p.rule.portParams = params.rule.portParams)
        (hPsid' : p.psid.toNat < 2 ^ params.rule.portParams.psidLength.toNat) :
        emitted c p ⊆ rfc7597Ports params.rule.portParams.psidOffset.toNat
          params.rule.portParams.psidLength.toNat p.psid.toNat := by
      intro out hOut
      rw [← hp] at hPos hFits hPsid' ⊢
      exact ((mem_emitted_pos hPos hFits hPsid' out).mp hOut).2
    exact ⟨hConform config params rfl hPsid, hApart hConform⟩

/-- Four offset bits and eight PSID bits, the usual parameters. -/
theorem emitted_conforms_usual :
    emitted Config.contrib (makeParams 1 1 2 5 ⟨4, 8⟩) ⊆ rfc7597Ports 4 8 5 :=
  ((emitted_conforms_iff Config.contrib (makeParams 1 1 2 5 ⟨4, 8⟩) (by decide) (by decide)).mpr
    (Or.inl (by decide))).1

/-- No offset bits, eight PSID bits, PSID 5: port 1 leaves the tunnel, and it
belongs to PSID 0. -/
theorem emitted_foreign_port :
    (1 : U16) ∈ emitted Config.contrib (makeParams 1 1 2 5 ⟨0, 8⟩) ∧ (1 : U16) ∉ rfc7597Ports 0 8 5 ∧
      (1 : U16) ∈ rfc7597Ports 0 8 0 ∧ (1 : U16) ∈ emitted Config.contrib (makeParams 1 1 2 0 ⟨0, 8⟩) := by
  have hOne : (1 : U16) ≠ 0 := by decide
  refine ⟨(mem_emitted_zero rfl (by decide) 1).mpr ⟨by decide, hOne⟩, ?_, ?_,
    (mem_emitted_zero rfl (by decide) 1).mpr ⟨by decide, hOne⟩⟩
  · intro hIn
    exact absurd hIn.2.1 (by decide)
  · exact ⟨fun h => absurd h (Nat.lt_irrefl 0), by decide, hOne⟩

end Mapecd
