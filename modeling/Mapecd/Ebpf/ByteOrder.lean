import Mapecd.Ebpf.Rewriting

/-! What the two programs do to a port on the wire. Both compare and compute
with the byte-swapped port, so the result is the wanted one for every packet
exactly when the translation changes no port at all. -/
namespace Mapecd

open Effects

/-- An unfragmented IPv4 header: version 4, at least five words, neither
`MF` nor a fragment offset. -/
structure Packet.Unfragmented (pkt : Packet) : Prop where
  version : (pkt[0]?.getD 0) >>> 4 = 4
  header : 20 ≤ pkt.l4Offset
  fragmentHigh : pkt[6]?.getD 0 &&& 0x3f = 0
  fragmentLow : pkt[7]?.getD 0 = 0

section Run

variable {l4CsumReplace : L4CsumReplace} {dir : Direction} {cfg : PsidConfig} {pkt : Packet}
  {field : Nat} {value : U16}

/-- On the wire the program replaces a port by the swapped translation of the
swapped port. -/
theorem tcProgram_wire (hFramed : l4CsumReplace.Framed) (hPort : dir.portOffset ≤ 2)
    (hOffset : cfg.offset ≠ 0) (hHeader : 20 ≤ pkt.l4Offset) (hCarries : dir.Carries pkt field)
    (hWire : pkt.wire16 field = some value) {result : Option U16}
    (hTranslate : dir.translate cfg (swapBytes value) = some result) :
    ∃ pkt', tcProgram l4CsumReplace dir (some cfg) pkt = .ok tcActOk pkt' ∧
      pkt'.wire16 field = some (swapBytes (result.getD (swapBytes value))) := by
  have hNative := Packet.wire16_eq_some_iff.mp hWire
  obtain ⟨csumOffset, isIcmp, hFound⟩ := located_of_carries hCarries hNative
  have hLong : ¬ pkt.length ≤ ipv4ProtoOffset := by
    have hField : 20 ≤ field := by
      rcases hCarries with ⟨-, rfl⟩ | ⟨-, -, rfl⟩ <;> omega
    have hLength := Packet.lt_of_native16 hNative
    unfold ipv4ProtoOffset
    omega
  have hRewrite := rewrite_of_located dir hOffset hLong
  rw [hFound, Option.bind_some, hTranslate] at hRewrite
  have hRun : wp (tcProgram l4CsumReplace dir (some cfg)) (fun act pkt' => act = tcActOk ∧
      pkt' = dir.output l4CsumReplace (some cfg) pkt) (fun _ _ => False) pkt := by
    apply wp_mono (wp_tcProgram (some cfg))
    · intro act pkt' h
      exact h
    · rintro failure pkt' ⟨⟨other, found, hCfg, hLocated, hOverflow⟩, -⟩
      cases hCfg
      cases hFound.symm.trans hLocated
      cases hTranslate.symm.trans hOverflow
  obtain ⟨act, pkt', hOk, rfl, rfl⟩ := exists_ok_of_wp hRun
  refine ⟨_, hOk, ?_⟩
  cases result with
  | none =>
      rw [output_of_rewrite_none hRewrite, Option.getD_none, swapBytes_swapBytes]
      exact hWire
  | some new =>
      have hWritten := native16_apply hFramed hPort (rewrite_from hRewrite)
      rw [Direction.output, hRewrite, Packet.wire16_eq_some_iff, swapBytes_swapBytes]
      exact hWritten

end Run

namespace PsidConfig

/-- `R * 2^(16-a) + psid * 2^(16-a-k) + j` for the row R and the index j of a
staging port. -/
def psidPort (cfg : PsidConfig) (s : U16) : Nat :=
  ((s.toNat - cfg.stagingMin.toNat) / cfg.blockSize + 1) * 2 ^ (16 - cfg.offset.toNat) +
    cfg.psid.toNat * cfg.blockSize + (s.toNat - cfg.stagingMin.toNat) % cfg.blockSize

variable {cfg : PsidConfig}

theorem Coherent.psidPort_eq (h : cfg.Coherent) (s : U16) :
    cfg.psidPort s = Radix.spread cfg.psids cfg.blockSize cfg.psid.toNat s.toNat := by
  rw [psidPort, Radix.spread, Radix.join, h.stagingMin, ← h.row_width]
  ring

/-- The translation is the identity on the staging range. -/
def Trivial (cfg : PsidConfig) : Prop := cfg.length = 0 ∨ (cfg.offset = 1 ∧ cfg.psid = 0)

/-- Where the PSID takes no room in front of the port, spreading does nothing. -/
theorem Coherent.spread_of_trivial (h : cfg.Coherent) (hTrivial : cfg.Trivial) {s : U16}
    (hs : cfg.Staging s) :
    Radix.spread cfg.psids cfg.blockSize cfg.psid.toNat s.toNat = s.toNat := by
  have hCompact := (h.staging_iff s).mp hs
  rw [Radix.spread_eq_self_iff h.psid_lt cfg.blockSize_pos hCompact.1]
  rcases hTrivial with hLength | ⟨hOffset, hPsid⟩
  · left
    rw [psids, hLength]
    rfl
  · right
    have hUpper := hCompact.2
    have hOneRow : cfg.rows = 1 := by rw [rows, hOffset]; rfl
    rw [hOneRow, Nat.one_mul] at hUpper
    refine ⟨Nat.div_eq_of_lt ?_, by rw [hPsid]; rfl⟩
    have := cfg.blockSize_pos
    omega

/-- In the trivial configurations both translations are the identity, so the byte order
cannot matter. -/
theorem Coherent.egressPort_of_trivial (h : cfg.Coherent) (hTrivial : cfg.Trivial) (port : U16) :
    egressPort cfg port = some port := by
  by_cases hs : cfg.Staging port
  · obtain ⟨p, hp, hNat⟩ := h.egressPort_staging hs
    rw [h.spread_of_trivial hTrivial hs] at hNat
    rw [hp, BitVec.eq_of_toNat_eq hNat]
  · exact h.egressPort_outside hs

theorem Coherent.ingressPort_of_trivial (h : cfg.Coherent) (hTrivial : cfg.Trivial) (port : U16) :
    ingressPort cfg port = some port := by
  by_cases hp : cfg.InBlocks port
  · obtain ⟨s, hs, -, hBack⟩ := h.egress_ingress hp
    rw [h.egressPort_of_trivial hTrivial] at hBack
    rw [hs, Option.some.inj hBack]
  · exact h.ingressPort_outside hp

/-- A power of two below `2 ^ 16` has all its bits in one of the two bytes. -/
theorem pow_one_byte (n : Nat) : 2 ^ n ≤ 128 ∨ (256 ≤ 2 ^ n ∧ 2 ^ n % 256 = 0) := by
  rcases Nat.lt_or_ge n 8 with hn | hn
  · exact Or.inl (Nat.pow_le_pow_right (n := 2) Nat.two_pos (Nat.le_of_lt_succ hn))
  · right
    have hSplit : 2 ^ n = 2 ^ (n - 8) * 256 := by
      rw [show (256 : Nat) = 2 ^ 8 from rfl, ← pow_add, Nat.sub_add_cancel hn]
    have hPos := Nat.two_pow_pos (n - 8)
    rw [hSplit]
    exact ⟨by omega, Nat.mul_mod_left _ _⟩

/-- Exchange of the two bytes of a number below `2 ^ 16`. -/
def swapNat (n : Nat) : Nat := n % 256 * 256 + n / 256

section Rows

variable {K M q v : Nat}

theorem swapNat_of_lt {n : Nat} (h : n < 256) : swapNat n = 256 * n := by
  unfold swapNat
  omega

theorem eq_of_swapNat_lt {n : Nat} (h : swapNat n < 256) : n = 256 * swapNat n := by
  unfold swapNat at h ⊢
  omega

/-- Row one with a nonzero middle digit: the swapped translation of the
swapped port is another port. -/
theorem swapNat_row_one (hM : 0 < M) (hqPos : 0 < q) (hq : q < K)
    (hByte : K * M ≤ 128 ∨ (256 ≤ K * M ∧ K * M % 256 = 0)) (hLower : K * M ≤ v)
    (hv : v = swapNat (K * M)) : swapNat (Radix.spread K M q v) ≠ (K + q) * M := by
  rcases hByte with hLow | ⟨hHigh, hMod⟩
  · intro hSwap
    have hRow : v = K * M + (255 * K) * M := by
      rw [hv, swapNat_of_lt (by omega), Nat.mul_assoc]
      omega
    have hTarget : (K + q) * M < 2 * (K * M) := by
      rw [← Nat.mul_assoc]
      exact Nat.mul_lt_mul_of_pos_right (by omega) hM
    have hSpread := eq_of_swapNat_lt (hSwap.trans_lt (by omega))
    rw [hSwap, hRow, Radix.spread_row hM, ← Nat.mul_assoc] at hSpread
    have hRows := Nat.eq_of_mul_eq_mul_right hM hSpread
    have hSquare : (255 * K + 1) * K = 255 * (K * K) + K := by ring
    have hGrow : 2 * K ≤ K * K := Nat.mul_le_mul_right K (by omega)
    omega
  · unfold swapNat at hv
    omega

theorem swapNat_ne_double {n p : Nat} (hHigh : 128 ≤ n) (hMod : 2 * n % 256 = 0) (hLower : n ≤ p)
    (hWide : p < 2 ^ 16) : swapNat p ≠ 2 * n := by
  unfold swapNat
  intro hSwap
  have hDigit : p / 256 = 0 := by
    have hSecond : p / 256 < 256 := by omega
    rw [← hSwap, Nat.mul_add_mod', Nat.mod_eq_of_lt hSecond] at hMod
    exact hMod
  omega

/-- The same for row two and the middle digit zero. -/
theorem swapNat_row_two (hM : 0 < M) (hK : 2 ≤ K)
    (hByte : 2 * (K * M) ≤ 128 ∨ (256 ≤ 2 * (K * M) ∧ 2 * (K * M) % 256 = 0))
    (hv : v = swapNat (K * M + M)) (hWide : Radix.spread K M 0 v < 2 ^ 16) :
    swapNat (Radix.spread K M 0 v) ≠ 2 * (K * M) := by
  rcases hByte with hLow | ⟨hHigh, hMod⟩
  · intro hSwap
    have hGrow : 2 * M ≤ K * M := Nat.mul_le_mul_right M hK
    have hRow : v = K * M + (255 * K + 256) * M := by
      rw [hv, swapNat_of_lt (by omega), Nat.add_mul, Nat.mul_assoc]
      omega
    have hSpread := eq_of_swapNat_lt (hSwap.trans_lt (by omega))
    rw [hSwap, hRow, Radix.spread_row hM, ← Nat.mul_assoc, ← Nat.mul_assoc] at hSpread
    have hRows := Nat.eq_of_mul_eq_mul_right hM hSpread
    have := Nat.eq_of_mul_eq_mul_right (by omega : 0 < K) ((Nat.add_zero _).symm.trans hRows)
    omega
  · exact swapNat_ne_double (by omega) hMod (Radix.le_spread K M 0 v) hWide

end Rows

/-- A staging port whose translation is neither itself nor the swapped
translation of the swapped port. -/
def Misread (cfg : PsidConfig) (s : U16) : Prop :=
  cfg.Staging s ∧ cfg.psidPort s ≠ s.toNat ∧
    (cfg.Staging (swapBytes s) → ∀ p : U16, p.toNat = cfg.psidPort (swapBytes s) →
      (swapBytes p).toNat ≠ cfg.psidPort s)

/-- The first port of row `t + 1` is misread if two numbers of rows differ and
the swapped port does not lead back. -/
theorem Coherent.misread_of_row (h : cfg.Coherent) {t : Nat} (ht : t < cfg.rows)
    (hMoved : (t + 1) * cfg.psids + cfg.psid.toNat ≠ cfg.psids + t)
    (hSwapped : ∀ v, cfg.psids * cfg.blockSize ≤ v →
      v = swapNat (cfg.psids * cfg.blockSize + t * cfg.blockSize) →
      Radix.spread cfg.psids cfg.blockSize cfg.psid.toNat v < 2 ^ 16 →
      swapNat (Radix.spread cfg.psids cfg.blockSize cfg.psid.toNat v) ≠
        ((t + 1) * cfg.psids + cfg.psid.toNat) * cfg.blockSize) :
    ∃ s, cfg.Misread s := by
  have hBlock : t * cfg.blockSize < cfg.rows * cfg.blockSize :=
    Nat.mul_lt_mul_of_pos_right ht cfg.blockSize_pos
  have hMax := h.stagingMax
  have hMaxLt := cfg.stagingMax.isLt
  have hNat : (BitVec.ofNat 16 (cfg.psids * cfg.blockSize + t * cfg.blockSize)).toNat =
      cfg.psids * cfg.blockSize + t * cfg.blockSize := Nat.mod_eq_of_lt (by omega)
  refine ⟨BitVec.ofNat 16 (cfg.psids * cfg.blockSize + t * cfg.blockSize), ?_, ?_, ?_⟩
  · rw [h.staging_iff, hNat]
    exact ⟨Nat.le_add_right _ _, Nat.add_lt_add_left hBlock _⟩
  · rw [h.psidPort_eq, hNat, Radix.spread_row cfg.blockSize_pos, ← Nat.add_mul]
    exact fun hSame => hMoved (Nat.eq_of_mul_eq_mul_right cfg.blockSize_pos hSame)
  · intro hSwap p hp
    have hLower := ((h.staging_iff _).mp hSwap).1
    rw [h.psidPort_eq, toNat_swapBytes, hNat] at hp
    rw [toNat_swapBytes, hNat] at hLower
    rw [h.psidPort_eq, toNat_swapBytes, hp, hNat, Radix.spread_row cfg.blockSize_pos]
    exact hSwapped _ hLower rfl (hp ▸ p.isLt)

/-- Every translation that moves a port has a misread port: the first port of
row one if the PSID is nonzero, else the first port of row two. -/
theorem Coherent.exists_misread (h : cfg.Coherent) (hTrivial : ¬ cfg.Trivial) :
    ∃ s, cfg.Misread s := by
  have hPos := h.offset_pos
  have hLength : cfg.length.toNat ≠ 0 := fun hZero =>
    hTrivial (Or.inl (BitVec.eq_of_toNat_eq hZero))
  have hPsids : 2 ^ 1 ≤ cfg.psids := Nat.pow_le_pow_right Nat.two_pos (by omega)
  by_cases hPsid : cfg.psid.toNat = 0
  · have hOffset : 2 ≤ cfg.offset.toNat := by
      have hNotOne : cfg.offset.toNat ≠ 1 := fun hOne =>
        hTrivial (Or.inr ⟨BitVec.eq_of_toNat_eq hOne, BitVec.eq_of_toNat_eq hPsid⟩)
      omega
    have hFour : 2 ^ 2 ≤ 2 ^ cfg.offset.toNat := Nat.pow_le_pow_right Nat.two_pos hOffset
    have hByte := pow_one_byte (16 - cfg.offset.toNat + 1)
    rw [pow_succ, ← h.row_width, Nat.mul_comm _ 2] at hByte
    apply h.misread_of_row (t := 1)
    · unfold rows
      omega
    · omega
    · intro v hLower hv hWide
      rw [Nat.one_mul] at hv
      rw [hPsid] at hWide ⊢
      rw [Nat.add_zero, Nat.mul_assoc]
      exact swapNat_row_two cfg.blockSize_pos hPsids hByte hv hWide
  · have hByte := pow_one_byte (16 - cfg.offset.toNat)
    rw [← h.row_width] at hByte
    apply h.misread_of_row (t := 0)
    · exact h.rows_pos
    · omega
    · intro v hLower hv _
      rw [Nat.zero_mul, Nat.add_zero] at hv
      rw [Nat.zero_add, Nat.one_mul]
      exact swapNat_row_one cfg.blockSize_pos (Nat.pos_of_ne_zero hPsid) h.psid_lt hByte hLower hv

end PsidConfig

section Correctness

variable (l4CsumReplace : L4CsumReplace) (cfg : PsidConfig)

/-- Egress turns every staging port on the wire into the port of its row and index. -/
def EgressCorrect : Prop :=
  ∀ (pkt : Packet) (field : Nat) (s : U16), pkt.Unfragmented → egress.Carries pkt field →
    pkt.wire16 field = some s → cfg.Staging s →
      ∃ pkt' p, tcEgress l4CsumReplace (some cfg) pkt = .ok tcActOk pkt' ∧
        pkt'.wire16 field = some p ∧ p.toNat = cfg.psidPort s

/-- Ingress turns the port of a row and an index back into the staging port. -/
def IngressCorrect : Prop :=
  ∀ (pkt : Packet) (field : Nat) (p s : U16), pkt.Unfragmented → ingress.Carries pkt field →
    pkt.wire16 field = some p → cfg.Staging s → p.toNat = cfg.psidPort s →
      ∃ pkt', tcIngress l4CsumReplace (some cfg) pkt = .ok tcActOk pkt' ∧
        pkt'.wire16 field = some s

variable {l4CsumReplace cfg} {pkt : Packet} {field : Nat} {value out : U16}

/-- Egress on the wire: swap, translate, swap. -/
theorem tcEgress_wire (hFramed : l4CsumReplace.Framed) (hOffset : cfg.offset ≠ 0)
    (hPkt : pkt.Unfragmented) (hCarries : egress.Carries pkt field)
    (hWire : pkt.wire16 field = some value) (hPort : egressPort cfg (swapBytes value) = some out) :
    ∃ pkt', tcEgress l4CsumReplace (some cfg) pkt = .ok tcActOk pkt' ∧
      pkt'.wire16 field = some (swapBytes out) := by
  rw [egressPort, if_neg hOffset] at hPort
  obtain ⟨result, hResult, rfl⟩ := Option.map_eq_some_iff.mp hPort
  exact tcProgram_wire hFramed (Nat.zero_le 2) hOffset hPkt.header hCarries hWire hResult

/-- Ingress sees the port with its bytes exchanged, and so does the receiver of what it
writes. -/
theorem tcIngress_wire (hFramed : l4CsumReplace.Framed) (hOffset : cfg.offset ≠ 0)
    (hPkt : pkt.Unfragmented) (hCarries : ingress.Carries pkt field)
    (hWire : pkt.wire16 field = some value) (hPort : ingressPort cfg (swapBytes value) = some out) :
    ∃ pkt', tcIngress l4CsumReplace (some cfg) pkt = .ok tcActOk pkt' ∧
      pkt'.wire16 field = some (swapBytes out) := by
  rw [ingressPort, if_neg hOffset] at hPort
  obtain ⟨result, hResult, rfl⟩ := Option.map_eq_some_iff.mp hPort
  exact tcProgram_wire hFramed (Nat.le_refl 2) hOffset hPkt.header hCarries hWire hResult

/-- The programs meet the specification on the wire where they have nothing to do. -/
theorem egressCorrect_of_trivial (hFramed : l4CsumReplace.Framed) (h : cfg.Coherent)
    (hTrivial : cfg.Trivial) : EgressCorrect l4CsumReplace cfg := by
  intro pkt field s hPkt hCarries hWire hs
  obtain ⟨pkt', hRun, hResult⟩ := tcEgress_wire hFramed h.offset_ne_zero hPkt hCarries hWire
    (h.egressPort_of_trivial hTrivial (swapBytes s))
  rw [swapBytes_swapBytes] at hResult
  exact ⟨pkt', s, hRun, hResult, by rw [h.psidPort_eq, h.spread_of_trivial hTrivial hs]⟩

theorem ingressCorrect_of_trivial (hFramed : l4CsumReplace.Framed) (h : cfg.Coherent)
    (hTrivial : cfg.Trivial) : IngressCorrect l4CsumReplace cfg := by
  intro pkt field p s hPkt hCarries hWire hs hPort
  obtain ⟨pkt', hRun, hResult⟩ := tcIngress_wire hFramed h.offset_ne_zero hPkt hCarries hWire
    (h.ingressPort_of_trivial hTrivial (swapBytes p))
  rw [h.psidPort_eq, h.spread_of_trivial hTrivial hs] at hPort
  rw [swapBytes_swapBytes, BitVec.eq_of_toNat_eq hPort] at hResult
  exact ⟨pkt', hRun, hResult⟩

/-- A TCP segment without data: 20 bytes of IPv4 header, then 20 of TCP header. -/
def tcpPacket (srcPort dstPort : U16) : Packet :=
  [0x45, 0, 0, 40, 0, 0, 0, 0, 64, 6, 0, 0, 192, 0, 2, 18, 198, 51, 100, 7,
    highByte srcPort, lowByte srcPort, highByte dstPort, lowByte dstPort,
    0, 0, 0, 1, 0, 0, 0, 0, 0x50, 2, 0xfa, 0xf0, 0, 0, 0, 0]

theorem tcpPacket_l4Offset (srcPort dstPort : U16) : (tcpPacket srcPort dstPort).l4Offset = 20 := by
  change ((0x45 : U8) &&& 0x0f).toNat * 4 = 20
  decide

theorem tcpPacket_unfragmented (srcPort dstPort : U16) : (tcpPacket srcPort dstPort).Unfragmented :=
  { version := by
      change (0x45 : U8) >>> 4 = 4
      decide
    header := (tcpPacket_l4Offset srcPort dstPort).ge
    fragmentHigh := BitVec.zero_and
    fragmentLow := rfl }

theorem tcpPacket_carries (srcPort dstPort : U16) : egress.Carries (tcpPacket srcPort dstPort) 20 :=
  Or.inl ⟨Or.inl rfl, by rw [tcpPacket_l4Offset]; rfl⟩

theorem tcpPacket_wire16 (srcPort dstPort : U16) :
    (tcpPacket srcPort dstPort).wire16 20 = some srcPort := by
  change some (highByte srcPort ++ lowByte srcPort) = some srcPort
  rw [← swapBytes_append (lowByte srcPort) (highByte srcPort)]
  exact congrArg some (swapBytes_swapBytes srcPort)

/-- A misread port breaks the segment that carries it. -/
theorem not_egressCorrect_of_misread (hFramed : l4CsumReplace.Framed) (h : cfg.Coherent) {s : U16}
    (hs : cfg.Misread s) : ¬ EgressCorrect l4CsumReplace cfg := by
  intro hCorrect
  obtain ⟨hStaging, hMoved, hSwapped⟩ := hs
  have hPkt := tcpPacket_unfragmented s 443
  have hCarries := tcpPacket_carries s 443
  have hWire := tcpPacket_wire16 s 443
  obtain ⟨pkt', p, hRun, hResult, hPort⟩ := hCorrect _ _ s hPkt hCarries hWire hStaging
  by_cases hSwap : cfg.Staging (swapBytes s)
  · obtain ⟨out, hOut, hNat⟩ := h.egressPort_staging hSwap
    obtain ⟨pkt'', hRun', hResult'⟩ :=
      tcEgress_wire hFramed h.offset_ne_zero hPkt hCarries hWire hOut
    cases hRun.symm.trans hRun'
    cases hResult.symm.trans hResult'
    rw [← h.psidPort_eq] at hNat
    exact hSwapped hSwap out hNat hPort
  · obtain ⟨pkt'', hRun', hResult'⟩ :=
      tcEgress_wire hFramed h.offset_ne_zero hPkt hCarries hWire (h.egressPort_outside hSwap)
    cases hRun.symm.trans hRun'
    cases hResult.symm.trans hResult'
    rw [swapBytes_swapBytes] at hPort
    exact hMoved hPort.symm

end Correctness

/-- The wire ports are the wanted ones for every packet exactly for the
configurations that translate nothing: no PSID bits, or one offset bit with the
PSID zero. -/
theorem wire_translation_iff (l4CsumReplace : L4CsumReplace) (hFramed : l4CsumReplace.Framed)
    (offset length : U8) (psid : U16) (hOffset : 1 ≤ offset.toNat)
    (hFits : offset.toNat + length.toNat ≤ 16) (hPsid : psid.toNat < 2 ^ length.toNat) :
    ∃ cfg, PsidConfig.tryNew offset length psid = some (some cfg) ∧
      ((EgressCorrect l4CsumReplace cfg ∧ IngressCorrect l4CsumReplace cfg) ↔
        length = 0 ∨ (offset = 1 ∧ psid = 0)) := by
  obtain ⟨cfg, hNew, h, rfl, rfl, rfl⟩ :=
    PsidConfig.tryNew_coherent _ _ psid hOffset hFits hPsid
  refine ⟨cfg, hNew, ?_⟩
  constructor
  · intro ⟨hEgress, _⟩
    by_contra hMoves
    obtain ⟨s, hs⟩ := h.exists_misread hMoves
    exact not_egressCorrect_of_misread hFramed h hs hEgress
  · intro hTrivial
    exact ⟨egressCorrect_of_trivial hFramed h hTrivial, ingressCorrect_of_trivial hFramed h hTrivial⟩

/-- One's-complement sum of two 16-bit words. -/
def onesAdd (x y : U16) : U16 :=
  BitVec.ofNat 16 ((x.toNat + y.toNat) % 2 ^ 16 + (x.toNat + y.toNat) / 2 ^ 16)

/-- The incremental update on the bytes of the checksum field, in the order of
the loaded values. -/
def incrementalCsum : L4CsumReplace := fun offset old new _ pkt =>
  match pkt[offset]?, pkt[offset + 1]? with
  | some low, some high =>
      let sum := ~~~ onesAdd (onesAdd (~~~ (high ++ low)) (~~~ (old.setWidth 16))) (new.setWidth 16)
      some ((pkt.set offset (lowByte sum)).set (offset + 1) (highByte sum))
  | _, _ => none

/-- The helper of the examples writes at its offset only. -/
theorem incrementalCsum_framed : incrementalCsum.Framed := by
  intro offset old new flags pkt pkt' hCsum i hi hi'
  unfold incrementalCsum at hCsum
  split at hCsum
  · cases hCsum
    rw [List.getElem?_set_ne (Ne.symm hi'), List.getElem?_set_ne (Ne.symm hi)]
  · cases hCsum

theorem wire_translation_iff_trivial :
    ∃ cfg, PsidConfig.tryNew 1 4 0 = some (some cfg) ∧
      EgressCorrect incrementalCsum cfg ∧ IngressCorrect incrementalCsum cfg := by
  obtain ⟨cfg, hNew, hIff⟩ := wire_translation_iff incrementalCsum incrementalCsum_framed 1 4 0
    (by decide) (by decide) (by decide)
  exact ⟨cfg, hNew, hIff.mpr (Or.inr ⟨rfl, rfl⟩)⟩

/-- Four offset bits, eight PSID bits, PSID 5: a TCP segment from the first
staging port 4096 leaves with source port 4096 instead of 4176. -/
theorem wire_port_untranslated :
    ∃ cfg pkt', PsidConfig.tryNew 4 8 5 = some (some cfg) ∧ cfg.Staging 4096 ∧
      (tcpPacket 4096 443).Unfragmented ∧ egress.Carries (tcpPacket 4096 443) 20 ∧
      (tcpPacket 4096 443).wire16 20 = some 4096 ∧
      tcEgress incrementalCsum (some cfg) (tcpPacket 4096 443) = .ok tcActOk pkt' ∧
      pkt'.wire16 20 = some 4096 ∧ cfg.psidPort 4096 = 4176 := by
  refine ⟨⟨4, 8, 4, 0, 5, 4096, 4335⟩, tcpPacket 4096 443, by decide, ?_,
    tcpPacket_unfragmented _ _, tcpPacket_carries _ _, tcpPacket_wire16 _ _, rfl,
    tcpPacket_wire16 _ _, by decide⟩
  unfold PsidConfig.Staging
  decide

end Mapecd
