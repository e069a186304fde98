import Mapecd.Ebpf.Packet

/-! What a program does to a packet, as one case distinction on the packet: it
leaves it alone, or it rewrites one field and the checksum. -/
namespace Mapecd

open Checked Effects

namespace Packet

/-- The number that the target loads: first byte low. -/
def native16 (pkt : Packet) (offset : Nat) : Option U16 :=
  match pkt[offset]?, pkt[offset + 1]? with
  | some low, some high => some (high ++ low)
  | _, _ => none

def put16 (pkt : Packet) (offset : Nat) (value : U16) : Packet :=
  (pkt.set offset (lowByte value)).set (offset + 1) (highByte value)

/-- The checksum field of the protocol. -/
def csumOffset (pkt : Packet) : Nat :=
  if pkt.proto = ipprotoTcp then pkt.l4Offset + 16
  else if pkt.proto = ipprotoUdp then pkt.l4Offset + 6
  else pkt.l4Offset + icmpCsumOffset

/-- The size of the checksum, and whether it covers a pseudo header. -/
def csumFlags (pkt : Packet) : U64 := if pkt.proto = ipprotoIcmp then 2 else 2 ||| bpfFPseudoHdr

variable {pkt : Packet} {offset : Nat} {value : U16}

/-- A load exchanges the bytes of the wire. -/
theorem native16_eq (pkt : Packet) (offset : Nat) :
    pkt.native16 offset = (pkt.wire16 offset).map swapBytes := by
  unfold native16 wire16
  cases pkt[offset]? with
  | none => rfl
  | some first =>
      cases pkt[offset + 1]? with
      | none => rfl
      | some second => exact congrArg some (swapBytes_append first second).symm

/-- Reading on the wire and loading differ by the order of the two bytes. -/
theorem wire16_eq_some_iff : pkt.wire16 offset = some value ↔
    pkt.native16 offset = some (swapBytes value) := by
  rw [native16_eq, Option.map_eq_some_iff]
  constructor
  · intro h
    exact ⟨value, h, rfl⟩
  · rintro ⟨other, h, hSame⟩
    rw [h, ← swapBytes_swapBytes value, ← hSame, swapBytes_swapBytes]

theorem lt_of_native16 (h : pkt.native16 offset = some value) : offset + 1 < pkt.length := by
  unfold native16 at h
  split at h
  · rename_i hHigh
    exact (List.getElem?_eq_some_iff.mp hHigh).1
  · cases h

@[simp] theorem length_put16 : (pkt.put16 offset value).length = pkt.length := by
  simp [put16]

theorem getElem?_put16_ne {i : Nat} (h : i ≠ offset) (h' : i ≠ offset + 1) :
    (pkt.put16 offset value)[i]? = pkt[i]? := by
  rw [put16, List.getElem?_set_ne (Ne.symm h'), List.getElem?_set_ne (Ne.symm h)]

theorem native16_congr {pkt' : Packet} (h : pkt'[offset]? = pkt[offset]?)
    (hNext : pkt'[offset + 1]? = pkt[offset + 1]?) : pkt'.native16 offset = pkt.native16 offset := by
  unfold native16
  rw [h, hNext]

theorem lowByte_append (high low : U8) : lowByte (high ++ low) = low := by
  have hLow := low.isLt
  apply BitVec.eq_of_toNat_eq
  rw [toNat_lowByte, toNat_append]
  omega

theorem highByte_append (high low : U8) : highByte (high ++ low) = high := by
  have hLow := low.isLt
  apply BitVec.eq_of_toNat_eq
  rw [toNat_highByte, toNat_append]
  omega

theorem highByte_append_lowByte (value : U16) : highByte value ++ lowByte value = value := by
  apply BitVec.eq_of_toNat_eq
  rw [toNat_append, toNat_highByte, toNat_lowByte]
  omega

/-- What is stored is loaded again. -/
theorem native16_put16 (h : offset + 1 < pkt.length) :
    (pkt.put16 offset value).native16 offset = some value := by
  have hFirst : (pkt.put16 offset value)[offset]? = some (lowByte value) := by
    rw [put16, List.getElem?_set_ne (Nat.succ_ne_self offset),
      List.getElem?_set_self (Nat.lt_of_succ_lt h)]
  have hSecond : (pkt.put16 offset value)[offset + 1]? = some (highByte value) := by
    rw [put16, List.getElem?_set_self (by rwa [List.length_set])]
  rw [native16, hFirst, hSecond, ← highByte_append_lowByte value, lowByte_append, highByte_append]

/-- Storing what is there changes nothing. -/
theorem put16_native16 (h : pkt.native16 offset = some value) : pkt.put16 offset value = pkt := by
  unfold native16 at h
  split at h
  · rename_i low high hLow hHigh
    cases h
    obtain ⟨hLowLt, hLowEq⟩ := List.getElem?_eq_some_iff.mp hLow
    obtain ⟨hHighLt, hHighEq⟩ := List.getElem?_eq_some_iff.mp hHigh
    have hFirst : pkt.set offset low = pkt := by
      rw [← hLowEq, List.set_getElem_self]
    rw [put16, lowByte_append, highByte_append, hFirst, ← hHighEq, List.set_getElem_self]
  · cases h

end Packet

/-- `field` is the offset of the port, or of the identifier of an ICMP echo. -/
def Direction.Carries (dir : Direction) (pkt : Packet) (field : Nat) : Prop :=
  ((pkt.proto = ipprotoTcp ∨ pkt.proto = ipprotoUdp) ∧ field = pkt.l4Offset + dir.portOffset) ∨
    (pkt.proto = ipprotoIcmp ∧ pkt[pkt.l4Offset + icmpTypeOffset]? = some dir.icmpType ∧
      field = pkt.l4Offset + icmpIdOffset)

/-- The checksum bytes do not meet the bytes of the field. -/
def Apart (csumOffset field : Nat) : Prop :=
  csumOffset ≠ field ∧ csumOffset + 1 ≠ field ∧ csumOffset ≠ field + 1

/-- The field that a program rewrites, its old and new value as loaded and
stored, and the arguments of the checksum helper. -/
structure Rewrite where
  field : Nat
  old : U16
  new : U16
  csumOffset : Nat
  flags : U64

/-- What a program looks up in the packet before it translates. -/
def Direction.located (dir : Direction) (pkt : Packet) : Option (U16 × Nat × Nat × Bool) :=
  if pkt.proto = ipprotoTcp ∨ pkt.proto = ipprotoUdp then
    (pkt.native16 (pkt.l4Offset + dir.portOffset)).map fun value =>
      (value, pkt.l4Offset + dir.portOffset,
        if pkt.proto = ipprotoTcp then pkt.l4Offset + 16 else pkt.l4Offset + 6, false)
  else if pkt.proto = ipprotoIcmp ∧ pkt[pkt.l4Offset + icmpTypeOffset]? = some dir.icmpType then
    (pkt.native16 (pkt.l4Offset + icmpIdOffset)).map fun value =>
      (value, pkt.l4Offset + icmpIdOffset, pkt.l4Offset + icmpCsumOffset, true)
  else
    none

/-- The rewriting of a packet, if there is one. -/
def Direction.rewrite (dir : Direction) (configMap : Option PsidConfig) (pkt : Packet) :
    Option Rewrite := do
  let cfg ← configMap
  if cfg.offset = 0 ∨ pkt.length ≤ ipv4ProtoOffset then
    none
  else
    let (old, field, csumOffset, isIcmp) ← dir.located pkt
    match dir.translate cfg old with
    | some (some new) =>
        return ⟨field, old, new, csumOffset, if isIcmp then 2 else 2 ||| bpfFPseudoHdr⟩
    | _ => none

/-- The packet with the new value, before the checksum is updated. -/
def Rewrite.stored (rewrite : Rewrite) (pkt : Packet) : Packet := pkt.put16 rewrite.field rewrite.new

/-- A failure of the helper leaves the checksum as it is. -/
def Rewrite.apply (l4CsumReplace : L4CsumReplace) (rewrite : Rewrite) (pkt : Packet) : Packet :=
  (l4CsumReplace rewrite.csumOffset (rewrite.old.setWidth 64) (rewrite.new.setWidth 64) rewrite.flags
    (rewrite.stored pkt)).getD (rewrite.stored pkt)

/-- The packet behind a program. -/
def leaving {α : Type} (program : TcM α) (pkt : Packet) : Packet :=
  match program pkt with
  | .ok _ pkt' => pkt'
  | .error _ pkt' => pkt'

/-- A packet that leaves behind every outcome is the one that leaves. -/
theorem leaving_eq_of_wp {α : Type} {program : TcM α} {pkt expected : Packet}
    (h : wp program (fun _ pkt' => pkt' = expected) (fun _ pkt' => pkt' = expected) pkt) :
    leaving program pkt = expected := by
  unfold wp at h
  unfold leaving
  cases hRun : program pkt with
  | ok a pkt' =>
      rw [hRun] at h
      exact h
  | error f pkt' =>
      rw [hRun] at h
      exact h

section Output

variable {l4CsumReplace : L4CsumReplace} {dir : Direction} {pkt : Packet} {offset : Nat}
  {stop : Failure Unit → Packet → Prop}

theorem wp_load8 {byte : U8} {post : U8 → Packet → Prop} (h : pkt[offset]? = some byte) :
    wp (load8 offset) post stop pkt ↔ post byte pkt := by
  unfold load8
  rw [wp_bind, wp_get, h]
  rfl

/-- A load either finds both bytes or fails, and changes nothing. -/
theorem wp_load16_native {post : U16 → Packet → Prop}
    (hSome : ∀ value, pkt.native16 offset = some value → post value pkt)
    (hNone : pkt.native16 offset = none → stop (.error ()) pkt) :
    wp (load16 offset) post stop pkt := by
  unfold Packet.native16 at hSome hNone
  unfold load16
  rw [wp_bind, wp_get]
  split
  · rename_i low high hLow hHigh
    rw [hLow, hHigh] at hSome
    exact hSome _ rfl
  · rename_i hMissing
    apply hNone
    split
    · rename_i low high hLow hHigh
      exact absurd hHigh (hMissing low high hLow)
    · rfl

theorem wp_load8_missing {post : U8 → Packet → Prop} (h : pkt[offset]? = none) :
    wp (load8 offset) post stop pkt ↔ stop (.error ()) pkt := by
  unfold load8
  rw [wp_bind, wp_get, h]
  rfl

/-- `loadField` finds the field that `located` describes. -/
theorem wp_loadField_located {post : Option (U16 × Nat × Nat × Bool) → Packet → Prop}
    (hSome : ∀ found, dir.located pkt = some found → post (some found) pkt)
    (hNone : dir.located pkt = none → post none pkt ∧ stop (.error ()) pkt) :
    wp (loadField dir pkt.l4Offset pkt.proto) post stop pkt := by
  unfold Direction.located at hSome hNone
  unfold loadField
  by_cases hPort : pkt.proto = ipprotoTcp ∨ pkt.proto = ipprotoUdp
  · simp only [if_pos hPort] at hSome hNone ⊢
    rw [wp_bind]
    apply wp_load16_native
    · intro value hValue
      exact hSome _ (by rw [hValue]; rfl)
    · intro hMissing
      exact (hNone (by rw [hMissing]; rfl)).2
  · simp only [if_neg hPort] at hSome hNone ⊢
    by_cases hIcmp : pkt.proto = ipprotoIcmp
    · simp only [hIcmp, if_true, true_and] at hSome hNone ⊢
      rw [wp_bind]
      cases hType : pkt[pkt.l4Offset + icmpTypeOffset]? with
      | none =>
          rw [wp_load8_missing hType]
          exact (hNone (if_neg (by rw [hType]; simp))).2
      | some type =>
          rw [wp_load8 hType]
          by_cases hEcho : type = dir.icmpType
          · rw [hType, if_pos (congrArg some hEcho)] at hSome hNone
            rw [if_neg (not_not.mpr hEcho), wp_bind]
            apply wp_load16_native
            · intro value hValue
              exact hSome _ (by rw [hValue]; rfl)
            · intro hMissing
              exact (hNone (by rw [hMissing]; rfl)).2
          · rw [if_pos hEcho, wp_pure]
            exact (hNone (if_neg (by rw [hType]; simpa using hEcho))).1
    · simp only [hIcmp, if_false, false_and] at hNone ⊢
      exact (hNone trivial).1

/-- What is found is the value of the field, with the checksum of the protocol. -/
theorem located_spec {old : U16} {field csumOffset : Nat} {isIcmp : Bool}
    (h : dir.located pkt = some (old, field, csumOffset, isIcmp)) :
    dir.Carries pkt field ∧ csumOffset = pkt.csumOffset ∧
      (if isIcmp then 2 else 2 ||| bpfFPseudoHdr) = pkt.csumFlags ∧
      pkt.native16 field = some old := by
  unfold Direction.located at h
  unfold Packet.csumOffset Packet.csumFlags
  split_ifs at h with hPort hTcp hIcmp
  · obtain ⟨value, hValue, hFound⟩ := Option.map_eq_some_iff.mp h
    cases hFound
    refine ⟨Or.inl ⟨hPort, rfl⟩, (if_pos hTcp).symm, ?_, hValue⟩
    exact (if_neg (by rw [hTcp]; decide)).symm
  · obtain ⟨value, hValue, hFound⟩ := Option.map_eq_some_iff.mp h
    cases hFound
    have hUdp := hPort.resolve_left hTcp
    refine ⟨Or.inl ⟨hPort, rfl⟩, ?_, ?_, hValue⟩
    · rw [if_neg hTcp, if_pos hUdp]
    · exact (if_neg (by rw [hUdp]; decide)).symm
  · obtain ⟨value, hValue, hFound⟩ := Option.map_eq_some_iff.mp h
    cases hFound
    refine ⟨Or.inr ⟨hIcmp.1, hIcmp.2, rfl⟩, ?_, ?_, hValue⟩
    · rw [if_neg fun hTcp => hPort (Or.inl hTcp), if_neg fun hUdp => hPort (Or.inr hUdp)]
    · exact (if_pos hIcmp.1).symm

/-- A packet that carries a port has the field located. -/
theorem located_of_carries {old : U16} {field : Nat} (h : dir.Carries pkt field)
    (hOld : pkt.native16 field = some old) :
    ∃ csumOffset isIcmp, dir.located pkt = some (old, field, csumOffset, isIcmp) := by
  unfold Direction.located
  rcases h with ⟨hProto, rfl⟩ | ⟨hProto, hType, rfl⟩
  · rw [if_pos hProto, hOld]
    exact ⟨_, _, rfl⟩
  · have hIcmp : ¬ (pkt.proto = ipprotoTcp ∨ pkt.proto = ipprotoUdp) := by
      rw [hProto]
      decide
    rw [if_neg hIcmp, if_pos ⟨hProto, hType⟩, hOld]
    exact ⟨_, _, rfl⟩

/-- The store and the checksum update leave the rewritten packet, also if the helper
fails. -/
theorem wp_storeField_apply {old new : U16} {field csumOffset : Nat} {isIcmp : Bool}
    {post : Unit → Packet → Prop} (hOld : pkt.native16 field = some old)
    (hPost : post () (Rewrite.apply l4CsumReplace
      ⟨field, old, new, csumOffset, if isIcmp then 2 else 2 ||| bpfFPseudoHdr⟩ pkt)) :
    wp (storeField l4CsumReplace old new field csumOffset isIcmp) post stop pkt := by
  have hLt := Packet.lt_of_native16 hOld
  have hUpdate (flags : U64) (hPost : post () (Rewrite.apply l4CsumReplace
        ⟨field, old, new, csumOffset, flags⟩ pkt)) :
      wp (attempt (replaceCsum l4CsumReplace csumOffset old new flags)) (fun _ => post ()) stop
        (pkt.put16 field new) := by
    unfold replaceCsum
    rw [wp_attempt, wp_bind, wp_get]
    unfold Rewrite.apply Rewrite.stored at hPost
    cases hCsum : l4CsumReplace csumOffset (old.setWidth 64) (new.setWidth 64) flags
        (pkt.put16 field new) with
    | none =>
        simp only [hCsum, Option.getD_none] at hPost
        exact hPost
    | some pkt' =>
        simp only [hCsum, Option.getD_some] at hPost
        exact hPost
  unfold storeField store16
  rw [wp_bind, wp_bind, wp_get, if_pos hLt, wp_set]
  cases isIcmp with
  | false => exact (wp_bind _ _).mpr (hUpdate _ hPost)
  | true => exact (wp_bind _ _).mpr (hUpdate _ hPost)

/-- The packet behind a program: rewritten or passed on. -/
def Direction.output (l4CsumReplace : L4CsumReplace) (dir : Direction)
    (configMap : Option PsidConfig) (pkt : Packet) : Packet :=
  match dir.rewrite configMap pkt with
  | some rewrite => rewrite.apply l4CsumReplace pkt
  | none => pkt

theorem output_of_rewrite_none {configMap : Option PsidConfig}
    (h : dir.rewrite configMap pkt = none) : dir.output l4CsumReplace configMap pkt = pkt := by
  rw [Direction.output, h]

theorem rewrite_of_short (configMap : Option PsidConfig) (h : pkt.length ≤ ipv4ProtoOffset) :
    dir.rewrite configMap pkt = none := by
  cases configMap with
  | none => rfl
  | some cfg => exact if_pos (Or.inr h)

/-- The rewrite, spelled out for a packet that is long enough and a configuration that
is in force. -/
theorem rewrite_of_located (dir : Direction) {cfg : PsidConfig} (hOffset : cfg.offset ≠ 0)
    (hLong : ¬ pkt.length ≤ ipv4ProtoOffset) :
    dir.rewrite (some cfg) pkt = (dir.located pkt).bind fun found =>
      match dir.translate cfg found.1 with
      | some (some new) => some ⟨found.2.1, found.1, new, found.2.2.1,
          if found.2.2.2 then 2 else 2 ||| bpfFPseudoHdr⟩
      | _ => none :=
  if_neg (not_or.mpr ⟨hOffset, hLong⟩)

/-- A program does nothing else than that, and stops only if the arithmetic of
the translation overflows. -/
theorem wp_tcProgram (configMap : Option PsidConfig) :
    wp (tcProgram l4CsumReplace dir configMap)
      (fun act pkt' => act = tcActOk ∧ pkt' = dir.output l4CsumReplace configMap pkt)
      (fun _ pkt' => (∃ cfg found, configMap = some cfg ∧ dir.located pkt = some found ∧
        dir.translate cfg found.1 = none) ∧ pkt' = dir.output l4CsumReplace configMap pkt) pkt := by
  unfold tcProgram tryTranslate
  rw [wp_bind, wp_attempt, wp_bind]
  by_cases hShort : pkt.length ≤ ipv4ProtoOffset
  · have hSame : pkt = dir.output l4CsumReplace configMap pkt :=
      (output_of_rewrite_none (rewrite_of_short configMap hShort)).symm
    have hProto : pkt[ipv4ProtoOffset]? = none := List.getElem?_eq_none hShort
    cases hIhl : pkt[ipv4IhlOffset]? with
    | none =>
        rw [wp_load8_missing hIhl]
        exact ⟨rfl, hSame⟩
    | some ihl =>
        rw [wp_load8 hIhl, wp_bind, wp_load8_missing hProto]
        exact ⟨rfl, hSame⟩
  · have hByte (i : Nat) (hi : i ≤ 9) : pkt[i]? = some (pkt[i]?.getD 0) := by
      rw [List.getElem?_eq_getElem (by unfold ipv4ProtoOffset at hShort; omega : i < pkt.length)]
      rfl
    rw [wp_load8 (hByte ipv4IhlOffset (by decide)), wp_bind,
      wp_load8 (hByte ipv4ProtoOffset (by decide))]
    cases configMap with
    | none => exact ⟨rfl, rfl⟩
    | some cfg =>
        by_cases hOffset : cfg.offset = 0
        · have hNone : dir.rewrite (some cfg) pkt = none := if_pos (Or.inl hOffset)
          simp only [if_pos hOffset]
          exact ⟨rfl, (output_of_rewrite_none hNone).symm⟩
        · have hRewrite := rewrite_of_located dir hOffset hShort
          simp only [if_neg hOffset]
          rw [wp_bind]
          apply wp_loadField_located
          · intro ⟨old, field, csumOffset, isIcmp⟩ hFound
            rw [hFound, Option.bind_some] at hRewrite
            simp only [wp_bind]
            cases hTranslate : dir.translate cfg old with
            | none =>
                rw [hTranslate] at hRewrite
                exact ⟨⟨cfg, _, rfl, hFound, hTranslate⟩, (output_of_rewrite_none hRewrite).symm⟩
            | some result =>
                rw [hTranslate] at hRewrite
                rw [wp_checked_some]
                cases result with
                | none => exact ⟨rfl, (output_of_rewrite_none hRewrite).symm⟩
                | some new =>
                    rw [wp_bind]
                    apply wp_storeField_apply (located_spec hFound).2.2.2
                    rw [wp_pure, wp_pure, Direction.output, hRewrite]
                    exact ⟨rfl, rfl⟩
          · intro hMissing
            rw [hMissing, Option.bind_none] at hRewrite
            have hSame : pkt = dir.output l4CsumReplace (some cfg) pkt :=
              (output_of_rewrite_none hRewrite).symm
            exact ⟨⟨rfl, hSame⟩, rfl, hSame⟩

/-- The program, run with all its error paths, is the function `output`. -/
theorem leaving_tcProgram (configMap : Option PsidConfig) :
    leaving (tcProgram l4CsumReplace dir configMap) pkt =
      dir.output l4CsumReplace configMap pkt := by
  apply leaving_eq_of_wp
  apply wp_mono (wp_tcProgram configMap)
  · intro act pkt' h
    exact h.2
  · intro failure pkt' h
    exact h.2

end Output

/-- Everything a program knows when it rewrites. -/
structure Rewrite.From (rewrite : Rewrite) (dir : Direction) (configMap : Option PsidConfig)
    (pkt : Packet) : Prop where
  carries : dir.Carries pkt rewrite.field
  old : pkt.native16 rewrite.field = some rewrite.old
  new : ∃ cfg, configMap = some cfg ∧ cfg.offset ≠ 0 ∧
    dir.translate cfg rewrite.old = some (some rewrite.new)
  csumOffset : rewrite.csumOffset = pkt.csumOffset
  flags : rewrite.flags = pkt.csumFlags

section Inversion

variable {dir : Direction} {pkt : Packet} {configMap : Option PsidConfig} {rewrite : Rewrite}

/-- Where a rewrite happens, what was loaded there and what is written. -/
theorem rewrite_from (h : dir.rewrite configMap pkt = some rewrite) :
    rewrite.From dir configMap pkt := by
  cases configMap with
  | none => cases h
  | some cfg =>
      simp only [Direction.rewrite, Option.bind_eq_bind, Option.bind_some] at h
      split_ifs at h with hPass
      obtain ⟨⟨old, field, csumOffset, isIcmp⟩, hFound, h⟩ := Option.bind_eq_some_iff.mp h
      obtain ⟨hCarries, hCsum, hFlags, hOld⟩ := located_spec hFound
      split at h
      · rename_i new hTranslate
        cases h
        exact ⟨hCarries, hOld, ⟨cfg, rfl, (not_or.mp hPass).1, hTranslate⟩, hCsum, hFlags⟩
      · cases h

variable {l4CsumReplace : L4CsumReplace} {field : Nat}

/-- The checksum never lies over the field. -/
theorem apart_csumOffset (hPort : dir.portOffset ≤ 2) (h : dir.Carries pkt field) :
    Apart pkt.csumOffset field := by
  unfold Apart Packet.csumOffset
  rcases h with ⟨hProto, rfl⟩ | ⟨hProto, -, rfl⟩
  · split_ifs with hTcp hUdp
    · omega
    · omega
    · exact absurd hProto (not_or.mpr ⟨hTcp, hUdp⟩)
  · unfold icmpIdOffset icmpCsumOffset
    rw [hProto, if_neg (by decide), if_neg (by decide)]
    omega

/-- Behind the store only the checksum can still change. -/
theorem apply_stored (rewrite : Rewrite) (pkt : Packet) (hFramed : l4CsumReplace.Framed) {i : Nat}
    (h : i ≠ rewrite.csumOffset) (h' : i ≠ rewrite.csumOffset + 1) :
    (rewrite.apply l4CsumReplace pkt)[i]? = (rewrite.stored pkt)[i]? := by
  unfold Rewrite.apply
  cases hCsum : l4CsumReplace rewrite.csumOffset (rewrite.old.setWidth 64)
      (rewrite.new.setWidth 64) rewrite.flags (rewrite.stored pkt) with
  | none => rfl
  | some pkt' => exact hFramed _ _ _ _ _ _ hCsum i h h'

/-- The written value stays, since the checksum lies apart from it. -/
theorem native16_apply (hFramed : l4CsumReplace.Framed) (hPort : dir.portOffset ≤ 2)
    (h : rewrite.From dir configMap pkt) :
    (rewrite.apply l4CsumReplace pkt).native16 rewrite.field = some rewrite.new := by
  obtain ⟨hLeft, hLeftNext, hRight⟩ := apart_csumOffset hPort h.carries
  rw [← h.csumOffset] at hLeft hLeftNext hRight
  have hField := apply_stored rewrite pkt hFramed (Ne.symm hLeft) (Ne.symm hLeftNext)
  have hNext := apply_stored rewrite pkt hFramed (Ne.symm hRight)
    fun hSame => hLeft (Nat.succ.inj hSame).symm
  rw [Packet.native16_congr hField hNext]
  exact Packet.native16_put16 (Packet.lt_of_native16 h.old)

end Inversion

end Mapecd
