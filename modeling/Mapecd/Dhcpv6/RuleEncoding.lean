import Mapecd.Dhcpv6.Parser

/-! The wire layout of `OPTION_S46_RULE`, in which the IPv4 prefix always has
four bytes, and what the parser reads from it. -/
namespace Mapecd

open Checked Bytes Prefix

/-- The fields of `OPTION_S46_PORTPARAMS`. -/
structure S46PortParams where
  psidOffset : U8
  psidLength : U8
  psid : U16
deriving DecidableEq, Repr

/-- The fields of `OPTION_S46_RULE`. No prefix has host bits. -/
structure S46Rule where
  flags : U8
  eaLength : U8
  ipv4Prefix : Ipv4Net
  ipv6Prefix : Ipv6Net
  portParams : Option S46PortParams
  ipv4_truncated : Truncated ipv4Prefix.prefixLen.toNat ipv4Prefix.addr
  ipv6_truncated : Truncated ipv6Prefix.prefixLen.toNat ipv6Prefix.addr

def encodeOption (code : U16) (data : List U8) : List U8 :=
  toBe 2 code ++ (toBe 2 (BitVec.ofNat 16 data.length) ++ data)

def S46PortParams.encode (params : S46PortParams) : List U8 :=
  encodeOption optS46Portparams (params.psidOffset :: params.psidLength :: toBe 2 params.psid)

namespace S46Rule

variable (wire : S46Rule)

def ipv6Bytes : List U8 := (toBe 16 wire.ipv6Prefix.addr).take ((wire.ipv6Prefix.prefixLen.toNat + 7) / 8)

def subOptions : List U8 := (wire.portParams.map S46PortParams.encode).getD []

def encode : List U8 :=
  wire.flags :: wire.eaLength :: wire.ipv4Prefix.prefixLen ::
    (toBe 4 wire.ipv4Prefix.addr ++
      wire.ipv6Prefix.prefixLen :: (wire.ipv6Bytes ++ wire.subOptions))

/-- The port parameters that the rule gives, without the PSID. -/
def givenPortParams : PortParams :=
  match wire.portParams with
  | some params => ⟨params.psidOffset, params.psidLength⟩
  | none => .default

/-- The rule with these fields. -/
def mapRule (brAddr : Ipv6Addr) : MapRule :=
  { ipv6Prefix := wire.ipv6Prefix
    ipv4Prefix := wire.ipv4Prefix
    eaLength := wire.eaLength
    isFmr := wire.flags.getLsbD 0
    brAddress := brAddr
    portParams := wire.givenPortParams }

/-- The parser takes as many bytes for the IPv4 prefix as are there, or it takes
fewer and still finds the prefix length zero and the same port parameters. -/
def Aligned : Prop :=
  25 ≤ wire.ipv4Prefix.prefixLen.toNat ∨ wire.ipv6Prefix.prefixLen = 0 ∧
    (wire.ipv4Prefix.prefixLen = 0 ∨ wire.givenPortParams = .default)

end S46Rule

section Options

/-- An option in front of others is read back. -/
theorem iterOpts_encodeOption (code : U16) (data rest : List U8)
    (hData : data.length < 2 ^ 16) :
    iterOpts (encodeOption code data ++ rest) = (code, data) :: iterOpts rest := by
  obtain ⟨c₁, c₀, hCode, hCodeEq⟩ := toBe_two code
  obtain ⟨l₁, l₀, hLen, hLenEq⟩ := toBe_two (BitVec.ofNat 16 data.length)
  have hNat : (l₁ ++ l₀).toNat = data.length := by
    rw [hLenEq, BitVec.toNat_ofNat, Nat.mod_eq_of_lt hData]
  have hFits : data.length ≤ (data ++ rest).length := by
    rw [List.length_append]
    omega
  have hBytes : encodeOption code data ++ rest = c₁ :: c₀ :: l₁ :: l₀ :: (data ++ rest) := by
    rw [encodeOption, hCode, hLen]
    simp
  rw [hBytes, iterOpts_cons, hNat, if_pos hFits, List.take_left, List.drop_left, hCodeEq]

variable (params : S46PortParams)

/-- An encoded option is found and read. -/
theorem scan_encode : (iterOpts params.encode).foldl scanPortParams .default =
    ⟨params.psidOffset, params.psidLength⟩ := by
  have hRead := iterOpts_encodeOption optS46Portparams
    (params.psidOffset :: params.psidLength :: toBe 2 params.psid) [] (by simp)
  rw [List.append_nil, iterOpts_nil] at hRead
  obtain ⟨high, low, hPsid, -⟩ := toBe_two params.psid
  rw [S46PortParams.encode, hRead, hPsid]
  rfl

/-- One to three zero bytes in front hide the option: a length is read from
bytes that are none, and it exceeds what is left. -/
theorem scan_shifted {shift : Nat} (hPos : 0 < shift) (hLt : shift < 4) :
    (iterOpts (List.replicate shift 0 ++ params.encode)).foldl scanPortParams .default =
      .default := by
  have hEncode : params.encode = 0 :: 93 :: 0 :: 4 :: params.psidOffset :: params.psidLength ::
      toBe 2 params.psid := by
    have hCode : toBe 2 optS46Portparams = [0, 93] := by decide
    have hLen : toBe 2 (BitVec.ofNat 16 (2 + 1 + 1)) = [0, 4] := by decide
    rw [S46PortParams.encode, encodeOption, hCode, List.length_cons, List.length_cons, length_toBe,
      hLen]
    rfl
  have hThree : ¬ (4#8 ++ params.psidOffset).toNat ≤ 3 := by
    rw [BitVec.toNat_append, Nat.shiftLeft_eq, Nat.not_le]
    exact Nat.lt_of_lt_of_le (by decide) Nat.left_le_or
  rw [hEncode]
  match shift, hPos, hLt with
  | 1, _, _ => simp [List.replicate, iterOpts_cons]
  | 2, _, _ => simp [List.replicate, iterOpts_cons]
  | 3, _, _ => simp [List.replicate, iterOpts_cons, hThree, scanPortParams]

/-- Four zero bytes are an option of their own. -/
theorem scan_zeros_four (bytes : List U8) :
    (iterOpts (List.replicate 4 0 ++ bytes)).foldl scanPortParams .default =
      (iterOpts bytes).foldl scanPortParams .default := by
  simp [List.replicate, iterOpts_cons, scanPortParams]

/-- A few zero bytes hold no port parameters. -/
theorem scan_zeros {shift : Nat} (hLe : shift ≤ 4) :
    (iterOpts (List.replicate shift 0)).foldl scanPortParams .default = .default := by
  match shift, hLe with
  | 0, _ => rw [List.replicate_zero, iterOpts_nil]; rfl
  | 1, _ => rw [iterOpts]; rfl; simp
  | 2, _ => rw [iterOpts]; rfl; simp
  | 3, _ => rw [iterOpts]; rfl; simp
  | 4, _ => simp [List.replicate, iterOpts_cons, iterOpts_nil, scanPortParams]

end Options

/-- The bytes of a prefix, filled up with zeros, are those of its address. -/
theorem ofBe_prefix (size : Nat) {n : Nat} {addr : BitVec (8 * size)} (hLe : n ≤ 8 * size)
    (h : Truncated n addr) :
    ∃ raw, raw = (toBe size addr).take ((n + 7) / 8) ∧ raw.length = (n + 7) / 8 ∧
      toBe size addr = raw ++ List.replicate (size - raw.length) 0 ∧
      ofBe (8 * size) (raw ++ List.replicate (size - raw.length) 0) = addr := by
  have hBytes : (n + 7) / 8 ≤ size := by omega
  have hLength : ((toBe size addr).take ((n + 7) / 8)).length = (n + 7) / 8 := by
    rw [List.length_take, length_toBe, Nat.min_eq_left hBytes]
  have hSplit : toBe size addr =
      (toBe size addr).take ((n + 7) / 8) ++ List.replicate (size - (n + 7) / 8) 0 := by
    have hZeros := toBe_eq_append_zeros ((n + 7) / 8) (m := size - (n + 7) / 8) (x := addr)
      fun i hi => h i (by omega)
    rwa [Nat.add_sub_of_le hBytes] at hZeros
  refine ⟨_, rfl, hLength, ?_, ?_⟩
  · rwa [hLength]
  · rw [hLength, ← hSplit]
    exact ofBe_toBe _ _ (Nat.le_refl _)

namespace S46Rule

variable (wire : S46Rule) (brAddr : Ipv6Addr)

theorem scan_subOptions :
    (iterOpts wire.subOptions).foldl scanPortParams .default = wire.givenPortParams := by
  unfold subOptions givenPortParams
  cases wire.portParams with
  | none => rw [Option.map_none, Option.getD_none, iterOpts_nil]; rfl
  | some params => exact scan_encode params

theorem isFmr_eq : decide (wire.flags &&& 0x01 ≠ 0) = wire.flags.getLsbD 0 := by
  have hBit : wire.flags &&& 1 = BitVec.setWidth 8 (BitVec.ofBool (wire.flags.getLsbD 0)) :=
    BitVec.and_one_eq_setWidth_ofBool_getLsbD
  rw [hBit]
  cases wire.flags.getLsbD 0 with
  | false => rfl
  | true => rfl

theorem exists_ipv4_raw : ∃ raw : List U8, raw.length = (wire.ipv4Prefix.prefixLen.toNat + 7) / 8 ∧
    toBe 4 wire.ipv4Prefix.addr = raw ++ List.replicate (4 - raw.length) 0 ∧
    ofBe 32 (raw ++ List.replicate (4 - raw.length) 0) = wire.ipv4Prefix.addr := by
  obtain ⟨raw, -, h⟩ := ofBe_prefix 4 wire.ipv4Prefix.prefixLen_le wire.ipv4_truncated
  exact ⟨raw, h⟩

theorem ipv6Bytes_spec : wire.ipv6Bytes.length = (wire.ipv6Prefix.prefixLen.toNat + 7) / 8 ∧
    ofBe 128 (wire.ipv6Bytes ++ List.replicate (16 - wire.ipv6Bytes.length) 0) =
      wire.ipv6Prefix.addr := by
  obtain ⟨raw, hRaw, hLength, -, hRead⟩ :=
    ofBe_prefix 16 wire.ipv6Prefix.prefixLen_le wire.ipv6_truncated
  subst hRaw
  exact ⟨hLength, hRead⟩

/-- With four bytes of the IPv4 prefix the parser is where the encoder was. -/
theorem parse_encode_of_le (h : 25 ≤ wire.ipv4Prefix.prefixLen.toNat) :
    parseS46Rule wire.encode brAddr = pure (wire.mapRule brAddr) := by
  obtain ⟨raw, hLength, hBytes, hRead⟩ := wire.exists_ipv4_raw
  obtain ⟨hLength6, hRead6⟩ := wire.ipv6Bytes_spec
  have hLe := wire.ipv4Prefix.prefixLen_le
  have hFour : 4 - raw.length = 0 := by omega
  rw [hFour, List.replicate_zero, List.append_nil] at hBytes
  rw [encode, hBytes, parseS46Rule_eq brAddr hLe wire.ipv6Prefix.prefixLen_le hLength hLength6]
  have h4 : Ipv4Net.trunc ⟨wire.ipv4Prefix.addr, wire.ipv4Prefix.prefixLen, hLe⟩ = wire.ipv4Prefix :=
    Ipv4Net.trunc_eq wire.ipv4_truncated
  have h6 : Ipv6Net.trunc ⟨wire.ipv6Prefix.addr, wire.ipv6Prefix.prefixLen,
      wire.ipv6Prefix.prefixLen_le⟩ = wire.ipv6Prefix := Ipv6Net.trunc_eq wire.ipv6_truncated
  simp only [hRead, hRead6, h4, h6, scan_subOptions, isFmr_eq, mapRule]

/-- With fewer bytes it takes the zero behind them for the length of the IPv6 prefix. -/
theorem parse_encode_of_lt (h : wire.ipv4Prefix.prefixLen.toNat < 25) :
    ∃ shift, shift = 4 - (wire.ipv4Prefix.prefixLen.toNat + 7) / 8 ∧
    parseS46Rule wire.encode brAddr =
      pure { wire.mapRule brAddr with
        ipv6Prefix := ⟨0, 0, by decide⟩
        portParams := (iterOpts (List.replicate (shift - 1) 0 ++ wire.ipv6Prefix.prefixLen ::
          (wire.ipv6Bytes ++ wire.subOptions))).foldl scanPortParams .default } := by
  obtain ⟨raw, hLength, hBytes, hRead⟩ := wire.exists_ipv4_raw
  have hLe := wire.ipv4Prefix.prefixLen_le
  have hZero : 4 - raw.length = (4 - raw.length - 1) + 1 := by omega
  have hSplit : wire.encode = wire.flags :: wire.eaLength :: wire.ipv4Prefix.prefixLen ::
      (raw ++ 0 :: ([] ++ (List.replicate (4 - raw.length - 1) 0 ++
        wire.ipv6Prefix.prefixLen :: (wire.ipv6Bytes ++ wire.subOptions)))) := by
    rw [encode, hBytes, hZero, List.replicate_succ, List.append_assoc]
    rfl
  refine ⟨4 - raw.length, by rw [hLength], ?_⟩
  have h4 : Ipv4Net.trunc ⟨wire.ipv4Prefix.addr, wire.ipv4Prefix.prefixLen, hLe⟩ = wire.ipv4Prefix :=
    Ipv4Net.trunc_eq wire.ipv4_truncated
  have h6 : Ipv6Net.trunc ⟨ofBe 128 ([] ++ List.replicate (16 - ([] : List U8).length) 0), 0,
      by decide⟩ = ⟨0, 0, by decide⟩ := by decide
  rw [hSplit, parseS46Rule_eq brAddr hLe (by decide) hLength rfl]
  simp only [hRead, h4, h6, isFmr_eq, mapRule]

/-- What is left to scan when the IPv6 prefix is empty. -/
theorem scan_behind_zeros {shift : Nat} (hPos : 0 < shift) (hLe : shift ≤ 4)
    (h6 : wire.ipv6Prefix.prefixLen = 0) :
    (iterOpts (List.replicate (shift - 1) 0 ++ wire.ipv6Prefix.prefixLen ::
      (wire.ipv6Bytes ++ wire.subOptions))).foldl scanPortParams .default =
        if shift = 4 then wire.givenPortParams else .default := by
  have hBytes : wire.ipv6Bytes = [] := by
    rw [ipv6Bytes, h6]
    rfl
  have hZeros : List.replicate (shift - 1) 0 ++ wire.ipv6Prefix.prefixLen ::
      (wire.ipv6Bytes ++ wire.subOptions) = List.replicate shift 0 ++ wire.subOptions := by
    rw [hBytes, h6, List.nil_append, ← List.singleton_append, ← List.append_assoc,
      ← List.replicate_succ', Nat.sub_add_cancel hPos]
  rw [hZeros]
  by_cases hFour : shift = 4
  · rw [hFour, if_pos rfl, scan_zeros_four, scan_subOptions]
  · rw [if_neg hFour, subOptions]
    cases wire.portParams with
    | none =>
        rw [Option.map_none, Option.getD_none, List.append_nil]
        exact scan_zeros hLe
    | some params => exact scan_shifted params hPos (by omega)

end S46Rule

/-- The cut of the sub-options behind an empty IPv6 prefix. -/
theorem S46Rule.scan_eq_given {wire : S46Rule} {shift : Nat}
    (hFour : shift = 4 ↔ wire.ipv4Prefix.prefixLen = 0) :
    (if shift = 4 then wire.givenPortParams else .default) = wire.givenPortParams ↔
      wire.ipv4Prefix.prefixLen = 0 ∨ wire.givenPortParams = .default := by
  by_cases hAll : shift = 4
  · exact iff_of_true (if_pos hAll) (Or.inl (hFour.mp hAll))
  · rw [if_neg hAll, or_iff_right fun hNone => hAll (hFour.mpr hNone)]
    exact eq_comm

/-- What the parser expects differs from the wire format in the length of the IPv4
prefix only. -/
theorem S46Rule.parse_encode_iff (wire : S46Rule) (brAddr : Ipv6Addr) :
    parseS46Rule wire.encode brAddr = pure (wire.mapRule brAddr) ↔ wire.Aligned := by
  unfold Aligned
  by_cases h : 25 ≤ wire.ipv4Prefix.prefixLen.toNat
  · exact iff_of_true (wire.parse_encode_of_le brAddr h) (Or.inl h)
  · obtain ⟨shift, hShift, hParse⟩ := wire.parse_encode_of_lt brAddr (Nat.lt_of_not_le h)
    have hPos : 0 < shift := by omega
    have hLe : shift ≤ 4 := by omega
    have hFour : shift = 4 ↔ wire.ipv4Prefix.prefixLen = 0 := by
      rw [← BitVec.toNat_inj]
      change _ ↔ wire.ipv4Prefix.prefixLen.toNat = 0
      omega
    rw [hParse, or_iff_right h]
    constructor
    · intro hSame
      have hRule := Except.ok.inj (Option.some.inj hSame)
      have h6 : wire.ipv6Prefix.prefixLen = 0 :=
        (congrArg (fun rule : MapRule => rule.ipv6Prefix.prefixLen) hRule).symm
      have hParams := congrArg MapRule.portParams hRule
      rw [wire.scan_behind_zeros hPos hLe h6] at hParams
      exact ⟨h6, (scan_eq_given hFour).mp hParams⟩
    · intro ⟨h6, hParams⟩
      have h6Net : wire.ipv6Prefix = ⟨0, 0, by decide⟩ :=
        Ipv6Net.eq_of_prefixLen_zero h6 wire.ipv6_truncated
      rw [wire.scan_behind_zeros hPos hLe h6, (scan_eq_given hFour).mpr hParams, ← h6Net]
      rfl

/-- The parser reads back what was encoded exactly for the aligned rules. -/
theorem parseS46Rule_encode_iff (wire : S46Rule) (brAddr : Ipv6Addr) :
    parseS46Rule wire.encode brAddr = pure (wire.mapRule brAddr) ↔ wire.Aligned :=
  wire.parse_encode_iff brAddr

theorem testNet6_truncated : Truncated testNet6.prefixLen.toNat testNet6.addr := by
  unfold Truncated
  decide

theorem testHost_truncated : Truncated testHost.prefixLen.toNat testHost.addr := by
  unfold Truncated
  decide

/-- `192.0.2.0/24` and `2001:db8::/32` with 4 offset bits and 8 PSID bits. -/
def slash24 : S46Rule :=
  { flags := 1
    eaLength := 16
    ipv4Prefix := testNet4
    ipv6Prefix := testNet6
    portParams := some ⟨4, 8, 0⟩
    ipv4_truncated := by unfold Truncated; decide
    ipv6_truncated := testNet6_truncated }

/-- The rule is accepted, with the IPv6 prefix `::/0`. -/
theorem parseS46Rule_encode_slash24 : ∃ rule, parseS46Rule slash24.encode 1 = pure rule ∧
    rule.ipv6Prefix.prefixLen = 0 ∧ rule ≠ slash24.mapRule 1 := by
  obtain ⟨shift, -, hParse⟩ := slash24.parse_encode_of_lt 1 (by decide)
  refine ⟨_, hParse, rfl, ?_⟩
  intro hSame
  have hLen : (0 : U8) = 32 := congrArg (fun rule : MapRule => rule.ipv6Prefix.prefixLen) hSame
  cases hLen

section Container

def encodeRules (wires : List S46Rule) : List U8 :=
  (wires.map fun wire => encodeOption optS46Rule wire.encode).flatten

def encodeContainer (brAddr : Ipv6Addr) (wires : List S46Rule) : List U8 :=
  encodeOption optS46Br (toBe 16 brAddr) ++ encodeRules wires

/-- An encoded rule fits the length field of its option. -/
theorem S46Rule.length_encode_lt (wire : S46Rule) : wire.encode.length < 2 ^ 16 := by
  have hOptions : wire.subOptions.length ≤ 8 := by
    unfold subOptions
    cases wire.portParams with
    | none => exact Nat.zero_le _
    | some params => exact Nat.le_of_eq (by simp [S46PortParams.encode, encodeOption])
  have hBytes := wire.ipv6Bytes_spec.1
  have hLen := wire.ipv6Prefix.prefixLen_le
  simp only [encode, List.length_cons, List.length_append, length_toBe]
  omega

/-- The scan collects the payloads behind those it has. -/
theorem scan_encodeRules (wires : List S46Rule) (scan : ContainerScan) :
    (iterOpts (encodeRules wires)).foldl ContainerScan.push scan =
      { scan with rulePayloads := scan.rulePayloads ++ wires.map S46Rule.encode } := by
  induction wires generalizing scan with
  | nil =>
      rw [encodeRules, List.map_nil, List.flatten_nil, iterOpts_nil, List.map_nil, List.append_nil]
      rfl
  | cons wire wires ih =>
      have hFirst : encodeRules (wire :: wires) =
          encodeOption optS46Rule wire.encode ++ encodeRules wires := rfl
      rw [hFirst, iterOpts_encodeOption _ _ _ wire.length_encode_lt, List.foldl_cons, ih]
      simp [ContainerScan.push, optS46Rule, optS46Br]

/-- Aligned rules are parsed one by one. -/
theorem mapM_pure {wires : List S46Rule} {brAddr : Ipv6Addr} (h : ∀ wire ∈ wires, wire.Aligned) :
    ((wires.map S46Rule.encode).mapM fun payload => parseS46Rule payload brAddr) =
      pure (wires.map fun wire => wire.mapRule brAddr) := by
  induction wires with
  | nil => rfl
  | cons wire wires ih =>
      have hFirst := (wire.parse_encode_iff brAddr).mpr (h wire List.mem_cons_self)
      rw [List.map_cons, List.mapM_cons, hFirst,
        ih fun wire hWire => h wire (List.mem_cons_of_mem _ hWire)]
      rfl

/-- A container of aligned rules is read back in order. -/
theorem parseS46ContMape_encode {wires : List S46Rule} (brAddr : Ipv6Addr)
    (h : ∀ wire ∈ wires, wire.Aligned) :
    parseS46ContMape (encodeContainer brAddr wires) =
      pure (wires.map fun wire => wire.mapRule brAddr) := by
  have hBr : parseS46Br (toBe 16 brAddr) = some brAddr := by
    have hFull : (toBe 16 brAddr).take 16 = toBe 16 brAddr :=
      List.take_of_length_le (Nat.le_of_eq (length_toBe 16 brAddr))
    rw [parseS46Br, if_neg (by rw [length_toBe]; decide), hFull, ofBe_toBe 16 brAddr (by decide)]
  have hScan : (iterOpts (encodeContainer brAddr wires)).foldl ContainerScan.push ⟨none, []⟩ =
      ⟨some brAddr, wires.map S46Rule.encode⟩ := by
    rw [encodeContainer, iterOpts_encodeOption _ _ _ (by rw [length_toBe]; decide), List.foldl_cons,
      scan_encodeRules]
    simp [ContainerScan.push, hBr]
  rw [parseS46ContMape, hScan]
  exact mapM_pure h

end Container

end Mapecd
