import Mapecd.Dhcpv6.ContainerEncoding
import Mapecd.Map.HasParams

/-! The PSID of the port parameters option beside the one in the EA bits. -/
namespace Mapecd

open Checked Bytes Prefix

section Inversion

variable {α β : Type}

/-- A parser returns a value if both of its parts do. -/
theorem bind_eq_pure {parser : Parse α} {next : α → Parse β} {b : β} :
    parser >>= next = pure b ↔ ∃ a, parser = pure a ∧ next a = pure b := by
  constructor
  · intro h
    cases hRun : parser.run with
    | none =>
        have hNone : parser = ExceptT.mk none := hRun
        subst hNone
        cases h
    | some result =>
        have hSome : parser = ExceptT.mk (some result) := hRun
        subst hSome
        cases result with
        | error e => cases h
        | ok a => exact ⟨a, rfl, h⟩
  · intro ⟨a, hParser, hNext⟩
    rw [hParser, pure_bind, hNext]

/-- A computation without errors either returns or panics. -/
theorem lift_eq_pure {result : Result α} {a : α} :
    (liftM result : Parse α) = pure a ↔ result = some a := by
  cases result with
  | none => exact iff_of_false (fun h => by cases h) (fun h => by cases h)
  | some b =>
      constructor
      · intro h
        exact congrArg some (Except.ok.inj (Option.some.inj h))
      · intro h
        rw [Option.some.inj h]
        rfl

end Inversion

/-- What `scanPortParams` reads, with the PSID. -/
def scanProvisioned (found : Option S46PortParams) : U16 × List U8 → Option S46PortParams
  | (code, psidOffset :: psidLength :: high :: low :: _) =>
      if code = optS46Portparams then some ⟨psidOffset, psidLength, high ++ low⟩ else found
  | _ => found

/-- The bytes behind both prefixes. -/
def subOptionBytes (payload : List U8) : List U8 :=
  let pos := 3 + ((payload.getD 2 0).toNat + 7) / 8
  payload.drop (pos + 1 + ((payload.getD pos 0).toNat + 7) / 8)

/-- The last option with the code and the length of the port parameters. -/
def provisioned (payload : List U8) : Option S46PortParams :=
  (iterOpts (subOptionBytes payload)).foldl scanProvisioned none

/-- The first `psidLength` bits of the field. -/
def S46PortParams.provisionedPsid (params : S46PortParams) : U16 :=
  params.psid >>> (16 - params.psidLength.toNat)

def withoutPsid : Option S46PortParams → PortParams
  | some params => ⟨params.psidOffset, params.psidLength⟩
  | none => .default

theorem scan_withoutPsid (found : Option S46PortParams) (option : U16 × List U8) :
    scanPortParams (withoutPsid found) option = withoutPsid (scanProvisioned found option) := by
  match option with
  | (_, []) | (_, [_]) | (_, [_, _]) | (_, [_, _, _]) => rfl
  | (code, psidOffset :: psidLength :: high :: low :: _) =>
      exact (apply_ite withoutPsid (code = optS46Portparams)
        (some ⟨psidOffset, psidLength, high ++ low⟩) found).symm

theorem foldl_withoutPsid (options : List (U16 × List U8)) (found : Option S46PortParams) :
    options.foldl scanPortParams (withoutPsid found) =
      withoutPsid (options.foldl scanProvisioned found) := by
  induction options generalizing found with
  | nil => rfl
  | cons option options ih => rw [List.foldl_cons, List.foldl_cons, scan_withoutPsid, ih]

variable {payload : List U8} {brAddr : Ipv6Addr} {rule : MapRule} {params : S46PortParams}

/-- The parser keeps offset and length of the option and drops the rest. -/
theorem parseS46Rule_portParams (h : parseS46Rule payload brAddr = pure rule) :
    rule.portParams = withoutPsid (provisioned payload) := by
  simp only [parseS46Rule, bind_eq_pure, lift_eq_pure] at h
  obtain ⟨-, -, flags, -, eaLength, -, prefix4Len, hLen4, -, -, ipv4Raw, -, ipv4, -, -, -,
    prefix6Len, hLen6, -, -, ipv6Raw, -, ipv6, -, rest, hRest, hRule⟩ := h
  have hLen4' : payload.getD 2 0 = prefix4Len := by
    rw [List.getD_eq_getElem?_getD, show payload[2]? = some prefix4Len from hLen4, Option.getD_some]
  have hLen6' : payload.getD (3 + (prefix4Len.toNat + 7) / 8) 0 = prefix6Len := by
    rw [List.getD_eq_getElem?_getD, show payload[_]? = some prefix6Len from hLen6, Option.getD_some]
  have hBytes : subOptionBytes payload = rest := by
    simp only [subOptionBytes, hLen4', hLen6']
    unfold slice at hRest
    split_ifs at hRest
    rw [← Option.some.inj hRest, List.take_length]
  have hPortParams := congrArg MapRule.portParams (Except.ok.inj (Option.some.inj hRule))
  rw [← hPortParams, provisioned, hBytes]
  exact foldl_withoutPsid (iterOpts rest) none

section Layout

/-- The sub-options are what is left behind the two prefixes. -/
theorem subOptionBytes_eq (flags eaLength : U8) {prefix4Len prefix6Len : U8} {ipv4 ipv6 : List U8}
    (rest : List U8) (hIpv4 : ipv4.length = (prefix4Len.toNat + 7) / 8)
    (hIpv6 : ipv6.length = (prefix6Len.toNat + 7) / 8) :
    subOptionBytes (flags :: eaLength :: prefix4Len :: (ipv4 ++ prefix6Len :: (ipv6 ++ rest))) =
      rest := by
  have hSplit : flags :: eaLength :: prefix4Len :: (ipv4 ++ prefix6Len :: (ipv6 ++ rest)) =
      ([flags, eaLength, prefix4Len] ++ ipv4) ++ prefix6Len :: (ipv6 ++ rest) := by simp
  have hPos : ([flags, eaLength, prefix4Len] ++ ipv4).length = 3 + (prefix4Len.toNat + 7) / 8 := by
    rw [List.length_append, hIpv4]
    rfl
  have hLen4 : ([flags, eaLength, prefix4Len] ++ ipv4 ++ prefix6Len :: (ipv6 ++ rest)).getD 2 0 =
      prefix4Len := rfl
  have hLen6 : ([flags, eaLength, prefix4Len] ++ ipv4 ++ prefix6Len :: (ipv6 ++ rest)).getD
      (3 + (prefix4Len.toNat + 7) / 8) 0 = prefix6Len := by
    rw [List.getD_append_right _ _ _ _ (Nat.le_of_eq hPos), hPos, Nat.sub_self]
    rfl
  rw [hSplit, subOptionBytes, hLen4, hLen6, ← hPos, ← hIpv6, Nat.add_assoc, Nat.add_comm 1,
    ← List.drop_drop, List.drop_left, List.drop_succ_cons, List.drop_left]

theorem scanProvisioned_ne (found : Option S46PortParams) (code : U16) (data : List U8)
    (h : code ≠ optS46Portparams) : scanProvisioned found (code, data) = found := by
  unfold scanProvisioned
  split
  · rename_i hOption
    exact if_neg fun hEq => h ((congrArg Prod.fst hOption).trans hEq)
  · rfl

/-- What a server has put into the option is found again. -/
theorem RuleLayout.provisioned_encode (layout : RuleLayout) :
    provisioned layout.encode = layout.rule.portParams := by
  have hBytes : subOptionBytes layout.encode = encodeOptions layout.subOptions :=
    subOptionBytes_eq _ _ _ layout.ipv4Bytes_spec.1 layout.rule.ipv6Bytes_spec.1
  rw [provisioned, hBytes, iterOpts_encodeOptions layout.length_subOptions, subOptions,
    List.foldl_append, List.foldl_append, scan_foreign scanProvisioned_ne,
    scan_foreign scanProvisioned_ne]
  unfold portParamsOption
  cases layout.rule.portParams with
  | none => rfl
  | some params =>
      obtain ⟨high, low, hPsid, hRead⟩ := toBe_two params.psid
      change scanProvisioned none
        (optS46Portparams, params.psidOffset :: params.psidLength :: toBe 2 params.psid) = _
      rw [hPsid, scanProvisioned, if_pos rfl, hRead]

end Layout

/-- Bit `i` of the PSID in the option. -/
theorem getLsbD_provisionedPsid (params : S46PortParams) (i : Nat) :
    params.provisionedPsid.getLsbD i = params.psid.getLsbD (16 - params.psidLength.toNat + i) :=
  BitVec.getLsbD_ushiftRight _ _ _

/-- The low bits of the EA field are the PSID of the option. -/
def EaAgrees (cePrefix : Ipv6Net) (rule : MapRule) (psid : U16) : Prop :=
  ∀ i, i < rule.k → eaBit cePrefix rule i = psid.getLsbD i

instance (cePrefix : Ipv6Net) (rule : MapRule) (psid : U16) :
    Decidable (EaAgrees cePrefix rule psid) :=
  inferInstanceAs (Decidable (∀ i, i < rule.k → _))

/-- The PSID in use is the provisioned one: every result has it, a CE prefix with
another one is rejected, and without EA bits it is taken from the option. -/
structure UsesProvisioned (cePrefix : Ipv6Net) (rule : MapRule) (format : CeFormat) (psid : U16) :
    Prop where
  used : ∀ result, computeMapeParams cePrefix rule format = some (.ok result) → result.psid = psid
  rejected : 0 < rule.ea → HasParams cePrefix rule format → ¬ EaAgrees cePrefix rule psid →
    ∃ e, computeMapeParams cePrefix rule format = some (.error e)
  taken : rule.ea = 0 → HasParams cePrefix rule format →
    ∃ result, computeMapeParams cePrefix rule format = some (.ok result) ∧ result.psid = psid

section Agreement

variable {cePrefix : Ipv6Net} {format : CeFormat} {psid : U16}

/-- The computed PSID is that of the EA bits, so it is the other one if they agree. -/
theorem psid_eq_iff {result : MapeParams} (hPsid : ∀ i, rule.k ≤ i → psid.getLsbD i = false)
    (h : computeMapeParams cePrefix rule format = some (.ok result)) :
    result.psid = psid ↔ EaAgrees cePrefix rule psid := by
  have hBits := (ok_spec h).2
  constructor
  · intro hSame i hi
    rw [← hSame, hBits, decide_eq_true hi, Bool.true_and]
  · intro hAgrees
    apply BitVec.eq_of_getLsbD_eq
    intro i _
    rw [hBits]
    by_cases hi : i < rule.k
    · rw [hAgrees i hi, decide_eq_true hi, Bool.true_and]
    · rw [hPsid i (Nat.le_of_not_lt hi), decide_eq_false hi, Bool.false_and]

/-- If parameters are computed at all, their PSID is the one in the EA bits. -/
theorem usesProvisioned_iff_agrees (hPsid : ∀ i, rule.k ≤ i → psid.getLsbD i = false) :
    UsesProvisioned cePrefix rule format psid ↔
      (HasParams cePrefix rule format → EaAgrees cePrefix rule psid) := by
  constructor
  · intro h hHas
    obtain ⟨result, hResult, -⟩ := hHas.exists_params
    exact (psid_eq_iff hPsid hResult).mp (h.used result hResult)
  · intro h
    constructor
    · intro result hResult
      exact (psid_eq_iff hPsid hResult).mpr (h (hasParams_of_ok hResult))
    · intro _ hHas hDiffers
      exact absurd (h hHas) hDiffers
    · intro _ hHas
      obtain ⟨result, hResult, -⟩ := hHas.exists_params
      exact ⟨result, hResult, (psid_eq_iff hPsid hResult).mpr (h hHas)⟩

/-- The option is never looked at, so its PSID is in use exactly if the EA bits hold it too. -/
theorem provisionedPsid_iff (h : parseS46Rule payload brAddr = pure rule)
    (hOption : provisioned payload = some params) :
    UsesProvisioned cePrefix rule format params.provisionedPsid ↔
      (HasParams cePrefix rule format → EaAgrees cePrefix rule params.provisionedPsid) := by
  have hk : rule.k = params.psidLength.toNat := by
    rw [MapRule.k, parseS46Rule_portParams h, hOption]
    rfl
  apply usesProvisioned_iff_agrees
  intro i hi
  rw [getLsbD_provisionedPsid]
  exact BitVec.getLsbD_of_ge _ _ (by omega)

end Agreement

/-- The EA bits of `2001:db8:1234::/48` and the option hold the same PSID. -/
def agreeingRule : RuleLayout := ⟨{ slash24 with portParams := some ⟨4, 8, 0x3400⟩ }, [], []⟩

theorem provisionedPsid_agreeing :
    UsesProvisioned ⟨0x20010db8123400000000000000000000, 48, by decide⟩
      (agreeingRule.rule.mapRule 1) .rfc7597 0x34 :=
  (provisionedPsid_iff (agreeingRule.parse_encode 1) agreeingRule.provisioned_encode).mpr
    fun _ => by decide +kernel

/-- All of the IPv4 address is in the rule, and the PSID is in the option only. -/
def explicitRule : RuleLayout :=
  { rule :=
      { flags := 1
        eaLength := 0
        ipv4Prefix := testHost
        ipv6Prefix := nestedPrefix
        portParams := some ⟨4, 8, 0x3400⟩
        ipv4_truncated := testHost_truncated
        ipv6_truncated := by unfold Truncated; decide }
    before := []
    after := [] }

/-- The parameters are computed with PSID zero. -/
theorem provisionedPsid_ignored : ∃ payload rule params result,
    parseS46Rule payload 1 = pure rule ∧ provisioned payload = some params ∧
      params.psidOffset = 4 ∧ params.psidLength = 8 ∧ params.provisionedPsid = 0x34 ∧
      computeMapeParams ⟨0x20010db8123400000000000000000000, 48, by decide⟩ rule .rfc7597 =
        some (.ok result) ∧ result.psid = 0 := by
  have hHas : HasParams ⟨0x20010db8123400000000000000000000, 48, by decide⟩
      (explicitRule.rule.mapRule 1) .rfc7597 := by decide +kernel
  obtain ⟨result, hResult, -, hPsid⟩ := hHas.exists_params
  refine ⟨explicitRule.encode, _, _, result, explicitRule.parse_encode 1,
    explicitRule.provisioned_encode, rfl, rfl, by decide, hResult, ?_⟩
  apply BitVec.eq_of_getLsbD_eq
  intro i _
  rw [hPsid, eaBit]
  simp [MapRule.ea, explicitRule, S46Rule.mapRule]

end Mapecd
