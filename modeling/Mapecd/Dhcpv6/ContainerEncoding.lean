import Mapecd.Dhcpv6.RuleEncoding

/-! Containers in the layout that the parser documents: both prefixes take as
many bytes as their lengths need, and the options stand in any order. -/
namespace Mapecd

open Checked Bytes Prefix

def encodeOptions (options : List (U16 × List U8)) : List U8 :=
  options.flatMap fun option => encodeOption option.1 option.2

/-- A sequence of options is read back as it was written. -/
theorem iterOpts_encodeOptions {options : List (U16 × List U8)}
    (h : ∀ option ∈ options, option.2.length < 2 ^ 16) :
    iterOpts (encodeOptions options) = options := by
  induction options with
  | nil => exact iterOpts_nil
  | cons option options ih =>
      have hFirst : encodeOptions (option :: options) =
          encodeOption option.1 option.2 ++ encodeOptions options := rfl
      rw [hFirst, iterOpts_encodeOption _ _ _ (h option List.mem_cons_self),
        ih fun other hOther => h other (List.mem_cons_of_mem _ hOther)]

/-- An option that a parser of the known codes does not read. -/
structure ForeignOption (known : List U16) where
  code : U16
  data : List U8
  foreign : code ∉ known
  length_lt : data.length < 2 ^ 16

def ForeignOption.option {known : List U16} (foreign : ForeignOption known) : U16 × List U8 :=
  (foreign.code, foreign.data)

section SubOptions

/-- Sub-options of `OPTION_S46_RULE` other than the port parameters. -/
abbrev RuleExtra := ForeignOption [optS46Portparams]

/-- A scan for the port parameters passes over the other sub-options. -/
theorem scan_foreign {β : Type} {scan : β → U16 × List U8 → β}
    (hSkip : ∀ found code data, code ≠ optS46Portparams → scan found (code, data) = found)
    (extras : List RuleExtra) (found : β) :
    (extras.map ForeignOption.option).foldl scan found = found := by
  induction extras generalizing found with
  | nil => rfl
  | cons extra extras ih =>
      have hCode : extra.code ≠ optS46Portparams := fun hEq => extra.foreign (by simp [hEq])
      rw [List.map_cons, List.foldl_cons, ForeignOption.option, hSkip _ _ _ hCode, ih]

theorem scanPortParams_ne (params : PortParams) (code : U16) (data : List U8)
    (h : code ≠ optS46Portparams) : scanPortParams params (code, data) = params := by
  unfold scanPortParams
  split
  · rename_i hOption
    exact if_neg fun hEq => h ((congrArg Prod.fst hOption).trans hEq)
  · rfl

end SubOptions

/-- A rule with further sub-options around its port parameters. -/
structure RuleLayout where
  rule : S46Rule
  before : List RuleExtra
  after : List RuleExtra

namespace RuleLayout

variable (layout : RuleLayout) (brAddr : Ipv6Addr)

def portParamsOption : List (U16 × List U8) :=
  match layout.rule.portParams with
  | some params =>
      [(optS46Portparams, params.psidOffset :: params.psidLength :: toBe 2 params.psid)]
  | none => []

def subOptions : List (U16 × List U8) :=
  layout.before.map ForeignOption.option ++ layout.portParamsOption ++
    layout.after.map ForeignOption.option

def ipv4Bytes : List U8 :=
  (toBe 4 layout.rule.ipv4Prefix.addr).take ((layout.rule.ipv4Prefix.prefixLen.toNat + 7) / 8)

def encode : List U8 :=
  layout.rule.flags :: layout.rule.eaLength :: layout.rule.ipv4Prefix.prefixLen ::
    (layout.ipv4Bytes ++ layout.rule.ipv6Prefix.prefixLen ::
      (layout.rule.ipv6Bytes ++ encodeOptions layout.subOptions))

/-- Options that fit their length field, as the encoding needs it. -/
theorem length_subOptions : ∀ option ∈ layout.subOptions, option.2.length < 2 ^ 16 := by
  intro option hOption
  simp only [subOptions, List.mem_append, List.mem_map] at hOption
  rcases hOption with (⟨extra, -, rfl⟩ | hParams) | ⟨extra, -, rfl⟩
  · exact extra.length_lt
  · unfold portParamsOption at hParams
    split at hParams
    · rw [List.mem_singleton.mp hParams]
      simp
    · cases hParams
  · exact extra.length_lt

/-- The port parameters of the rule are the last ones among its sub-options. -/
theorem scan_subOptions :
    (iterOpts (encodeOptions layout.subOptions)).foldl scanPortParams .default =
      layout.rule.givenPortParams := by
  rw [iterOpts_encodeOptions layout.length_subOptions, subOptions, List.foldl_append,
    List.foldl_append, scan_foreign scanPortParams_ne, scan_foreign scanPortParams_ne]
  unfold portParamsOption S46Rule.givenPortParams
  cases layout.rule.portParams with
  | none => rfl
  | some params => rfl

/-- As many bytes as the parser expects, which it fills up with zeros. -/
theorem ipv4Bytes_spec :
    layout.ipv4Bytes.length = (layout.rule.ipv4Prefix.prefixLen.toNat + 7) / 8 ∧
      ofBe 32 (layout.ipv4Bytes ++ List.replicate (4 - layout.ipv4Bytes.length) 0) =
        layout.rule.ipv4Prefix.addr := by
  obtain ⟨raw, hRaw, hLength, -, hRead⟩ :=
    ofBe_prefix 4 layout.rule.ipv4Prefix.prefixLen_le layout.rule.ipv4_truncated
  subst hRaw
  exact ⟨hLength, hRead⟩

/-- A rule of any shape is read back. -/
theorem parse_encode : parseS46Rule layout.encode brAddr = pure (layout.rule.mapRule brAddr) := by
  obtain ⟨hLength4, hRead4⟩ := layout.ipv4Bytes_spec
  obtain ⟨hLength6, hRead6⟩ := layout.rule.ipv6Bytes_spec
  have h4 : Ipv4Net.trunc ⟨layout.rule.ipv4Prefix.addr, layout.rule.ipv4Prefix.prefixLen,
      layout.rule.ipv4Prefix.prefixLen_le⟩ = layout.rule.ipv4Prefix :=
    Ipv4Net.trunc_eq layout.rule.ipv4_truncated
  have h6 : Ipv6Net.trunc ⟨layout.rule.ipv6Prefix.addr, layout.rule.ipv6Prefix.prefixLen,
      layout.rule.ipv6Prefix.prefixLen_le⟩ = layout.rule.ipv6Prefix :=
    Ipv6Net.trunc_eq layout.rule.ipv6_truncated
  rw [encode, parseS46Rule_eq brAddr layout.rule.ipv4Prefix.prefixLen_le
    layout.rule.ipv6Prefix.prefixLen_le hLength4 hLength6]
  simp only [hRead4, hRead6, h4, h6, layout.scan_subOptions, layout.rule.isFmr_eq, S46Rule.mapRule]

/-- Without further sub-options a rule always fits in an option. -/
theorem length_encode_plain (rule : S46Rule) :
    (RuleLayout.mk rule [] []).encode.length < 2 ^ 16 := by
  have hOptions : (encodeOptions (RuleLayout.mk rule [] []).subOptions).length ≤ 8 := by
    unfold subOptions portParamsOption
    cases rule.portParams with
    | none => simp [encodeOptions]
    | some params => simp [encodeOptions, encodeOption]
  have hBytes4 := (RuleLayout.mk rule [] []).ipv4Bytes_spec.1
  have hBytes6 := rule.ipv6Bytes_spec.1
  have hLen4 := rule.ipv4Prefix.prefixLen_le
  have hLen6 := rule.ipv6Prefix.prefixLen_le
  simp only [encode, List.length_cons, List.length_append]
  omega

end RuleLayout

/-- An option of the container other than the BR. -/
inductive ContainerOption where
  | rule (layout : RuleLayout) (length_lt : layout.encode.length < 2 ^ 16)
  | other (foreign : ForeignOption [optS46Rule, optS46Br])

namespace ContainerOption

/-- A rule with its port parameters, if there are any, and nothing more. -/
def plain (rule : S46Rule) : ContainerOption := .rule ⟨rule, [], []⟩ (RuleLayout.length_encode_plain rule)

def option : ContainerOption → U16 × List U8
  | rule layout _ => (optS46Rule, layout.encode)
  | other foreign => foreign.option

def layout? : ContainerOption → Option RuleLayout
  | rule layout _ => some layout
  | other _ => none

theorem length_lt (item : ContainerOption) : item.option.2.length < 2 ^ 16 := by
  cases item with
  | rule layout length_lt => exact length_lt
  | other foreign => exact foreign.length_lt

end ContainerOption

/-- The rules of a container in their order. -/
def rulesOf (items : List ContainerOption) : List RuleLayout := items.filterMap ContainerOption.layout?

section Container

variable (brAddr : Ipv6Addr) (before after items : List ContainerOption)

def brOption : U16 × List U8 := (optS46Br, toBe 16 brAddr)

/-- A container with the BR between two parts, both of which can be empty. -/
def containerWithBr : List U8 :=
  encodeOptions (before.map ContainerOption.option ++ brOption brAddr ::
    after.map ContainerOption.option)

def containerWithoutBr : List U8 := encodeOptions (items.map ContainerOption.option)

/-- Without the BR the scan collects the rules and nothing else. -/
theorem scan_items (scan : ContainerScan) :
    (items.map ContainerOption.option).foldl ContainerScan.push scan =
      { scan with rulePayloads := scan.rulePayloads ++ (rulesOf items).map RuleLayout.encode } := by
  induction items generalizing scan with
  | nil => simp [rulesOf]
  | cons item items ih =>
      rw [List.map_cons, List.foldl_cons, ih]
      cases item with
      | rule layout length_lt =>
          simp [ContainerScan.push, ContainerOption.option, rulesOf, ContainerOption.layout?,
            optS46Rule, optS46Br]
      | other foreign =>
          have hRule : foreign.code ≠ optS46Rule := fun h => foreign.foreign (by simp [h])
          have hBr : foreign.code ≠ optS46Br := fun h => foreign.foreign (by simp [h])
          simp [ContainerScan.push, ContainerOption.option, ForeignOption.option, rulesOf,
            ContainerOption.layout?, List.filterMap_cons, hRule, hBr]

theorem scan_br (scan : ContainerScan) (h : scan.brAddr = none) :
    scan.push (brOption brAddr) = { scan with brAddr := some brAddr } := by
  have hFull : (toBe 16 brAddr).take 16 = toBe 16 brAddr :=
    List.take_of_length_le (Nat.le_of_eq (length_toBe 16 brAddr))
  have hParse : parseS46Br (toBe 16 brAddr) = some brAddr := by
    rw [parseS46Br, if_neg (by rw [length_toBe]; decide), hFull, ofBe_toBe 16 brAddr (by decide)]
  simp [ContainerScan.push, brOption, h, hParse]

/-- Each payload is parsed to its rule, in the order of the container. -/
theorem mapM_layouts (layouts : List RuleLayout) :
    ((layouts.map RuleLayout.encode).mapM fun payload => parseS46Rule payload brAddr) =
      pure (layouts.map fun layout => layout.rule.mapRule brAddr) := by
  induction layouts with
  | nil => rfl
  | cons layout layouts ih =>
      rw [List.map_cons, List.mapM_cons, layout.parse_encode, ih]
      rfl

theorem rulesOf_plain (rules : List S46Rule) :
    (rulesOf (rules.map ContainerOption.plain)).map RuleLayout.rule = rules := by
  simp [rulesOf, List.filterMap_map, Function.comp_def, ContainerOption.plain, ContainerOption.layout?]

/-- All rules are recovered in order, wherever the BR stands and whatever else is in
the container and in its rules. Without the BR there is none. -/
theorem parseS46ContMape_recovers :
    parseS46ContMape (containerWithBr brAddr before after) =
        pure ((rulesOf (before ++ after)).map fun layout => layout.rule.mapRule brAddr) ∧
      parseS46ContMape (containerWithoutBr (before ++ after)) = throw .missingBrAddress := by
  have hLength (items : List ContainerOption) :
      ∀ option ∈ items.map ContainerOption.option, option.2.length < 2 ^ 16 := by
    intro option hOption
    obtain ⟨item, -, rfl⟩ := List.mem_map.mp hOption
    exact item.length_lt
  constructor
  · have hOptions : ∀ option ∈ before.map ContainerOption.option ++ brOption brAddr ::
        after.map ContainerOption.option, option.2.length < 2 ^ 16 := by
      intro option hOption
      rcases List.mem_append.mp hOption with hBefore | hRest
      · exact hLength before option hBefore
      · rcases List.mem_cons.mp hRest with rfl | hAfter
        · simp [brOption]
        · exact hLength after option hAfter
    have hScan : (before.map ContainerOption.option ++ brOption brAddr ::
        after.map ContainerOption.option).foldl ContainerScan.push ⟨none, []⟩ =
        ⟨some brAddr, (rulesOf (before ++ after)).map RuleLayout.encode⟩ := by
      rw [List.foldl_append, scan_items, List.foldl_cons, scan_br brAddr _ rfl, scan_items]
      simp [rulesOf]
    rw [parseS46ContMape, containerWithBr, iterOpts_encodeOptions hOptions, hScan]
    exact mapM_layouts brAddr _
  · rw [parseS46ContMape, containerWithoutBr, iterOpts_encodeOptions (hLength _), scan_items]

end Container

end Mapecd
