import Mapecd.Daemon.State
import Mapecd.Map.AddressMapping
import Mapecd.Map.HasParams
import Mapecd.Semantics.Selection

/-! Which of several matching rules is recorded. -/
namespace Mapecd

open Effects Checked Selection

/-- The parameters that `tryCompute` records when it returns `true`. -/
def recorded (format : CeFormat) (w : DaemonWorld) : Option MapeParams :=
  match tryCompute format w with
  | .ok true w' => w'.state.params
  | _ => none

variable {cePrefix : Ipv6Net} {format : CeFormat} {rule : MapRule} {rules : List MapRule}
  {params : MapeParams}

/-- The rule contains the prefix and parameters are computed from it. -/
def MapRule.Matches (cePrefix : Ipv6Net) (format : CeFormat) (rule : MapRule) : Prop :=
  rule.ipv6Prefix.Contains cePrefix.addr ∧
    ∃ params, computeMapeParams cePrefix rule format = some (.ok params)

/-- The rule to select: the first of the longest matching ones. -/
abbrev LongestMatch (cePrefix : Ipv6Net) (format : CeFormat) (rules : List MapRule)
    (rule : MapRule) : Prop :=
  FirstMax (MapRule.Matches cePrefix format) MapRule.r rules rule

/-- `Matches` without the computation. -/
def MapRule.Eligible (cePrefix : Ipv6Net) (format : CeFormat) (rule : MapRule) : Prop :=
  rule.ipv6Prefix.Contains cePrefix.addr ∧ HasParams cePrefix rule format

instance : Decidable (rule.Eligible cePrefix format) := inferInstanceAs (Decidable (_ ∧ _))

theorem MapRule.eligible_iff : rule.Eligible cePrefix format ↔ rule.Matches cePrefix format :=
  and_congr_right fun _ => hasParams_iff

/-- The loop goes on to the next rule. -/
def MapRule.PassedOver (cePrefix : Ipv6Net) (rule : MapRule) : Prop :=
  ¬ rule.ipv6Prefix.Contains cePrefix.addr ∨ cePrefix.prefixLen.toNat ≠ rule.ceLen

instance : Decidable (rule.PassedOver cePrefix) := inferInstanceAs (Decidable (_ ∨ _))

/-- No rule behind the first eligible one is eligible and longer. A rule that is
neither eligible nor passed over makes the loop panic. -/
def LongestFirst (cePrefix : Ipv6Net) (format : CeFormat) : List MapRule → Prop
  | [] => True
  | rule :: rest =>
      if rule.PassedOver cePrefix then LongestFirst cePrefix format rest
      else rule.Eligible cePrefix format →
        ∀ other ∈ rest, other.Eligible cePrefix format → other.r ≤ rule.r

instance decidableLongestFirst (cePrefix : Ipv6Net) (format : CeFormat) :
    (rules : List MapRule) → Decidable (LongestFirst cePrefix format rules)
  | [] => isTrue trivial
  | rule :: rest =>
      have := decidableLongestFirst cePrefix format rest
      inferInstanceAs (Decidable (if rule.PassedOver cePrefix then _ else _))

section Loop

theorem MapRule.PassedOver.not_matches (h : rule.PassedOver cePrefix) :
    ¬ rule.Matches cePrefix format := by
  intro ⟨hContains, params, hParams⟩
  cases h with
  | inl hOutside => exact hOutside hContains
  | inr hLen => exact hLen (hasParams_of_ok hParams).len

/-- A rule is passed over before the rest is looked at. -/
theorem firstMatch_passedOver (h : rule.PassedOver cePrefix) (rest : List MapRule) :
    firstMatch cePrefix format (rule :: rest) = firstMatch cePrefix format rest := by
  rw [firstMatch]
  split_ifs with hContains
  · have hLen := h.resolve_left (not_not.mpr hContains)
    rw [computeMapeParams_mismatch hLen]
    rfl
  · rfl

/-- With the right length the computation does not fail. -/
theorem computeMapeParams_not_error {e : MapEError}
    (h : cePrefix.prefixLen.toNat = rule.ceLen) :
    computeMapeParams cePrefix rule format ≠ some (.error e) := by
  intro hError
  simp only [computeMapeParams, Option.bind_eq_bind, Option.bind_eq_some_iff] at hError
  obtain ⟨extracted, hExtract, hError⟩ := hError
  obtain ⟨eaBits, hSome, -⟩ := extractEaBits_eq h (ea_lt_of_extractEaBits h hExtract)
  cases Option.some.inj (hSome.symm.trans hExtract)
  simp only [Option.bind_eq_some_iff] at hError
  obtain ⟨derived, -, addr, -, ranges, -, hError⟩ := hError
  cases hError

/-- A rule that is not passed over decides, whatever follows. -/
theorem firstMatch_decided (h : ¬ rule.PassedOver cePrefix) (rest : List MapRule) :
    firstMatch cePrefix format (rule :: rest) = some (.ok params) ↔
      computeMapeParams cePrefix rule format = some (.ok params) := by
  obtain ⟨hContains, hLen⟩ := not_or.mp h
  rw [firstMatch, if_pos (not_not.mp hContains)]
  cases hResult : computeMapeParams cePrefix rule format with
  | none => rfl
  | some result =>
      cases result with
      | error e => exact absurd hResult (computeMapeParams_not_error (not_not.mp hLen))
      | ok computed => rfl

/-- The loop finds the longest rule exactly if it is the first. -/
theorem firstMatch_longest_iff :
    (∀ params, firstMatch cePrefix format rules = some (.ok params) →
        LongestMatch cePrefix format rules params.rule) ↔
      LongestFirst cePrefix format rules := by
  induction rules with
  | nil => exact iff_of_true (fun _ h => by cases h) trivial
  | cons rule rest ih =>
      rw [LongestFirst]
      by_cases hPassed : rule.PassedOver cePrefix
      · simp only [if_pos hPassed, firstMatch_passedOver hPassed, LongestMatch,
          firstMax_cons_of_not hPassed.not_matches]
        exact ih
      · simp only [if_neg hPassed, firstMatch_decided hPassed]
        constructor
        · intro h hEligible other hOther hMatches
          obtain ⟨params, hParams⟩ := hasParams_iff.mp hEligible.2
          have hLongest := h params hParams
          rw [(ok_spec hParams).1] at hLongest
          exact hLongest.le (List.mem_cons_of_mem rule hOther) (MapRule.eligible_iff.mp hMatches)
        · intro h params hParams
          have hContains := not_not.mp (not_or.mp hPassed).1
          rw [(ok_spec hParams).1, LongestMatch, firstMax_head_iff ⟨hContains, params, hParams⟩]
          intro other hOther hMatches
          exact h ⟨hContains, hasParams_of_ok hParams⟩ other hOther
            (MapRule.eligible_iff.mpr hMatches)

end Loop

section Recorded

variable {w : DaemonWorld}

/-- What is recorded is what was computed. -/
theorem recorded_eq_some_iff :
    recorded format w = some params ↔ w.state.compute format = some (.ok (some params)) := by
  have hBind (f : DaemonState → DaemonM Bool) : (getState >>= f) w = f w.state w := rfl
  rw [recorded, tryCompute, hBind]
  cases w.state.compute format with
  | none => exact iff_of_false nofun nofun
  | some result =>
      cases result with
      | error e => exact iff_of_false nofun nofun
      | ok result =>
          cases result with
          | none => exact iff_of_false nofun nofun
          | some computed =>
              change some computed = some params ↔ _
              simp
/-- With both inputs there, the loop decides what is recorded. -/
theorem recorded_iff (hRules : w.state.pendingMapRules = some rules)
    (hIaPd : w.state.pendingIaPd = some cePrefix) :
    recorded format w = some params ↔ firstMatch cePrefix format rules = some (.ok params) := by
  rw [recorded_eq_some_iff, DaemonState.compute_ok_iff, hRules, hIaPd]
  simp only [Option.some.injEq, exists_and_left, exists_eq_left']

/-- What is recorded comes from the first of the longest matching rules exactly if
it is the first of the list, and then the order of the list does not matter. -/
theorem tryCompute_longest_iff (hRules : w.state.pendingMapRules = some rules)
    (hIaPd : w.state.pendingIaPd = some cePrefix) :
    ((∀ params, recorded format w = some params →
        LongestMatch cePrefix format rules params.rule) ↔ LongestFirst cePrefix format rules) ∧
      (LongestFirst cePrefix format rules →
        Set.InjOn MapRule.r {rule | rule ∈ rules ∧ rule.Matches cePrefix format} →
        ∀ (w' : DaemonWorld) (rules' : List MapRule), w'.state.pendingMapRules = some rules' →
          w'.state.pendingIaPd = some cePrefix → rules.Perm rules' →
          LongestFirst cePrefix format rules' →
          ∀ params params', recorded format w = some params → recorded format w' = some params' →
            params = params') := by
  constructor
  · simp only [recorded_iff hRules hIaPd]
    exact firstMatch_longest_iff
  · intro hFirst hInj w' rules' hRules' hIaPd' hPerm hFirst' params params' hParams hParams'
    rw [recorded_iff hRules hIaPd] at hParams
    rw [recorded_iff hRules' hIaPd'] at hParams'
    have hLongest := firstMatch_longest_iff.mpr hFirst params hParams
    have hLongest' := firstMatch_longest_iff.mpr hFirst' params' hParams'
    have hRule := FirstMax.eq_of_perm hInj hPerm hLongest hLongest'
    obtain ⟨-, -, hComputed⟩ := firstMatch_ok_spec hParams
    obtain ⟨-, -, hComputed'⟩ := firstMatch_ok_spec hParams'
    rw [hRule] at hComputed
    exact Except.ok.inj (Option.some.inj (hComputed.symm.trans hComputed'))

/-- A rule for a part of that rule's prefix, `2001:db8:1200::/40`. -/
def nestedRule : MapRule :=
  { testRule with
    ipv6Prefix := ⟨0x20010db8120000000000000000000000, 40, by decide⟩
    ipv4Prefix := { testHost with addr := 0xc0000263 }
    eaLength := 8 }

def receivedWorld (rules : List MapRule) : DaemonWorld :=
  { sys := Kernel.idle "eth0"
    state := { DaemonState.new with pendingMapRules := some rules, pendingIaPd := some nestedPrefix }
    faults := noFaults, issued := 0, history := [] }

theorem tryCompute_longest_nested :
    LongestFirst nestedPrefix .rfc7597 [nestedRule, testRule] ∧
      ∀ params, recorded .rfc7597 (receivedWorld [nestedRule, testRule]) = some params →
        LongestMatch nestedPrefix .rfc7597 [nestedRule, testRule] params.rule := by
  have hFirst : LongestFirst nestedPrefix .rfc7597 [nestedRule, testRule] := by decide +kernel
  exact ⟨hFirst, (tryCompute_longest_iff rfl rfl).1.mpr hFirst⟩

/-- The shorter rule is recorded if it comes first, so the order decides. -/
theorem tryCompute_shorter :
    ∃ params params', recorded .rfc7597 (receivedWorld [testRule, nestedRule]) = some params ∧
      ¬ LongestMatch nestedPrefix .rfc7597 [testRule, nestedRule] params.rule ∧
      recorded .rfc7597 (receivedWorld [nestedRule, testRule]) = some params' ∧
      params.rule ≠ params'.rule := by
  have hTest : testRule.Eligible nestedPrefix .rfc7597 := by decide +kernel
  have hNested : nestedRule.Eligible nestedPrefix .rfc7597 := by decide +kernel
  obtain ⟨params, hParams, hRule, -⟩ := hTest.2.exists_params
  obtain ⟨params', hParams', hRule', -⟩ := hNested.2.exists_params
  refine ⟨params, params', ?_, ?_, ?_, ?_⟩
  · exact (recorded_iff rfl rfl).mpr ((firstMatch_decided (by decide +kernel) _).mpr hParams)
  · rw [hRule]
    intro hLongest
    have hLe := hLongest.le (y := nestedRule) (by simp) (MapRule.eligible_iff.mp hNested)
    exact absurd hLe (by decide)
  · exact (recorded_iff rfl rfl).mpr ((firstMatch_decided (by decide +kernel) _).mpr hParams')
  · rw [hRule, hRule']
    decide +kernel

end Recorded

end Mapecd
