import Mapecd.Dhcpv6.Outputs
import Mapecd.Dhcpv6.ServerIdentity

/-! The prefix in the messages about a lease. -/
namespace Mapecd

open Checked Runs

namespace Message

/-- An IA_PD with this id has this prefix among its options. -/
def Names (msg : Message) (iaid : U32) (cePrefix : Ipv6Net) : Prop :=
  ∃ iaPd, .iaPd iaPd ∈ msg.opts ∧ iaPd.id = iaid ∧
    ∃ iaPrefix, .iaPrefix iaPrefix ∈ iaPd.opts ∧ buildIaPrefix iaPrefix = some cePrefix

/-- Renew, Rebind and Release. -/
def AboutLease (msg : Message) : Prop :=
  msg.msgType = .renew ∨ msg.msgType = .rebind ∨ msg.msgType = .release

instance (msg : Message) : Decidable msg.AboutLease := inferInstanceAs (Decidable (_ ∨ _))

end Message

namespace ClientLog

/-- The lease of the last accepted Reply. -/
def lease (log : ClientLog) : Option LeaseInfo :=
  (log.filterMap fun
    | (_, .accepted _ lease) => some lease
    | _ => none).getLast?

theorem lease_append (log : ClientLog) (time : Instant) (output : ClientOutput) :
    lease (log ++ [(time, output)]) =
      match output with
      | .accepted _ lease => some lease
      | _ => lease log := by
  cases output <;> simp [lease]

end ClientLog

/-- A message about a lease names the prefix of the lease that is held. -/
def NamesLease (iaid : U32) (log : ClientLog) (output : ClientOutput) : Prop :=
  ∀ msg dst, output = .sent msg dst → msg.AboutLease →
    ∀ lease ∈ ClientLog.lease log, msg.Names iaid lease.cePrefix

variable {client : Client} {iaid : U32} {cePrefix : Ipv6Net}

/-- What is kept for the Release has lost its prefix. -/
theorem processReply_opts {codec : Codec} {data serverDuid : List U8} {lease : LeaseInfo}
    (h : processReply codec data iaid serverDuid = some (.ok lease)) :
    lease.iaPdForRelease.opts = [] := by
  unfold processReply at h
  split at h
  · cases h
  · split_ifs at h
    · cases h
    · split at h
      · cases h
      · obtain ⟨rules, -, hLease⟩ := Option.bind_eq_some_iff.mp h
        cases hLease
        rfl

/-- An IA_PD without options names no prefix, wherever it stands. -/
theorem not_names {msg : Message} (h : ∀ iaPd, .iaPd iaPd ∈ msg.opts → iaPd.opts = []) :
    ¬ msg.Names iaid cePrefix := by
  rintro ⟨iaPd, hMem, -, iaPrefix, hPrefix, -⟩
  rw [h iaPd hMem] at hPrefix
  cases hPrefix

/-- A message about a lease follows a lease and names no prefix at all. -/
def NamesNothing (log : ClientLog) (output : ClientOutput) : Prop :=
  ∀ msg dst, output = .sent msg dst → msg.AboutLease →
    (ClientLog.lease log).isSome ∧ ∀ iaid cePrefix, ¬ msg.Names iaid cePrefix

/-- The leases of a loop have empty IA_PDs. -/
structure Unnamed (log : ClientLog) (loop : RenewalLoop) : Prop where
  held : (ClientLog.lease log).isSome
  lease : loop.lease.iaPdForRelease.opts = []
  first : loop.first.iaPdForRelease.opts = []

/-- Every message about a lease carries an IA_PD without a prefix. -/
theorem outputs_name_nothing (client : Client) : Outputs client NamesNothing Unnamed where
  sent log time msg dst loop h := by
    refine ⟨?_, h.lease, h.first⟩
    rw [ClientLog.lease_append]
    exact h.held
  expired log := by rintro msg dst ⟨⟩
  solicit log xid := by
    rintro msg dst ⟨⟩ hAbout
    simp [Message.AboutLease, buildSolicit] at hAbout
  request log serverDuid iaPd xid := by
    rintro msg dst ⟨⟩ hAbout
    simp [Message.AboutLease, buildRequest] at hAbout
  renew log loop xid h := by
    rintro msg dst ⟨⟩ -
    exact ⟨h.held, fun iaid cePrefix => not_names (by simp [buildRenew, buildOro, h.lease])⟩
  rebind log loop xid h := by
    rintro msg dst ⟨⟩ -
    exact ⟨h.held, fun iaid cePrefix => not_names (by simp [buildRebind, buildOro, h.lease])⟩
  release log loop xid h := by
    rintro msg dst ⟨⟩ -
    exact ⟨h.held, fun iaid cePrefix => not_names (by simp [buildRelease, h.first])⟩
  granted log time reply data serverDuid lease _ hProcess := by
    refine ⟨by rintro msg dst ⟨⟩, by rintro msg dst ⟨⟩, ?_⟩
    rintro loop rfl hLease
    refine ⟨?_, by rw [hLease, processReply_opts hProcess], processReply_opts hProcess⟩
    simp only [ClientLog.lease_append, Option.isSome_some]
  renewed log time loop reply data lease h _ hProcess := by
    refine ⟨by rintro msg dst ⟨⟩, by rintro msg dst ⟨⟩, ?_⟩
    intro next hFirst hLease
    refine ⟨?_, by rw [hLease, processReply_opts hProcess], by rw [hFirst, h.first]⟩
    simp only [ClientLog.lease_append, Option.isSome_some]

/-- In no run is there a Renew, Rebind or Release that names the prefix of the lease:
the messages name the prefix exactly in the runs without such a message. -/
theorem run_names_leases_iff {Allowed : ClientState → ClientInput → Prop} {now : Instant}
    {first : ClientInput} {inputs : List ClientInput} {finish : ClientState}
    (run : Run client.resume Allowed (client.start now first) inputs finish) :
    (LogOf (NamesLease client.iaid) finish.log ↔
      ∀ time msg dst, (time, .sent msg dst) ∈ finish.log → ¬ msg.AboutLease) ∧
    ∀ time msg dst, (time, .sent msg dst) ∈ finish.log → msg.AboutLease →
      ∀ iaid cePrefix, ¬ msg.Names iaid cePrefix := by
  have hLog : LogOf NamesNothing finish.log := ((outputs_name_nothing client).run_putOut run).log
  refine ⟨⟨?_, ?_⟩, ?_⟩
  · intro hNames time msg dst hMem hAbout
    obtain ⟨before, after, hSplit⟩ := List.mem_iff_append.mp hMem
    obtain ⟨hHeld, hNot⟩ := hLog before time _ after hSplit msg dst rfl hAbout
    obtain ⟨lease, hLease⟩ := Option.isSome_iff_exists.mp hHeld
    exact hNot _ _ (hNames before time _ after hSplit msg dst rfl hAbout lease hLease)
  · rintro hNone before time output after hSplit msg dst rfl hAbout
    have hMem : (time, .sent msg dst) ∈ finish.log := by
      rw [hSplit]
      exact List.mem_append_right _ List.mem_cons_self
    exact absurd hAbout (hNone time msg dst hMem)
  · intro time msg dst hMem hAbout
    obtain ⟨before, after, hSplit⟩ := List.mem_iff_append.mp hMem
    exact (hLog before time _ after hSplit msg dst rfl hAbout).2

section Examples

/-- A lease that is released before its T1. -/
def releasedLease : List ClientInput :=
  [receivedAt 1 (serverMessage .advertise [1]), receivedAt 1 (serverMessage .reply [1]),
    inputAt 2 .cancelled]

/-- The example ends with a Release that names no prefix. -/
theorem runAll_releasedLease :
    (runAll (guarded testClient.resume Timely) releasedLease
      (testClient.start second (inputAt 1 .timeout))).map (fun state =>
        ((ClientLog.lease state.log.dropLast).isSome, state.log.getLast?)) =
      some (true, some (2 * second,
        .sent (buildRelease testClient.duid [1] { testIaPd with opts := [] } 0x123456)
          .allDhcpRelayAgents)) := by
  decide +kernel

theorem run_names_leases_released :
    ∃ finish, Run testClient.resume Timely (testClient.start second (inputAt 1 .timeout))
        releasedLease finish ∧
      (LogOf (NamesLease testClient.iaid) finish.log ↔
        ∀ time msg dst, (time, .sent msg dst) ∈ finish.log → ¬ msg.AboutLease) := by
  obtain ⟨finish, hFinish, -⟩ := Option.map_eq_some_iff.mp runAll_releasedLease
  have run := Run.of_runAll hFinish
  exact ⟨finish, run, (run_names_leases_iff run).1⟩

/-- The Release of a lease names no prefix. -/
theorem run_release_unnamed :
    ∃ finish, Run testClient.resume Timely (testClient.start second (inputAt 1 .timeout))
        releasedLease finish ∧ ¬ LogOf (NamesLease testClient.iaid) finish.log := by
  obtain ⟨finish, hFinish, hLog⟩ := Option.map_eq_some_iff.mp runAll_releasedLease
  obtain ⟨hHeld, hLast⟩ := Prod.mk.inj hLog
  refine ⟨finish, Run.of_runAll hFinish, fun hNames => ?_⟩
  obtain ⟨lease, hLease⟩ := Option.isSome_iff_exists.mp hHeld
  have hNamed := hNames.last hLast _ _ rfl (.inr (.inr rfl)) lease hLease
  exact not_names (by simp [buildRelease]) hNamed

end Examples

end Mapecd
