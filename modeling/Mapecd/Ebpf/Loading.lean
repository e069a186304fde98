import Mapecd.Daemon.Requests
import Mapecd.Ebpf.Manager

/-! What loading and attaching the BPF object leaves behind: the object with
both filters attached, or no object, whatever fails. -/
namespace Mapecd

open Effects Checked

/-- An error closes the object. -/
theorem wp_orDrop {α : Type} {id : Nat} {x : DaemonM α} {post : α → DaemonWorld → Prop}
    {stop : Failure MapEError → DaemonWorld → Prop} {w : DaemonWorld}
    (h : wp x post (fun f w' => match f with
      | .error e => stop (.error e) (w'.shift (w'.sys.dropBpf id))
      | .panic => stop .panic w') w) : wp (orDrop id x) post stop w := by
  unfold orDrop
  rw [wp_bind, wp_attempt]
  refine wp_mono h (fun _ _ hPost => hPost) ?_
  intro f w' hStop
  cases f with
  | error e => exact hStop
  | panic => exact hStop

namespace Kernel

/-- One object besides what `k` holds otherwise. -/
def withObject (k : Kernel) (obj : BpfObject) : Kernel :=
  k.withNextBpf (obj.id + 1) |>.withBpf [obj]

variable (id : Nat) (config : PsidConfig) (egress ingress : Option Nat)

theorem modifyBpf_withObject (f : BpfObject → BpfObject) (k : Kernel) :
    modifyBpf id f (k.withObject ⟨id, config, egress, ingress⟩) =
      (k.withNextBpf (id + 1)).withBpf [f ⟨id, config, egress, ingress⟩] := by
  unfold modifyBpf withObject
  rw [withBpf_bpf, List.map_singleton, if_pos rfl]
  rfl

theorem dropBpf_withObject (k : Kernel) :
    dropBpf id (k.withObject ⟨id, config, egress, ingress⟩) =
      (k.withNextBpf (id + 1)).withBpf [] := by
  unfold dropBpf withObject
  rw [withBpf_bpf, List.filter_cons_of_neg (by simp)]
  rfl

variable {id config egress ingress}

/-- Attaching finds the object that was just loaded, and needs the interface only. -/
theorem attachTc_withObject {k k' : Kernel} {attachType : TcAttachType} {name : String}
    {ifindex : Nat}
    (h : attachTc id attachType name (k.withObject ⟨id, config, egress, ingress⟩) =
      .ok (ifindex, k')) :
    k.linkIndex name = some ifindex ∧
      k' = k.withObject (BpfObject.attach ⟨id, config, egress, ingress⟩ attachType ifindex) := by
  unfold attachTc at h
  split at h
  · rename_i hIndex
    cases h
    refine ⟨hIndex, ?_⟩
    rw [modifyBpf_withObject, withObject, BpfObject.attach_id]
  · cases h

/-- Nothing but a missing interface refuses it. -/
theorem attachTc_error {k : Kernel} {obj : BpfObject} {attachType : TcAttachType} {name : String}
    {e : Errno} (h : attachTc id attachType name (k.withObject obj) = .error e) :
    k.linkIndex name = none := by
  unfold attachTc at h
  split at h
  · cases h
  · assumption

end Kernel

section Load

variable {stop : Failure MapEError → DaemonWorld → Prop} {w : DaemonWorld} {k : Kernel}
  {s : DaemonState} {f : Nat → Option Errno}

/-- Where the kernel holds no object yet, a load makes one with its configuration, or
fails at a fault and leaves none. -/
theorem wp_load {cfg : PsidConfig} {post : EbpfManager → DaemonWorld → Prop} (h : w.IsAt k s f)
    (hBpf : k.bpf = [])
    (hOk : ∀ w', w'.IsAt (k.withObject ⟨k.nextBpf, cfg, none, none⟩) s f →
      post ⟨k.nextBpf, none, none, none⟩ w')
    (hErr : f ≠ noFaults → ∀ e next w', w'.IsAt ((k.withNextBpf next).withBpf []) s f →
      stop (.error e) w') : wp (EbpfManager.load cfg) post stop w := by
  have hSame : k = (k.withNextBpf k.nextBpf).withBpf [] := by
    rw [← hBpf]
    rfl
  unfold EbpfManager.load EbpfManager.setConfigMap
  rw [wp_bind]
  apply wp_request h
  · intro e w₁ hWhy h₁
    rw [hSame] at h₁
    exact hErr (hWhy.resolve_right nofun) _ _ w₁ h₁
  · intro id k₁ w₁ hLoad h₁
    obtain ⟨rfl, hKernel⟩ : k.nextBpf = id ∧
        k.withObject ⟨k.nextBpf, .default, none, none⟩ = k₁ := by
      rw [Kernel.loadBpf, hBpf] at hLoad
      cases hLoad
      exact ⟨rfl, rfl⟩
    subst hKernel
    rw [wp_bind]
    apply wp_orDrop
    apply wp_request h₁
    · intro e w₂ hWhy h₂
      apply hErr (hWhy.resolve_right nofun) _ (k.nextBpf + 1)
      rw [h₂.sys, Kernel.dropBpf_withObject]
      exact h₂.shift _
    · intro _ k₂ w₂ hSet h₂
      apply hOk
      rw [Kernel.setConfigMap, Kernel.modifyBpf_withObject] at hSet
      cases hSet
      exact h₂

/-- The qdisc is not part of the state, and its error is ignored. -/
theorem wp_ignore_addClsact {interface : String} {toError : Option Errno → MapEError}
    {post : Unit → DaemonWorld → Prop} (h : w.IsAt k s f)
    (hDone : ∀ w', w'.IsAt k s f → post () w') :
    wp (ignore (request toError (Kernel.addClsact interface))) post stop w := by
  rw [ignore, wp_bind, wp_attempt]
  apply wp_request h fun _ w₁ _ h₁ => hDone w₁ h₁
  intro _ k₁ w₁ hAdd h₁
  unfold Kernel.addClsact at hAdd
  split_ifs at hAdd
  cases hAdd
  exact hDone w₁ h₁

/-- Both filters end up on the same link. -/
theorem wp_linkTc {manager : EbpfManager} {interface : String} {config : PsidConfig}
    {post : EbpfManager → DaemonWorld → Prop}
    (h : w.IsAt (k.withObject ⟨manager.id, config, none, none⟩) s f)
    (hOk : ∀ ifindex w', k.linkIndex interface = some ifindex →
      w'.IsAt (k.withObject ⟨manager.id, config, some ifindex, some ifindex⟩) s f →
      post ⟨manager.id, some interface, some ifindex, some ifindex⟩ w')
    (hErr : f ≠ noFaults ∨ k.linkIndex interface = none → ∀ e egress w',
      w'.IsAt (k.withObject ⟨manager.id, config, egress, none⟩) s f → stop (.error e) w') :
    wp (manager.linkTc interface) post stop w := by
  have hAttach {id : Nat} {obj : BpfObject} {attachType : TcAttachType} {e : Errno}
      (hWhy : f ≠ noFaults ∨
        Kernel.attachTc id attachType interface (k.withObject obj) = .error e) :
      f ≠ noFaults ∨ k.linkIndex interface = none :=
    hWhy.imp_right Kernel.attachTc_error
  unfold EbpfManager.linkTc
  rw [wp_bind]
  apply wp_ignore_addClsact h
  intro w₁ h₁
  simp only [wp_bind]
  apply wp_request h₁ fun e w₂ hWhy h₂ => hErr (hWhy.imp_right fun hLoad => by cases hLoad) _ none w₂ h₂
  rintro _ _ w₂ ⟨⟩ h₂
  apply wp_request h₂ fun e w₃ hWhy h₃ => hErr (hAttach hWhy) _ none w₃ h₃
  intro egress k₃ w₃ hEgress h₃
  obtain ⟨hIndex, rfl⟩ := Kernel.attachTc_withObject hEgress
  apply wp_request h₃ fun e w₄ hWhy h₄ => hErr (hWhy.imp_right fun hLoad => by cases hLoad) _ (some egress) w₄ h₄
  rintro _ _ w₄ ⟨⟩ h₄
  apply wp_request h₄ fun e w₅ hWhy h₅ => hErr (hAttach hWhy) _ (some egress) w₅ h₅
  intro ingress k₅ w₅ hIngress h₅
  obtain ⟨hIndex', rfl⟩ := Kernel.attachTc_withObject hIngress
  obtain rfl : egress = ingress := Option.some.inj (hIndex.symm.trans hIndex')
  exact hOk egress w₅ hIndex h₅

/-- Step 5.5 as a whole: a stored manager with its attached object, or nothing. -/
theorem wp_loadAndLink {interface : String} {cfg : PsidConfig}
    {post : EbpfManager → DaemonWorld → Prop} (h : w.IsAt k s f) (hBpf : k.bpf = [])
    (hOk : ∀ ifindex w', k.linkIndex interface = some ifindex →
      w'.IsAt (k.withObject ⟨k.nextBpf, cfg, some ifindex, some ifindex⟩) s f →
      post ⟨k.nextBpf, some interface, some ifindex, some ifindex⟩ w')
    (hErr : f ≠ noFaults ∨ k.linkIndex interface = none → ∀ e next w',
      w'.IsAt ((k.withNextBpf next).withBpf []) s f → stop (.error e) w') :
    wp (EbpfManager.load cfg)
      (fun ebpf w' => wp (orDrop ebpf.id (ebpf.linkTc interface)) post stop w') stop w := by
  apply wp_load h hBpf _ fun hWhy => hErr (Or.inl hWhy)
  intro w₁ h₁
  apply wp_orDrop
  apply wp_linkTc h₁ hOk
  intro hWhy e egress w₂ h₂
  apply hErr hWhy e (k.nextBpf + 1)
  rw [h₂.sys, Kernel.dropBpf_withObject]
  exact h₂.shift _

end Load

end Mapecd
