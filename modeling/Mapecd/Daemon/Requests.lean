import Mapecd.Daemon.State

/-! Rules for the requests of the daemon, instances of the rules for programs
that send requests. -/
namespace Mapecd

open Effects

variable {α : Type} {toError : Option Errno → MapEError} {op : Operation Kernel Errno α}
  {post : α → DaemonWorld → Prop} {stop : Failure MapEError → DaemonWorld → Prop}
  {w : DaemonWorld} {k k' : Kernel} {s : DaemonState} {f : Nat → Option Errno}

theorem request_steps {R : Kernel → Kernel → Prop}
    (h : ∀ k a k', op k = .ok (a, k') → R k k') : Steps R (request toError op) :=
  Steps.mapErr (Steps.issue h)

/-- The rule for a request of the daemon, with its error as the daemon reports it. -/
theorem wp_request (h : w.IsAt k s f)
    (hRefused : ∀ e w', f ≠ noFaults ∨ op k = .error e → w'.IsAt k s f →
      stop (.error (toError (some e))) w')
    (hDone : ∀ a k' w', op k = .ok (a, k') → w'.IsAt k' s f → post a w') :
    wp (request toError op) post stop w := by
  unfold request
  rw [wp_mapErr]
  exact h.wp_issue (fun e w' hWhy h' => hRefused e w' hWhy h') hDone

theorem wp_request_ok {a : α} (h : w.IsAt k s noFaults)
    (hOp : op k = .ok (a, k')) (hDone : ∀ w', w'.IsAt k' s noFaults → post a w') :
    wp (request toError op) post stop w := by
  unfold request
  rw [wp_mapErr]
  exact h.wp_issue_ok hOp hDone

theorem wp_request_error {e : Errno} (h : w.IsAt k s noFaults) (hOp : op k = .error e)
    (hRefused : ∀ w', w'.IsAt k s noFaults → stop (.error (toError (some e))) w') :
    wp (request toError op) post stop w := by
  unfold request
  rw [wp_mapErr]
  exact h.wp_issue_error hOp hRefused

/-- A request that the system would grant, sent as number `n`. -/
theorem wp_request_reached {a : α} {n : Nat} (h : w.Reached k s f n) (hOp : op k = .ok (a, k'))
    (hFault : ∀ e w', f n ≠ none → w'.IsAt k s f → stop (.error e) w')
    (hDone : ∀ w', f n = none → w'.Reached k' s f (n + 1) → post a w') :
    wp (request toError op) post stop w := by
  unfold request
  rw [wp_mapErr]
  apply h.wp_issue
  · exact fun e w' hAhead h' => hFault _ w' hAhead h'.toIsAt
  · intro e w' hRefused
    rw [hOp] at hRefused
    cases hRefused
  · intro a' k₁ w' hAhead hDoneOp h'
    rw [hOp] at hDoneOp
    cases hDoneOp
    exact hDone w' hAhead h'

/-- Whatever stops the program, a granted request takes one number. -/
theorem wp_request_granted {n : Nat} (h : w.Reached k s f n) (hStop : ∀ e w', stop e w')
    (hDone : ∀ a k' w', op k = .ok (a, k') → w'.Reached k' s f (n + 1) → post a w') :
    wp (request toError op) post stop w := by
  unfold request
  rw [wp_mapErr]
  apply h.wp_issue
  · exact fun _ w' _ _ => hStop _ w'
  · exact fun _ w' _ _ => hStop _ w'
  · exact fun a k' w' _ hOp h' => hDone a k' w' hOp h'

/-- The system after a request whose result is ignored. -/
def outcome (op : Operation Kernel Errno α) (k : Kernel) : Kernel :=
  match op k with
  | .ok (_, k') => k'
  | .error _ => k

/-- An ignored request without faults is a function of the kernel. -/
theorem wp_ignore_request {post : Unit → DaemonWorld → Prop} (h : w.IsAt k s noFaults)
    (hDone : ∀ w', w'.IsAt (outcome op k) s noFaults → post () w') :
    wp (ignore (request toError op)) post stop w := by
  rw [ignore, wp_bind, wp_attempt]
  unfold outcome at hDone
  cases hOp : op k with
  | ok result =>
      rw [hOp] at hDone
      exact wp_request_ok h hOp hDone
  | error e =>
      rw [hOp] at hDone
      exact wp_request_error h hOp hDone

/-- A request sent as number `n` whose failure is ignored. -/
theorem wp_ignore_request_reached {post : Unit → DaemonWorld → Prop} {n : Nat}
    (h : w.Reached k s f n)
    (hFault : ∀ w', f n ≠ none → w'.Reached k s f (n + 1) → post () w')
    (hDone : ∀ w', f n = none → w'.Reached (outcome op k) s f (n + 1) → post () w') :
    wp (ignore (request toError op)) post stop w := by
  unfold ignore request outcome at *
  rw [wp_bind, wp_attempt, wp_mapErr]
  apply h.wp_issue
  · exact fun _ w' hAhead h' => hFault w' hAhead h'
  · intro e w' hOp h'
    by_cases hAhead : f n = none
    · rw [hOp] at hDone
      exact hDone w' hAhead h'
    · exact hFault w' hAhead h'
  · intro a k' w' hAhead hOp h'
    rw [hOp] at hDone
    exact hDone w' hAhead h'

end Mapecd
