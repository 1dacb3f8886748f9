import TelemetryLog.Device.Progress
import TelemetryLog.Proofs.Device.Script

/-!
# How long a call waits

Time only passes in silences (`clock_add_quietTime`), and an idle call has waited for exactly its
timeout, so a script has only so many idle calls in it (`timeout_mul_idle_le`).

A moment to stop at changes nothing about a call that returns before that moment: it returns the
same, and leaves the same channel behind.  A call that would return at that moment or after it is
stopped there.  This is `readUntil_eq`, and it is why a stopped call loses nothing.

## How it goes

`Patience.wait` is the one place where a call decides how a silence ends, and it has four cases.
Each of them is said once, in both directions: `wait_of_stop_le` and its neighbours compute it from
an order between the silence, the patience and the moment to stop at, and `of_wait_through` and its
neighbours say what that order must have been.  Everything else uses these and never opens `wait`.

The lemmas about one call are by induction along the recursion of `readFrom`, one equation for each
kind of arrival.  The amount of time that has passed and the time that is still in the stream always
add up to the same, and that is the invariant behind the first half.

For the second half two calls run side by side, one with a moment to stop at and one without.  They
do the same as long as the moment has not come, because a silence that is waited through leaves both
with the same patience; so the proof follows the call that is not stopped and compares at each
silence.
-/

set_option autoImplicit false

namespace TelemetryLog
namespace Device

/-! ## Waiting

What becomes of one silence is arithmetic on three numbers: how long it is, how long a call may
still wait, and when it is to stop.  The ties are decided here and nowhere else. -/

namespace Patience

@[simp] theorem less_left (p : Patience) (ms : Nat) : (p.less ms).left = p.left - ms := rfl

@[simp] theorem less_spent (p : Patience) (ms : Nat) : (p.less ms).spent = p.spent + ms := rfl

theorem less_zero (p : Patience) : p.less 0 = p := by
  cases p with
  | mk left stop spent => cases stop <;> rfl

/-- A moment to stop at that comes during a silence, or just at its end, ends the wait. -/
theorem wait_of_stop_le {p : Patience} {ms s : Nat} (hms : 0 < ms) (hs : s ≤ ms)
    (hl : s ≤ p.left) : wait { p with stop := some s } ms = .stopped s := by
  simp [wait, Nat.ne_of_gt hms, hs, hl]

/-- A moment to stop at that comes after a silence only comes nearer. -/
theorem wait_of_lt_stop {p : Patience} {ms s : Nat} (hs : ms < s) (hl : ms ≤ p.left) :
    wait { p with stop := some s } ms = .through { p.less ms with stop := some (s - ms) } := by
  by_cases h0 : ms = 0
  · subst h0
    rfl
  · simp [wait, h0, hl, Nat.not_le.2 hs, less]

/-- A moment to stop at that comes after the timeout does not matter. -/
theorem wait_of_left_lt {p : Patience} {ms s : Nat} (hs : p.left < s) (hl : p.left < ms) :
    wait { p with stop := some s } ms = .timedOut := by
  simp [wait, Nat.ne_of_gt (Nat.zero_lt_of_lt hl), Nat.not_le.2 hs, Nat.not_le.2 hl]

/-- A silence that is waited through fits into the patience and is over before the moment to stop
at. -/
theorem of_wait_through {p q : Patience} {ms : Nat} (h : p.wait ms = .through q) :
    q = p.less ms ∧ ms ≤ p.left ∧ ∀ s, p.stop = some s → 0 < s → ms < s := by
  unfold wait at h
  split at h
  · rename_i h0
    subst h0
    cases h
    exact ⟨p.less_zero.symm, Nat.zero_le _, fun _ _ hs => hs⟩
  · split at h
    · rename_i s hstop
      split at h
      · cases h
      · rename_i hs
        split at h
        · rename_i hms
          cases h
          refine ⟨rfl, hms, fun s' hs' _ => ?_⟩
          rw [hstop, Option.some_inj] at hs'
          simp only [Bool.and_eq_true, decide_eq_true_eq] at hs
          omega
        · cases h
    · rename_i hstop
      split at h
      · rename_i hms
        cases h
        exact ⟨rfl, hms, fun s' hs' => absurd (hstop.symm.trans hs') (by simp)⟩
      · cases h

/-- A call times out in a silence that is longer than its patience, before the moment to stop at. -/
theorem of_wait_timedOut {p : Patience} {ms : Nat} (h : p.wait ms = .timedOut) :
    p.left < ms ∧ ∀ s, p.stop = some s → p.left < s := by
  unfold wait at h
  split at h
  · cases h
  · split at h
    · rename_i s hstop
      split at h
      · cases h
      · rename_i hs
        split at h
        · cases h
        · refine ⟨by omega, fun s' hs' => ?_⟩
          rw [hstop, Option.some_inj] at hs'
          simp only [Bool.and_eq_true, decide_eq_true_eq] at hs
          omega
    · rename_i hstop
      split at h
      · cases h
      · exact ⟨by omega, fun s' hs' => absurd (hstop.symm.trans hs') (by simp)⟩

/-- A call is stopped in a silence, at the moment to stop at. -/
theorem of_wait_stopped {p : Patience} {ms moment : Nat} (h : p.wait ms = .stopped moment) :
    p.stop = some moment ∧ moment ≤ ms ∧ moment ≤ p.left := by
  unfold wait at h
  split at h
  · cases h
  · split at h
    · rename_i s hstop
      split at h
      · rename_i hs
        simp only [Bool.and_eq_true, decide_eq_true_eq] at hs
        cases h
        exact ⟨hstop, hs⟩
      · split at h <;> cases h
    · split at h <;> cases h

end Patience

namespace Channel

theorem endOfFile_ne_stopped (c : Channel) : c.endOfFile ≠ .stopped := by
  unfold endOfFile
  split <;> simp

/-! ## One call -/

section Call

variable (c : Channel) (p : Patience) (events : List Event) (as : List Arrival)

theorem readFrom_name : (readFrom c p events as).channel.name = c.name := by
  fun_induction readFrom c p events as with
  | case1 => rfl
  | case2 => rfl
  | case3 => rfl
  | case4 => rfl
  | case5 _ _ _ _ _ _ _ _ _ ih => exact ih
  | case6 _ _ _ _ _ _ _ _ _ _ _ ih => exact ih
  | case7 => rfl
  | case8 => rfl

theorem readFrom_timeout : (readFrom c p events as).channel.timeout = c.timeout := by
  fun_induction readFrom c p events as with
  | case1 => rfl
  | case2 => rfl
  | case3 => rfl
  | case4 => rfl
  | case5 _ _ _ _ _ _ _ _ _ ih => exact ih
  | case6 _ _ _ _ _ _ _ _ _ _ _ ih => exact ih
  | case7 => rfl
  | case8 => rfl

/-- Time passes in silences only. -/
theorem readFrom_elapsed_add_quietTime :
    (readFrom c p events as).elapsed + (readFrom c p events as).channel.quietTime =
      p.spent + (as.map Arrival.quietTime).sum := by
  fun_induction readFrom c p events as with
  | case1 => rfl
  | case2 => rfl
  | case3 => simp [quietTime, Arrival.quietTime]
  | case4 => simp [quietTime, Arrival.quietTime]
  | case5 _ _ _ _ _ _ _ _ _ ih => simpa [Arrival.quietTime] using ih
  | case6 c p events s _ _ _ ms more q hw ih =>
    obtain ⟨rfl, -, -⟩ := Patience.of_wait_through hw
    rw [ih, Patience.less_spent, List.map_cons, List.sum_cons, Arrival.quietTime, Nat.add_assoc]
  | case7 c p events s _ _ _ ms more hw =>
    have := (Patience.of_wait_timedOut hw).1
    simp only [quietTime, List.map_cons, List.sum_cons, Arrival.quietTime]
    omega
  | case8 c p events s _ _ _ ms more moment hw =>
    have := (Patience.of_wait_stopped hw).2.1
    simp only [quietTime, List.map_cons, List.sum_cons, Arrival.quietTime]
    omega

theorem spent_le_readFrom_elapsed : p.spent ≤ (readFrom c p events as).elapsed := by
  fun_induction readFrom c p events as with
  | case1 => exact Nat.le_refl _
  | case2 => exact Nat.le_refl _
  | case3 => exact Nat.le_refl _
  | case4 => exact Nat.le_refl _
  | case5 _ _ _ _ _ _ _ _ _ ih => exact ih
  | case6 c p events s _ _ _ ms more q hw ih =>
    obtain ⟨rfl, -, -⟩ := Patience.of_wait_through hw
    exact Nat.le_trans (Nat.le_add_right _ _) ih
  | case7 => exact Nat.le_add_right _ _
  | case8 => exact Nat.le_add_right _ _

/-- An idle call has waited for as long as it may. -/
theorem readFrom_elapsed_of_idle (h : (readFrom c p events as).reply = .idle) :
    (readFrom c p events as).elapsed = p.spent + p.left := by
  fun_induction readFrom c p events as with
  | case1 => cases h
  | case2 => exact absurd h (endOfFile_ne_idle _)
  | case3 => exact absurd h (endOfFile_ne_idle _)
  | case4 => cases h
  | case5 _ _ _ _ _ _ _ _ _ ih => exact ih h
  | case6 c p events s _ _ _ ms more q hw ih =>
    obtain ⟨rfl, hms, -⟩ := Patience.of_wait_through hw
    rw [ih h, Patience.less_spent, Patience.less_left]
    omega
  | case7 => rfl
  | case8 => cases h

/-- Only a call with a moment to stop at is stopped. -/
theorem readFrom_ne_stopped : p.stop = none → (readFrom c p events as).reply ≠ .stopped := by
  fun_induction readFrom c p events as with
  | case1 => exact fun _ => by simp
  | case2 => exact fun _ => endOfFile_ne_stopped _
  | case3 => exact fun _ => endOfFile_ne_stopped _
  | case4 => exact fun _ => by simp
  | case5 _ _ _ _ _ _ _ _ _ ih => exact ih
  | case6 c p events _ _ _ _ ms more q hw ih =>
    obtain ⟨rfl, -, -⟩ := Patience.of_wait_through hw
    exact fun hp => ih (by rw [Patience.less, hp]; rfl)
  | case7 => exact fun _ => by simp
  | case8 c p events _ _ _ _ ms more moment hw =>
    exact fun hp => absurd (Patience.of_wait_stopped hw).1 (by simp [hp])

end Call

theorem read_name (c : Channel) : c.read.channel.name = c.name := readFrom_name ..

theorem readUntil_timeout (c : Channel) (stop : Option Nat) :
    (c.readUntil stop).channel.timeout = c.timeout := readFrom_timeout ..

theorem read_timeout (c : Channel) : c.read.channel.timeout = c.timeout := c.readUntil_timeout none

theorem read_ne_stopped (c : Channel) : c.read.reply ≠ .stopped := readFrom_ne_stopped _ _ _ _ rfl

theorem read_elapsed_add_quietTime (c : Channel) :
    c.read.elapsed + c.read.channel.quietTime = c.quietTime := by
  have h := readFrom_elapsed_add_quietTime c ⟨c.timeout, none, 0⟩ [] c.arrivals
  rw [Nat.zero_add] at h
  exact h

theorem read_elapsed_of_idle {c : Channel} (h : c.read.reply = .idle) :
    c.read.elapsed = c.timeout := by
  have h := readFrom_elapsed_of_idle c ⟨c.timeout, none, 0⟩ [] c.arrivals h
  rw [Nat.zero_add] at h
  exact h

/-! ## Many calls -/

theorem clock_add_quietTime (c : Channel) (n : Nat) :
    c.clock n + (c.later n).quietTime = c.quietTime := by
  induction n generalizing c with
  | zero => exact Nat.zero_add _
  | succ n ih =>
    rw [clock, later, Nat.add_assoc, ih c.read.channel, read_elapsed_add_quietTime]

/-- Every idle call takes a whole timeout. -/
theorem timeout_mul_idle_le (c : Channel) (n : Nat) :
    c.timeout * (c.replies n).count .idle ≤ c.clock n := by
  induction n generalizing c with
  | zero => simp [replies]
  | succ n ih =>
    have hrest := ih c.read.channel
    rw [read_timeout] at hrest
    rw [replies, clock, List.count_cons]
    by_cases h : c.read.reply = .idle
    · rw [h, beq_self_eq_true, if_pos rfl, Nat.mul_succ, read_elapsed_of_idle h]
      omega
    · rw [if_neg (by simpa using h), Nat.add_zero]
      omega

/-! ## A call that can be stopped

The moment is counted from where the call stands, so it comes nearer with every silence that is
waited through, just like the timeout. -/

/-- With a moment to stop at, a call that returns before it is the same call, and any other is
stopped at that moment. -/
theorem readFrom_stop (c : Channel) (p : Patience) (events : List Event) (as : List Arrival) :
    p.stop = none → ∀ s, 0 < s →
      if p.spent + s ≤ (readFrom c p events as).elapsed then
        (readFrom c { p with stop := some s } events as).reply = .stopped
      else readFrom c { p with stop := some s } events as = readFrom c p events as := by
  fun_induction readFrom c p events as with
  | case1 as c p events _ _ _ bytes h =>
    intro _ s hs
    rw [if_neg (by simp only; omega), readFrom_of_line h]
  | case2 c p events _ _ _ h =>
    intro _ s hs
    rw [if_neg (by simp only; omega), readFrom_nil h]
  | case3 c p events _ _ _ h =>
    intro _ s hs
    rw [if_neg (by simp only; omega), readFrom_ended h]
  | case4 c p events _ _ _ h =>
    intro _ s hs
    rw [if_neg (by simp only; omega), readFrom_failure h]
    rfl
  | case5 c p events _ _ _ h bs more ih =>
    intro hp s hs
    rw [readFrom_block h]
    exact ih hp s hs
  | case6 c p events sc ev c' h ms more q hw ih =>
    obtain ⟨rfl, hms, -⟩ := Patience.of_wait_through hw
    intro hp s hs
    have hpass := spent_le_readFrom_elapsed c' (p.less ms) ev more
    rw [Patience.less_spent] at hpass
    rw [readFrom_silence h]
    -- the moment comes in this silence, or it is nearer when the call goes on behind it
    by_cases hs' : s ≤ ms
    · rw [if_pos (by omega), Patience.wait_of_stop_le (by omega) hs' (by omega)]
    · have hstop : (p.less ms).stop = none := by rw [Patience.less, hp]; rfl
      have := ih hstop (s - ms) (by omega)
      rw [Patience.less_spent, show p.spent + ms + (s - ms) = p.spent + s by omega] at this
      rw [Patience.wait_of_lt_stop (by omega) hms]
      exact this
  | case7 c p events sc ev c' h ms more hw =>
    obtain ⟨hms, -⟩ := Patience.of_wait_timedOut hw
    intro hp s hs
    rw [readFrom_silence h]
    by_cases hs' : s ≤ p.left
    · rw [if_pos (by simp only; omega), Patience.wait_of_stop_le (by omega) (by omega) hs']
    · rw [if_neg (by simp only; omega), Patience.wait_of_left_lt (by omega) hms]
  | case8 c p events _ _ _ h ms more moment hw =>
    intro hp
    exact absurd (Patience.of_wait_stopped hw).1 (by simp [hp])

/-- **A moment to stop at loses nothing.**  A call that would return before that moment is not
affected by it; a call that would not is stopped. -/
theorem readUntil_eq (c : Channel) {s : Nat} (hs : 0 < s) :
    if s ≤ c.read.elapsed then (c.readUntil (some s)).reply = .stopped
    else c.readUntil (some s) = c.read := by
  have h := readFrom_stop c ⟨c.timeout, none, 0⟩ [] c.arrivals rfl s hs
  rw [Nat.zero_add] at h
  exact h

end Channel
end Device
end TelemetryLog
