import TelemetryLog.Proofs.Device.Taking

/-!
# When calls return

A reply is returned at the very time at which the device has sent what completes it, whatever the
timeout is: a call that is over before that only makes room for the next one, which goes on with
the same silence.

`Signal.due` are the replies that a script completes, each at the sum of the silences before the
signal that completes it.  `awaited` says what calls of a given timeout make of such a list: between
two replies there are as many idle calls as whole timeouts pass before the second one.  The main
statement is that calling a channel again and again gives just that.

## How it goes

`dueFrom` is the list of the replies that are still to come, each with its time, seen from a channel
in the middle of things.  A call that is made at the time `now` takes one of two ways: if the first
of them comes by `now + timeout`, the call returns it when it comes, and otherwise the call is idle
for the whole timeout and the list stays as it is (`dueFrom_eq`).  Both follow from what the call
has taken (`Proofs.Device.Taking`): a reply that was taken is the first one that is due, and when
nothing completes a reply the call has ended in the middle of a silence, so that everything still to
come is later.

`awaited` writes the answers out, with the number of idle calls in front of each reply, and
`awaited_of_le` and `awaited_of_lt` take one of them off in the same two ways, so the induction over
the calls does no counting.  A reply that comes at the very end of a timeout still belongs to that
call; the division in `idleCalls` is rounded accordingly.

Times are those of a clock that runs only while a call waits.  A reader that does something between
its calls finds the replies at the times at which it asks, if they are there by then.
-/

set_option autoImplicit false

namespace TelemetryLog
namespace Device

open Channel (Reply Read ofScript)

/-! ## What to expect

The whole schedule of a sequence of calls, as a function of the replies to come and of the timeout:
before each reply as many idle calls as there are timeouts to wait, each at the end of one. -/

/-- The replies that a script completes, each with the time at which that happens. -/
def Signal.due (name : String) (script : List Signal) : List (Nat × Reply) :=
  Segment.due name {} (Arrival.timed 0 (script.flatMap Signal.arrivals))

/-- How many calls are idle before a reply that comes after so long: one less than the number of
timeouts that it takes to get there, and none for a reply that is there at once. -/
def idleCalls (timeout gap : Nat) : Nat := (gap + timeout - 1) / timeout - 1

/-- What calls return that are made one after the other from the time `now` on, and when, if these
are the replies to come. -/
def awaited (timeout now : Nat) : List (Nat × Reply) → List (Nat × Reply)
  | [] => []
  | (t, r) :: more =>
    (List.range (idleCalls timeout (t - now))).map (fun i => (now + (i + 1) * timeout, .idle)) ++
      (t, r) :: awaited timeout t more

section Awaited

variable {timeout : Nat} (ht : 1 ≤ timeout)

include ht

theorem idleCalls_of_le {gap : Nat} (h : gap ≤ timeout) : idleCalls timeout gap = 0 := by
  have hlt : (gap + timeout - 1) / timeout < 2 := (Nat.div_lt_iff_lt_mul ht).2 (by omega)
  rw [idleCalls]
  omega

theorem idleCalls_of_lt {gap : Nat} (h : timeout < gap) :
    idleCalls timeout gap = idleCalls timeout (gap - timeout) + 1 := by
  have hstep : (gap + timeout - 1) / timeout = (gap - timeout + timeout - 1) / timeout + 1 := by
    rw [← Nat.add_div_right _ ht]
    congr 1
    omega
  have hpos : 1 ≤ (gap - timeout + timeout - 1) / timeout :=
    (Nat.le_div_iff_mul_le ht).2 (by omega)
  rw [idleCalls, idleCalls, hstep]
  omega

/-- A reply that comes in time is returned when it comes. -/
theorem awaited_of_le {now t : Nat} (h : t ≤ now + timeout) (r : Reply)
    (more : List (Nat × Reply)) :
    awaited timeout now ((t, r) :: more) = (t, r) :: awaited timeout t more := by
  rw [awaited, idleCalls_of_le ht (by omega)]
  rfl

/-- A call is idle before a reply that comes later. -/
theorem awaited_of_lt {now t : Nat} (h : now + timeout < t) (r : Reply)
    (more : List (Nat × Reply)) :
    awaited timeout now ((t, r) :: more) =
      (now + timeout, .idle) :: awaited timeout (now + timeout) ((t, r) :: more) := by
  rw [awaited, idleCalls_of_lt ht (by omega), Nat.sub_sub, List.range_succ_eq_map, List.map_cons,
    List.map_map, List.cons_append, awaited]
  congr 1
  · rw [Nat.zero_add, Nat.one_mul]
  · congr 2
    funext i
    simp only [Function.comp_apply, Prod.mk.injEq, and_true]
    rw [Nat.succ_mul, Nat.succ_mul]
    omega

end Awaited

namespace Channel

/-! ## One call

A call is over within its timeout.  If it is idle, it is in the middle of a silence and the rest of
that is before the next call, so no reply can have been due in the meantime. -/

/-- A call that nobody stops is over within its patience. -/
theorem readFrom_elapsed_le (c : Channel) (p : Patience) (events : List Event)
    (as : List Arrival) :
    p.stop = none → (readFrom c p events as).elapsed ≤ p.spent + p.left := by
  fun_induction readFrom c p events as with
  | case1 => exact fun _ => Nat.le_add_right _ _
  | case2 => exact fun _ => Nat.le_add_right _ _
  | case3 => exact fun _ => Nat.le_add_right _ _
  | case4 => exact fun _ => Nat.le_add_right _ _
  | case5 _ _ _ _ _ _ _ _ _ ih => exact ih
  | case6 c p events _ _ _ _ ms more q hw ih =>
    obtain ⟨rfl, hms, -⟩ := Patience.of_wait_through hw
    intro hp
    have := ih (by rw [Patience.less, hp]; rfl)
    simp only [Patience.less_spent, Patience.less_left] at this
    omega
  | case7 => exact fun _ => Nat.le_refl _
  | case8 c p events _ _ _ _ ms more moment hw =>
    exact fun hp => absurd (Patience.of_wait_stopped hw).1 (by simp [hp])

/-- An idle call ends in the middle of a silence. -/
theorem readFrom_ahead_of_idle (c : Channel) (p : Patience) (events : List Event)
    (as : List Arrival) (h : (readFrom c p events as).reply = .idle) :
    ∃ ms more, 0 < ms ∧ (readFrom c p events as).channel.ahead = .silence ms :: more := by
  fun_induction readFrom c p events as with
  | case1 => cases h
  | case2 => exact absurd h (endOfFile_ne_idle _)
  | case3 => exact absurd h (endOfFile_ne_idle _)
  | case4 => cases h
  | case5 _ _ _ _ _ _ _ _ _ ih => exact ih h
  | case6 _ _ _ _ _ _ _ _ _ _ _ ih => exact ih h
  | case7 c p events sc ev c' hline ms more hw =>
    have hms := (Patience.of_wait_timedOut hw).1
    refine ⟨ms - p.left, more, by omega, ?_⟩
    rw [ahead, show c'.block = [] from Framer.scan_rest_eq_nil hline]
    rfl
  | case8 => cases h

theorem read_elapsed_le (c : Channel) : c.read.elapsed ≤ c.timeout := by
  have h := readFrom_elapsed_le c ⟨c.timeout, none, 0⟩ [] c.arrivals rfl
  rwa [Nat.zero_add] at h

variable {c : Channel} {s : Segment}

/-- The replies to come of a channel with `k` ends of file after its stream. -/
def dueFrom (c : Channel) (s : Segment) (t k : Nat) : List (Nat × Reply) :=
  Segment.due c.name s (Arrival.timed t (c.ahead ++ List.replicate k .ended))

/-- With an end of file to come there is a reply to come. -/
theorem dueFrom_ne_nil (c : Channel) (s : Segment) (t k : Nat) : dueFrom c s t (k + 1) ≠ [] := by
  intro h
  have hreplies := congrArg (List.map Prod.snd) h
  rw [dueFrom, Segment.map_snd_due, Arrival.map_snd_timed, List.flatMap_append,
    Segment.replies_append, List.replicate_succ, List.flatMap_cons] at hreplies
  simp [Arrival.marks, Segment.replies] at hreplies

/-- A call returns the next reply if that comes in time, and is idle for as long as it may be
otherwise. -/
theorem dueFrom_eq (h : Follows c.framer s) (t k : Nat) :
    ∃ k' s', k ≤ k' ∧ Follows c.read.channel.framer s' ∧
      if c.read.reply = .idle then
        dueFrom c s t (k + 1) = dueFrom c.read.channel s' (t + c.timeout) k' ∧
          ∀ e ∈ dueFrom c s t (k + 1), t + c.timeout < e.1
      else
        dueFrom c s t (k + 1) =
          (t + c.read.elapsed, c.read.reply) ::
            dueFrom c.read.channel s' (t + c.read.elapsed) k' := by
  obtain ⟨k', taken, hk, htakes⟩ := read_takesSome h k t
  refine ⟨k', _, hk, htakes.follows, ?_⟩
  have hdue : dueFrom c s t (k + 1) = ([c.read.reply].filter (· ≠ .idle)).map
      (t + c.read.elapsed, ·) ++ dueFrom c.read.channel (s.afterAll (taken.map Prod.snd))
        (t + c.read.elapsed) k' := by
    rw [dueFrom, htakes.eq_append, Segment.due_append, htakes.due_eq, dueFrom, read_name]
  split
  · rename_i hidle
    rw [hidle, read_elapsed_of_idle hidle] at hdue
    refine ⟨hdue, fun e he => ?_⟩
    -- the rest of the silence is still before the next call, and nothing is due until it is over
    obtain ⟨ms, more, hms, hahead⟩ :
        ∃ ms more, 0 < ms ∧ c.read.channel.ahead = .silence ms :: more :=
      readFrom_ahead_of_idle c ⟨c.timeout, none, 0⟩ [] c.arrivals hidle
    have hlater : ∀ tm ∈ Arrival.timed (t + c.timeout)
        (c.read.channel.ahead ++ List.replicate k' .ended), t + c.timeout + ms ≤ tm.1 := by
      rw [hahead, List.cons_append, Arrival.timed_silence]
      exact Arrival.le_of_mem_timed
    have hle := Segment.le_of_mem_due hlater e (hdue ▸ he)
    omega
  · rename_i hidle
    rw [hdue]
    simp [hidle]

/-- Idle is what a call is before a reply that comes later than its timeout. -/
theorem read_idle_iff (h : Follows c.framer s) (t k : Nat) :
    c.read.reply = .idle ↔ ∀ e ∈ dueFrom c s t (k + 1), t + c.timeout < e.1 := by
  obtain ⟨k', s', -, -, hdue⟩ := dueFrom_eq h t k
  split at hdue
  · rename_i hidle
    exact ⟨fun _ => hdue.2, fun _ => hidle⟩
  · rename_i hidle
    refine ⟨fun h => absurd h hidle, fun hlater => ?_⟩
    have hlt := hlater (t + c.read.elapsed, c.read.reply) (by rw [hdue]; exact List.mem_cons_self)
    have hle := c.read_elapsed_le
    simp only at hlt
    omega

/-! ## Many calls -/

/-- What the first `n` calls return, and when, the first of them being made at the time `now`. -/
def results (c : Channel) (now : Nat) : Nat → List (Nat × Reply)
  | 0 => []
  | n + 1 => (now + c.read.elapsed, c.read.reply) ::
      c.read.channel.results (now + c.read.elapsed) n

theorem map_snd_results (c : Channel) (now n : Nat) :
    (c.results now n).map Prod.snd = c.replies n := by
  induction n generalizing c now with
  | zero => rfl
  | succ n ih => rw [results, replies, List.map_cons, ih]

theorem results_prefix_awaited (n : Nat) (h : Follows c.framer s) (ht : 1 ≤ c.timeout)
    {m : Nat} (hm : n ≤ m) (t : Nat) :
    c.results t n <+: awaited c.timeout t (dueFrom c s t m) := by
  induction n generalizing c s m t with
  | zero => exact List.nil_prefix
  | succ n ih =>
    obtain ⟨m, rfl⟩ : ∃ m', m = m' + 1 := ⟨m - 1, by omega⟩
    obtain ⟨k, s', hk, hfollows, hdue⟩ := dueFrom_eq h t m
    have hrest := @ih _ _ hfollows (by rwa [read_timeout]) k (by omega) (t + c.read.elapsed)
    rw [read_timeout] at hrest
    rw [results]
    split at hdue
    · rename_i hidle
      obtain ⟨heq, hlater⟩ := hdue
      obtain ⟨⟨u, r⟩, more, hcons⟩ := List.exists_cons_of_ne_nil (dueFrom_ne_nil c s t m)
      have hlt : t + c.timeout < u := hlater (u, r) (by rw [hcons]; exact List.mem_cons_self)
      rw [hcons, awaited_of_lt ht hlt, ← hcons, heq, hidle]
      rw [read_elapsed_of_idle hidle] at hrest ⊢
      exact List.cons_prefix_cons.2 ⟨rfl, hrest⟩
    · rw [hdue, awaited_of_le ht (Nat.add_le_add_left c.read_elapsed_le t)]
      exact List.cons_prefix_cons.2 ⟨rfl, hrest⟩

end Channel

/-! ## Scripts -/

section Scripts

variable (name : String) (timeout : Nat) (script : List Signal)

theorem dueFrom_ofScript (k : Nat) :
    (ofScript name timeout script).dueFrom {} 0 k =
      Signal.due name (script ++ List.replicate k .ended) := by
  rw [Channel.dueFrom, Channel.ahead_ofScript, Signal.due, Signal.arrivals_append_ended]
  exact rfl

/-- What has not been heard yet is what is to come. -/
theorem exists_drop_due (n : Nat) :
    ∃ k s, Follows ((ofScript name timeout script).later n).framer s ∧
      (Signal.due name (script ++ List.replicate (n + 1) .ended)).drop
          ((ofScript name timeout script).heard n).length =
        ((ofScript name timeout script).later n).dueFrom s
          ((ofScript name timeout script).clock n) (k + 1) := by
  obtain ⟨k, taken, hk, hstream, hfollows, hheard⟩ :=
    Channel.exists_taken_later n (c := ofScript name timeout script) Follows.empty
      (Nat.le_succ n) 0
  obtain ⟨k, rfl⟩ : ∃ k', k = k' + 1 := ⟨k - 1, by omega⟩
  refine ⟨k, _, hfollows, ?_⟩
  have hlen := congrArg List.length hheard
  rw [List.length_map] at hlen
  rw [← dueFrom_ofScript name timeout, Channel.dueFrom, hstream, Segment.due_append,
    ← hlen, List.drop_left, Nat.zero_add, Channel.dueFrom, Channel.later_name]

/-- **Timeouts delay nothing and lose nothing.**  The calls on a script return its replies at the
very times at which they are complete, and between two of them one idle call for each timeout that
passes before the second one.  No call takes longer than its timeout, and a call is idle only if
none of the replies that are left is complete when its time is up. -/
theorem results_ofScript_prefix {timeout : Nat} (ht : 1 ≤ timeout) (n : Nat) :
    ((ofScript name timeout script).results 0 n).length = n ∧
      (ofScript name timeout script).results 0 n <+:
        awaited timeout 0 (Signal.due name (script ++ List.replicate n .ended)) ∧
      (∀ k, ((ofScript name timeout script).later k).read.elapsed ≤ timeout) ∧
      ∀ k, ((ofScript name timeout script).later k).read.reply = .idle ↔
        ∀ e ∈ (Signal.due name (script ++ List.replicate (k + 1) .ended)).drop
            ((ofScript name timeout script).heard k).length,
          (ofScript name timeout script).clock k + timeout < e.1 := by
  refine ⟨?_, ?_, fun k => ?_, fun k => ?_⟩
  · rw [← List.length_map Prod.snd, Channel.map_snd_results, Channel.length_replies]
  · rw [← dueFrom_ofScript name timeout]
    exact Channel.results_prefix_awaited n Follows.empty ht (Nat.le_refl n) 0
  · have hle := ((ofScript name timeout script).later k).read_elapsed_le
    rwa [Channel.later_timeout] at hle
  · obtain ⟨j, s, hfollows, hdrop⟩ := exists_drop_due name timeout script k
    rw [hdrop, Channel.read_idle_iff hfollows, Channel.later_timeout]
    rfl

/-- A line that is complete just when its call is over, two idle calls, a failure at once after a
line, and an end of file after a silence of no length. -/
theorem results_ofScript_prefix_of_tie :
    1 ≤ 50 ∧
      (ofScript "mock" 50
          [.chunk 0x61 [], .silence 50, .chunk 0x62 [0x0A], .silence 30, .silence 90,
            .chunk 0x63 [0x0A], .failure "noise", .silence 0]).results 0 6 <+:
        [(50, .line "ab"), (100, .idle), (150, .idle), (170, .line "c"),
          (170, .failed (.serial (.cannotRead "mock" "noise")))] ++
          List.replicate 6 (170, .failed (.disconnected "mock")) := by
  have ht : 1 ≤ 50 := by decide
  have hresults := results_ofScript_prefix "mock"
    [.chunk 0x61 [], .silence 50, .chunk 0x62 [0x0A], .silence 30, .silence 90,
      .chunk 0x63 [0x0A], .failure "noise", .silence 0] ht 6
  refine ⟨ht, hresults.2.1.trans ?_⟩
  decide +kernel

end Scripts

end Device
end TelemetryLog
