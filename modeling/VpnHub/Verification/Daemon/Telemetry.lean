import Mathlib.Data.List.Perm.Basic
import VpnHub.Library.Interleaving
import VpnHub.Program.Daemon.Metrics

/-! # The metrics collector under any schedule

The collector at work: any number of `start` and `stop` calls and the loops that were spawned, on
several threads, while the counters of the host change. -/

namespace VpnHub.Daemon

open Interleaving

/-! ## The tasks -/

inductive TelemetryTask where
  | loop (l : CollectorLoop)
  | stop
  /-- The host changes. -/
  | host (files : NetFiles) (liveRtt : Option UInt32)
  | returned

namespace TelemetryTask

def advance (s : Telemetry) : TelemetryTask → Option (Telemetry × TelemetryTask)
  | .loop l => (l.advance s).map fun (t, l) => (t, .loop l)
  | .stop => some ({ s with isRunning := false }, .returned)
  | .host files liveRtt => some ({ s with files, liveRtt }, .returned)
  | .returned => none

def published : TelemetryTask → List LiveMetrics
  | .loop l => l.published
  | _ => []

/-- A loop that has not ended. -/
def Alive : TelemetryTask → Prop
  | .loop l => l.pc ≠ .starting ∧ l.pc ≠ .ended
  | _ => False

/-- The metrics that the task still publishes before it looks at `is_running` again. -/
def due : TelemetryTask → ℕ
  | .loop l => match l.pc with
    | .probing | .sampling | .storing _ | .sending _ => 1
    | _ => 0
  | _ => 0

end TelemetryTask

abbrev TelemetryPool := Pool Telemetry TelemetryTask

/-- The collector starts loops with the variables that `start` gives them. -/
def Starts : TelemetryPool → Interleaving.Action TelemetryTask → Prop
  | _, .start (.loop l) => l = { intervalMs := l.intervalMs, ifaceName := l.ifaceName }
  | _, _ => True

instance (p : TelemetryPool) (a : Interleaving.Action TelemetryTask) : Decidable (Starts p a) :=
  match a with
  | .start (.loop l) =>
    inferInstanceAs (Decidable (l = { intervalMs := l.intervalMs, ifaceName := l.ifaceName }))
  | .start .stop | .start (.host _ _) | .start .returned | .resume _ => .isTrue trivial

/-- `is_running` is not set by a `start`. -/
def NoStart (p : TelemetryPool) : Interleaving.Action TelemetryTask → Prop
  | .start _ => True
  | .resume i => ∀ l, p.calls[i]? = some (.loop l) → l.pc ≠ .starting

/-- `is_running` is not cleared by a `stop`. -/
def NoStop (p : TelemetryPool) : Interleaving.Action TelemetryTask → Prop
  | .start _ => True
  | .resume i => ∀ task, p.calls[i]? = some task → task ≠ .stop

/-- The loop at a place does not look at `is_running`. -/
def Unseen (i : ℕ) (p : TelemetryPool) (a : Interleaving.Action TelemetryTask) : Prop :=
  Starts p a ∧ (a = .resume i → ∀ l, p.calls[i]? = some (.loop l) → l.pc ≠ .looping ∧ l.pc ≠ .sleeping)

abbrev TelemetryRun (guard : TelemetryPool → Interleaving.Action TelemetryTask → Prop) :=
  Transition.Run (Pool.step TelemetryTask.advance) guard

/-! ## A concrete host -/

namespace Sample

/-- A tunnel over which some bytes have gone. -/
def files : NetFiles where
  readToString path :=
    if path = "/sys/class/net/tun0/statistics/rx_bytes".toList then some "1500\n".toList
    else if path = "/sys/class/net/tun0/statistics/tx_bytes".toList then some "600\n".toList
    else none
  classNet := ["lo".toList, "tun0".toList]

/-- Two loops, of one second and of five, that each publish once. -/
def collectorActions : List (Interleaving.Action TelemetryTask) :=
  .start (.loop { intervalMs := 1000, ifaceName := "tun0".toList }) ::
    .start (.loop { intervalMs := 5000, ifaceName := "wg0".toList }) ::
    ([0, 1, 0, 1, 0, 1, 1, 0, 0, 1, 1, 0].map .resume)

/-- A loop of one second at a point of its turn. -/
def loopAt (pc : CollectorPc) : TelemetryTask :=
  .loop { intervalMs := 1000, ifaceName := "tun0".toList, pc }

end Sample

variable {s t : Telemetry} {l l' : CollectorLoop} {p q : TelemetryPool}
  {as : List (Interleaving.Action TelemetryTask)}

/-! ## A section -/

/-- What a section of a loop does to the events, to what it has published, and to its clock. -/
inductive LoopSection (s : Telemetry) (l : CollectorLoop) : Telemetry → CollectorLoop → Prop where
  | set (h : l.pc = .starting) :
    LoopSection s l { s with isRunning := true } { l with pc := .looping }
  | goOn (h : l.pc = .looping) (hrunning : s.isRunning = true) :
    LoopSection s l s { l with pc := .sleeping }
  | leave (h : l.pc = .looping ∨ l.pc = .sleeping) (hstopped : s.isRunning = false) :
    LoopSection s l s { l with pc := .ended }
  | tick (h : l.pc = .sleeping) (hrunning : s.isRunning = true) : LoopSection s l s l.tick
  | probe (h : l.pc = .probing) :
    LoopSection s l s { l with currentRtt := s.liveRtt.or l.currentRtt, pc := .sampling }
  | sample (h : l.pc = .sampling) :
    LoopSection s l s { l with pc := .storing (l.sample s.files) }
  | store (metrics : LiveMetrics) (h : l.pc = .storing metrics) :
    LoopSection s l { s with latestMetrics := metrics } { l with pc := .sending metrics }
  | send (metrics : LiveMetrics) (h : l.pc = .sending metrics) :
    LoopSection s l { s with published := s.published ++ [metrics] }
      { l with pc := .looping, published := l.published ++ [metrics] }

theorem section_of_advance (h : l.advance s = some (t, l')) : LoopSection s l t l' := by
  cases hpc : l.pc with
  | starting =>
      obtain ⟨rfl, rfl⟩ : _ ∧ _ = l' := by simpa [CollectorLoop.advance, hpc] using h
      exact .set hpc
  | looping =>
      obtain ⟨rfl, rfl⟩ : _ ∧ _ = l' := by simpa [CollectorLoop.advance, hpc] using h
      cases hrunning : s.isRunning with
      | true => exact .goOn hpc hrunning
      | false => exact .leave (.inl hpc) hrunning
  | sleeping =>
      obtain ⟨rfl, rfl⟩ : _ ∧ _ = l' := by simpa [CollectorLoop.advance, hpc] using h
      cases hrunning : s.isRunning with
      | true => exact .tick hpc hrunning
      | false => exact .leave (.inr hpc) hrunning
  | probing =>
      obtain ⟨rfl, rfl⟩ : _ ∧ _ = l' := by simpa [CollectorLoop.advance, hpc] using h
      exact .probe hpc
  | sampling =>
      obtain ⟨rfl, rfl⟩ : _ ∧ _ = l' := by simpa [CollectorLoop.advance, hpc] using h
      exact .sample hpc
  | storing metrics =>
      obtain ⟨rfl, rfl⟩ : _ ∧ _ = l' := by simpa [CollectorLoop.advance, hpc] using h
      exact .store metrics hpc
  | sending metrics =>
      obtain ⟨rfl, rfl⟩ : _ ∧ _ = l' := by simpa [CollectorLoop.advance, hpc] using h
      exact .send metrics hpc
  | ended => simp [CollectorLoop.advance, hpc] at h

theorem advance_loop_iff {d : TelemetryTask} : TelemetryTask.advance s (.loop l) = some (t, d) ↔
    ∃ l', l.advance s = some (t, l') ∧ .loop l' = d := by
  simp [TelemetryTask.advance]

/-- A section publishes in the name of its own task only. -/
theorem published_section {c d : TelemetryTask} (h : c.advance s = some (t, d)) :
    ∃ new, t.published = s.published ++ new ∧ d.published = c.published ++ new := by
  cases c with
  | loop l =>
      obtain ⟨l', hadvance, rfl⟩ := advance_loop_iff.mp h
      cases section_of_advance hadvance with
      | send metrics hpc => exact ⟨[metrics], rfl, rfl⟩
      | _ => exact ⟨[], by simp, by simp [TelemetryTask.published, CollectorLoop.tick]⟩
  | stop =>
      obtain ⟨rfl, rfl⟩ : _ ∧ _ = d := by simpa [TelemetryTask.advance] using h
      exact ⟨[], by simp, rfl⟩
  | host files liveRtt =>
      obtain ⟨rfl, rfl⟩ : _ ∧ _ = d := by simpa [TelemetryTask.advance] using h
      exact ⟨[], by simp, rfl⟩
  | returned => cases h

/-! ## Uptimes -/

/-- The metrics that the loop has sampled and not yet published. -/
def CollectorLoop.inHand (l : CollectorLoop) : List LiveMetrics :=
  match l.pc with
  | .storing metrics | .sending metrics => [metrics]
  | _ => []

/-- The metrics that the loop has sampled. -/
def CollectorLoop.sampled (l : CollectorLoop) : List LiveMetrics := l.published ++ l.inHand

/-- The ticks of the loop, with the one that it has not sampled at yet. -/
def CollectorLoop.ticks (l : CollectorLoop) : ℕ :=
  l.sampled.length + if l.pc = .probing ∨ l.pc = .sampling then 1 else 0

/-- Every tick of the loop counts, and every sample has the time of its tick. -/
structure CollectorLoop.Clocked (l : CollectorLoop) : Prop where
  uptimes : l.sampled.map (·.metrics.uptimeSeconds) =
    (List.range l.sampled.length).map fun n => UInt64.ofNat (n + 1) * l.tickSecs
  uptime : l.uptime = UInt64.ofNat l.ticks * l.tickSecs

theorem clocked_new (intervalMs : UInt64) (ifaceName : Text) :
    CollectorLoop.Clocked { intervalMs, ifaceName } :=
  ⟨rfl, by simp [CollectorLoop.ticks, CollectorLoop.sampled, CollectorLoop.inHand]⟩

/-- A section that changes neither the clock nor the samples. -/
theorem CollectorLoop.Clocked.congr (h : l.Clocked) (hinterval : l'.intervalMs = l.intervalMs)
    (huptime : l'.uptime = l.uptime) (hsampled : l'.sampled = l.sampled)
    (hticks : l'.ticks = l.ticks) : l'.Clocked := by
  have hsecs : l'.tickSecs = l.tickSecs := by rw [tickSecs, tickSecs, hinterval]
  exact ⟨by rw [hsampled, hsecs, h.uptimes], by rw [huptime, hticks, hsecs, h.uptime]⟩

theorem CollectorLoop.Clocked.section (h : l.Clocked) (hsection : LoopSection s l t l') :
    l'.Clocked := by
  cases hsection with
  | tick hpc =>
      have hsampled : l.tick.sampled = l.sampled := by
        by_cases heven : (l.tickCounter + 1) % 2 = 0 <;>
          simp [sampled, inHand, hpc, CollectorLoop.tick, heven]
      have hticks : l.tick.ticks = l.ticks + 1 := by
        rw [ticks, hsampled, ticks]
        by_cases heven : (l.tickCounter + 1) % 2 = 0 <;> simp [hpc, CollectorLoop.tick, heven]
      refine ⟨by rw [hsampled]; exact h.uptimes, ?_⟩
      calc l.uptime + l.tickSecs
          = UInt64.ofNat l.ticks * l.tickSecs + 1 * l.tickSecs := by rw [h.uptime, UInt64.one_mul]
        _ = UInt64.ofNat l.tick.ticks * l.tickSecs := by
            rw [hticks, UInt64.ofNat_add, UInt64.add_mul]
            rfl
  | sample hpc =>
      -- The tick that was ahead of the samples is now the time of the last one.
      have hbefore : l.sampled = l.published := by simp [sampled, inHand, hpc]
      have hticks : l.ticks = l.published.length + 1 := by simp [ticks, hbefore, hpc]
      have huptimes := h.uptimes
      have huptime := h.uptime
      rw [hbefore] at huptimes
      rw [hticks, tickSecs] at huptime
      refine ⟨?_, ?_⟩
      · simp [sampled, inHand, List.range_succ, huptimes, CollectorLoop.sample, huptime, tickSecs]
      · simpa [ticks, sampled, inHand, tickSecs] using huptime
  | leave hpc =>
      obtain hpc | hpc := hpc
      all_goals refine h.congr rfl rfl ?_ ?_ <;> simp [ticks, sampled, inHand, hpc]
  | set hpc | goOn hpc | probe hpc | store _ hpc | send _ hpc =>
      refine h.congr rfl rfl ?_ ?_ <;> simp [ticks, sampled, inHand, hpc]

theorem CollectorLoop.Clocked.published (h : l.Clocked) :
    l.published.map (·.metrics.uptimeSeconds) =
      (List.range l.published.length).map fun n => UInt64.ofNat (n + 1) * l.tickSecs := by
  have huptimes := h.uptimes
  rw [sampled, List.length_append, List.range_add, List.map_append, List.map_append] at huptimes
  exact List.append_inj_left huptimes (by simp)

/-! ## What the loops publish -/

theorem clocked_of_run {files : NetFiles} {liveRtt : Option UInt32}
    (run : TelemetryRun Starts ⟨{ files, liveRtt }, []⟩ as q) (h : .loop l ∈ q.calls) :
    l.Clocked := by
  refine forall_calls (Q := fun c => ∀ l, c = .loop l → l.Clocked) ?_ ?_ run ?_ _ h l rfl
  · rintro p c hstarts l rfl
    rw [show l = _ from hstarts]
    exact clocked_new _ _
  · rintro s c t d hadvance hclocked l rfl
    cases c with
    | loop l₀ =>
        obtain ⟨l', hloop, hl⟩ := advance_loop_iff.mp hadvance
        obtain rfl := TelemetryTask.loop.inj hl
        exact (hclocked l₀ rfl).section (section_of_advance hloop)
    | stop => simp [TelemetryTask.advance] at hadvance
    | host files liveRtt => simp [TelemetryTask.advance] at hadvance
    | returned => cases hadvance
  · simp

/-- However the loops overlap, the events are what the loops have published, and the `n`-th of a
loop carries the uptime of `n` ticks, each of a second at least. -/
theorem published_of_run {files : NetFiles} {liveRtt : Option UInt32}
    (run : TelemetryRun Starts ⟨{ files, liveRtt }, []⟩ as q) :
    q.shared.published.Perm (q.calls.flatMap TelemetryTask.published) ∧
      ∀ l, .loop l ∈ q.calls → l.published.map (·.metrics.uptimeSeconds) =
        (List.range l.published.length).map fun n => UInt64.ofNat (n + 1) * l.tickSecs := by
  refine ⟨?_, fun l hl => (clocked_of_run run hl).published⟩
  refine run.invariant
    (I := fun p => p.shared.published.Perm (p.calls.flatMap TelemetryTask.published))
    (fun p a q hstarts hstep h => ?_) (List.Perm.refl _)
  obtain ⟨c, rfl, rfl⟩ | ⟨before, c, after, t, d, rfl, hcalls, hadvance, rfl⟩ := step_cases hstep
  · have hc : c.published = [] := by
      cases c with
      | loop l => rw [show l = _ from hstarts]; rfl
      | _ => rfl
    simpa [hc] using h
  · obtain ⟨new, ht, hd⟩ := published_section hadvance
    rw [hcalls] at h
    simp only [List.flatMap_append, List.flatMap_cons] at h ⊢
    rw [ht, hd]
    refine (h.append_right new).trans ?_
    simp only [List.append_assoc]
    exact ((List.perm_append_comm).append_left _).append_left _

theorem Sample.published_collector : ∃ q,
    TelemetryRun Starts ⟨{ files := Sample.files }, []⟩ Sample.collectorActions q ∧
    q.shared.published = [⟨⟨1500, 600, 5⟩, some 24⟩, ⟨⟨1500, 600, 1⟩, some 24⟩] ∧
    q.shared.published.Perm (q.calls.flatMap TelemetryTask.published) ∧
      ∀ l, .loop l ∈ q.calls → l.published.map (·.metrics.uptimeSeconds) =
        (List.range l.published.length).map fun n => UInt64.ofNat (n + 1) * l.tickSecs := by
  have hcheck : (Transition.runList (Pool.step TelemetryTask.advance) Starts
      ⟨{ files := Sample.files }, []⟩ Sample.collectorActions).any (fun q =>
        decide (q.shared.published = [⟨⟨1500, 600, 5⟩, some 24⟩, ⟨⟨1500, 600, 1⟩, some 24⟩])) =
      true := by decide +kernel
  obtain ⟨q, run, hpublished⟩ := Transition.exists_run_of_any hcheck
  exact ⟨q, run, of_decide_eq_true hpublished, published_of_run run⟩

/-! ## Stopping -/

/-- How much a task has published, and will before it looks at the flag. -/
def TelemetryTask.settled (c : TelemetryTask) : ℕ := c.published.length + c.due

theorem settled_section {p : TelemetryPool} {i : ℕ} {c d : TelemetryTask}
    (hguard : NoStart p (.resume i)) (hc : p.calls[i]? = some c)
    (hstopped : p.shared.isRunning = false) (h : c.advance p.shared = some (t, d)) :
    t.isRunning = false ∧ d.settled ≤ c.settled := by
  cases c with
  | loop l =>
      obtain ⟨l', hadvance, rfl⟩ := advance_loop_iff.mp h
      cases section_of_advance hadvance with
      | set hpc => exact absurd hpc (hguard l hc)
      | goOn _ hrunning | tick _ hrunning => simp [hstopped] at hrunning
      | leave hpc => exact ⟨hstopped, by simp [TelemetryTask.settled, TelemetryTask.due,
          TelemetryTask.published]⟩
      | probe hpc | sample hpc | store _ hpc | send _ hpc =>
          exact ⟨hstopped, by simp [TelemetryTask.settled, TelemetryTask.due,
            TelemetryTask.published, hpc]⟩
  | stop =>
      obtain ⟨rfl, rfl⟩ : _ ∧ _ = d := by simpa [TelemetryTask.advance] using h
      exact ⟨rfl, le_rfl⟩
  | host files liveRtt =>
      obtain ⟨rfl, rfl⟩ : _ ∧ _ = d := by simpa [TelemetryTask.advance] using h
      exact ⟨hstopped, le_rfl⟩
  | returned => cases h

/-- Once `is_running` is cleared, and until a `start` sets it, a loop that is past its checks
publishes once more and every other loop nothing. -/
theorem settled_of_stopped (hstopped : p.shared.isRunning = false)
    (run : TelemetryRun NoStart p as q) {i : ℕ} {c : TelemetryTask} (hc : p.calls[i]? = some c) :
    q.shared.isRunning = false ∧
      ∃ d, q.calls[i]? = some d ∧ d.published.length ≤ c.published.length + c.due := by
  obtain ⟨hq, d, hd, hsettled⟩ := exists_later (I := fun s => s.isRunning = false)
    (R := fun c d => d.settled ≤ c.settled) (fun _ => le_rfl) (fun _ _ _ h h' => h'.trans h)
    (fun p i c t d hguard hc hstopped h => settled_section hguard hc hstopped h) run hstopped hc
  exact ⟨hq, d, hd, (Nat.le_add_right _ _).trans hsettled⟩

/-- The event that is about to be sent when the collector is stopped. -/
theorem Sample.settled_sending : ∃ q,
    TelemetryRun NoStart ⟨{}, [Sample.loopAt (.sending {})]⟩ [.resume 0] q ∧
    q.shared.published = [{}] ∧ q.shared.isRunning = false ∧ ∃ d, q.calls[0]? = some d ∧
      d.published.length ≤
        (Sample.loopAt (.sending {})).published.length + (Sample.loopAt (.sending {})).due := by
  have run : TelemetryRun NoStart ⟨{}, [Sample.loopAt (.sending {})]⟩ [.resume 0] _ :=
    .cons (by simp [NoStart, Sample.loopAt]) rfl (.nil _)
  exact ⟨_, run, rfl, settled_of_stopped rfl run rfl⟩

/-! ## Loops that pile up -/

theorem alive_section {c d : TelemetryTask} (hguard : c ≠ .stop)
    (hrunning : s.isRunning = true) (h : c.advance s = some (t, d)) :
    t.isRunning = true ∧ (c.Alive → d.Alive) := by
  cases c with
  | loop l =>
      obtain ⟨l', hadvance, rfl⟩ := advance_loop_iff.mp h
      cases section_of_advance hadvance with
      | leave _ hstopped => simp [hrunning] at hstopped
      | tick hpc =>
          refine ⟨hrunning, fun _ => ?_⟩
          by_cases heven : (l.tickCounter + 1) % 2 = 0 <;>
            simp [TelemetryTask.Alive, CollectorLoop.tick, heven]
      | set hpc => exact ⟨rfl, fun _ => by simp [TelemetryTask.Alive]⟩
      | goOn hpc | probe hpc | sample hpc | store _ hpc | send _ hpc =>
          exact ⟨hrunning, fun _ => by simp [TelemetryTask.Alive]⟩
  | stop => exact absurd rfl hguard
  | host files liveRtt =>
      obtain ⟨rfl, rfl⟩ : _ ∧ _ = d := by simpa [TelemetryTask.advance] using h
      exact ⟨hrunning, id⟩
  | returned => cases h

/-- As long as nothing clears `is_running` no loop ends. -/
theorem alive_of_running (hrunning : p.shared.isRunning = true) (run : TelemetryRun NoStop p as q)
    {i : ℕ} {c : TelemetryTask} (hc : p.calls[i]? = some c) (halive : c.Alive) :
    q.shared.isRunning = true ∧ ∃ d, q.calls[i]? = some d ∧ d.Alive := by
  obtain ⟨hq, d, hd, hkeeps⟩ := exists_later (I := fun s => s.isRunning = true)
    (R := fun c d => c.Alive → d.Alive) (fun _ => id) (fun _ _ _ h h' => h' ∘ h)
    (fun p i c t d hguard hc hrunning h => alive_section (hguard c hc) hrunning h) run hrunning hc
  exact ⟨hq, d, hd, hkeeps halive⟩

/-- A loop that does not look at `is_running` goes on. -/
theorem alive_of_unseen {d : TelemetryTask} (hpc : l.pc ≠ .looping ∧ l.pc ≠ .sleeping)
    (h : TelemetryTask.advance s (.loop l) = some (t, d)) : d.Alive := by
  obtain ⟨l', hadvance, rfl⟩ := advance_loop_iff.mp h
  cases section_of_advance hadvance with
  | goOn hlooping => exact absurd hlooping hpc.1
  | leave hleaves => exact absurd hleaves (not_or.mpr hpc)
  | tick hsleeping => exact absurd hsleeping hpc.2
  | set | probe | sample | store | send => simp [TelemetryTask.Alive]

/-- Only a `start` sets `is_running`. -/
theorem started_of_set {c d : TelemetryTask} (hstopped : s.isRunning = false)
    (hset : t.isRunning = true) (h : c.advance s = some (t, d)) : ¬ c.Alive ∧ d.Alive := by
  cases c with
  | loop l =>
      obtain ⟨l', hadvance, rfl⟩ := advance_loop_iff.mp h
      cases section_of_advance hadvance with
      | set hpc => simp [TelemetryTask.Alive, hpc]
      | _ => simp_all
  | stop =>
      obtain ⟨rfl, -⟩ : _ ∧ _ = d := by simpa [TelemetryTask.advance] using h
      cases hset
  | host files liveRtt =>
      obtain ⟨rfl, -⟩ : _ ∧ _ = d := by simpa [TelemetryTask.advance] using h
      simp_all
  | returned => cases h

/-- A loop has gone on, and when `is_running` is set there is another one. -/
def Overlapping (i : ℕ) (p : TelemetryPool) : Prop :=
  (∃ c, p.calls[i]? = some c ∧ c.Alive) ∧
    (p.shared.isRunning = true → ∃ j ≠ i, ∃ c, p.calls[j]? = some c ∧ c.Alive)

theorem Overlapping.step {i : ℕ} {a : Interleaving.Action TelemetryTask} (h : Overlapping i p)
    (hguard : Unseen i p a) (hstep : p.step TelemetryTask.advance a = some q) : Overlapping i q := by
  obtain ⟨⟨c, hc, halive⟩, hother⟩ := h
  refine ⟨?_, fun hset => ?_⟩
  · obtain hc' | ⟨d, rfl, hadvance, hd⟩ := call_of_step hstep hc
    · exact ⟨c, hc', halive⟩
    · cases c with
      | loop l => exact ⟨d, hd, alive_of_unseen (hguard.2 rfl l hc) hadvance⟩
      | stop | host | returned => exact halive.elim
  · cases hrunning : p.shared.isRunning with
    | true =>
        obtain ⟨j, hj, e, he, halive'⟩ := hother hrunning
        obtain he' | ⟨d, -, hadvance, hd⟩ := call_of_step hstep he
        · exact ⟨j, hj, e, he', halive'⟩
        · have hstop : e ≠ .stop := by
            rintro rfl
            exact halive'
          exact ⟨j, hj, d, hd, (alive_section hstop hrunning hadvance).2 halive'⟩
    | false =>
        -- the step is the section that sets the flag
        obtain ⟨new, rfl, rfl⟩ | ⟨before, e, after, t, d, rfl, hcalls, hadvance, rfl⟩ :=
          step_cases hstep
        · simp [hrunning] at hset
        · obtain ⟨hended, hstarted⟩ := started_of_set hrunning hset hadvance
          refine ⟨before.length, ?_, d, by simp, hstarted⟩
          rintro rfl
          obtain rfl : e = c := Option.some.inj (by simpa [hcalls] using hc)
          exact hended halive

/-- Once a `stop` has cleared `is_running`, and a `start` has set it again before a loop has looked
at it, that loop and another one both go on until there is another `stop`. -/
theorem overlap_of_unseen {i : ℕ} {c : TelemetryTask} (hc : p.calls[i]? = some c) (halive : c.Alive)
    (hstopped : p.shared.isRunning = false) (run : TelemetryRun (Unseen i) p as q)
    (hset : q.shared.isRunning = true) :
    ∃ j ≠ i, ∀ as' r, TelemetryRun NoStop q as' r →
      (∃ c', r.calls[i]? = some c' ∧ c'.Alive) ∧ ∃ d', r.calls[j]? = some d' ∧ d'.Alive := by
  obtain ⟨⟨c', hc', halive'⟩, hother⟩ := run.invariant (I := Overlapping i)
    (fun _ _ _ hguard hstep h => h.step hguard hstep)
    ⟨⟨c, hc, halive⟩, fun h => by simp [hstopped] at h⟩
  obtain ⟨j, hj, d', hd', hnew⟩ := hother hset
  exact ⟨j, hj, fun as' r run => ⟨(alive_of_running hset run hc' halive').2,
    (alive_of_running hset run hd' hnew).2⟩⟩

/-- A collector is stopped and started again within a second. -/
theorem Sample.collector_overlap : ∃ p q,
    TelemetryRun (Unseen 0) ⟨{ isRunning := true }, [Sample.loopAt .sleeping]⟩
        [.start .stop, .resume 1] p ∧ p.shared.isRunning = false ∧
      TelemetryRun (Unseen 0) p
        [.start (.loop { intervalMs := 1000, ifaceName := "tun0".toList }), .resume 2] q ∧
      ∃ j ≠ 0, ∀ as' r, TelemetryRun NoStop q as' r →
        (∃ c', r.calls[0]? = some c' ∧ c'.Alive) ∧ ∃ d', r.calls[j]? = some d' ∧ d'.Alive := by
  have hstop : TelemetryRun (Unseen 0) ⟨{ isRunning := true }, [Sample.loopAt .sleeping]⟩
      [.start .stop, .resume 1] _ :=
    .cons ⟨trivial, by simp⟩ rfl (.cons ⟨trivial, by simp⟩ rfl (.nil _))
  have hstart : TelemetryRun (Unseen 0)
      ⟨{ isRunning := false }, [Sample.loopAt .sleeping, .returned]⟩
      [.start (.loop { intervalMs := 1000, ifaceName := "tun0".toList }), .resume 2] _ :=
    .cons ⟨rfl, by simp⟩ rfl (.cons ⟨trivial, by simp⟩ rfl (.nil _))
  exact ⟨_, _, hstop, rfl, hstart, overlap_of_unseen (c := Sample.loopAt .sleeping) rfl
    (by simp [TelemetryTask.Alive, Sample.loopAt]) rfl hstart rfl⟩

end VpnHub.Daemon
