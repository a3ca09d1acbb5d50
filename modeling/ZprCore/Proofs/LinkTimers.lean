import ZprCore.Km.LinkMachine
import ZprCore.Lib.Runs

/-! A link that is active is watched by a timer, and a timer that is out of date is ignored. -/

namespace ZprCore.Km
namespace LinkMachine
open Runs
variable {m : LinkMachine}

/-- An active link has armed a timer with the current clock, and the ready flag tells its state. -/
structure Supervised (m : LinkMachine) : Prop where
  armed : m.linkType ≠ .internal → m.state = .active → m.timeoutHandle = some m.ticks ∧ m.ticks ∈ m.tasks
  ready : m.ready = true ↔ m.up = true ∧ m.state = .active

namespace Supervised

theorem setState (m : LinkMachine) (state : LinkState) (other : m.linkType = .internal ∨ state ≠ .active) :
    (m.setState state).Supervised := by
  refine ⟨fun external active => ?_, decide_eq_true_iff⟩
  exact (other.resolve_left external active).elim

theorem setTimeout (ready : m.ready = true ↔ m.up = true ∧ m.state = .active) : m.setTimeout.Supervised :=
  ⟨fun _ _ => ⟨rfl, Finset.mem_insert_self _ _⟩, ready⟩

theorem continueClose (m : LinkMachine) : m.continueClose.Supervised := setTimeout decide_eq_true_iff

theorem runActive (m : LinkMachine) : m.runActive.Supervised := setTimeout decide_eq_true_iff

theorem initiateClose (supervised : m.Supervised) (request : CloseRequest) : (m.initiateClose request).Supervised := by
  rw [LinkMachine.initiateClose]
  split
  · exact supervised
  dsimp only
  split
  · exact setState _ .disconnecting (.inr nofun)
  · exact continueClose _

theorem new (linkType : LinkType) : (new linkType).Supervised := by
  rw [LinkMachine.new]
  split
  · next internal => exact setState _ .active (.inl internal)
  · exact ⟨fun _ => nofun, by simp⟩

variable (supervised : m.Supervised)
include supervised

theorem processStart : m.processStart.1.Supervised := by
  rw [LinkMachine.processStart]
  split
  · exact supervised
  · dsimp only
    split <;> exact setState _ _ (.inr nofun)

theorem processKeyingDone (established : Bool) : (m.processKeyingDone established).Supervised := by
  rw [LinkMachine.processKeyingDone]
  split
  · exact supervised
  dsimp only
  split
  · exact setTimeout decide_eq_true_iff
  · exact setState m .helloing (.inr nofun)

theorem processTimeout (clock : UInt64) (request : CloseRequest) : (m.processTimeout clock request).1.Supervised := by
  rw [LinkMachine.processTimeout]
  split
  · exact supervised
  split
  · exact (setState m .error (.inr nofun)).initiateClose request
  · split
    · exact (setState _ .error (.inr nofun)).initiateClose request
    · exact setTimeout supervised.ready
  · exact supervised
  · exact supervised

theorem processEvent (event : MachineEvent) : (m.processEvent event).1.Supervised := by
  cases event with
  | start => exact supervised.processStart
  | keyingDone established => exact supervised.processKeyingDone established
  | receivedHelloRequest isVs aaa request =>
    simp only [LinkMachine.processEvent, processHelloRequest]
    repeat' split
    · exact supervised
    · exact supervised.initiateClose request
    · exact runActive m
  | receivedHelloResponse success aaa vsBootstrap tunReady request =>
    simp only [LinkMachine.processEvent, processHelloResponse]
    repeat' split
    · exact supervised.initiateClose request
    · exact supervised
    · exact supervised
    · exact runActive m
  | receivedKeepAliveResponse =>
    rw [LinkMachine.processEvent, processKeepAliveResponse]
    split
    · exact supervised
    · exact setTimeout supervised.ready
  | receivedTerminateLink => exact setState m .closing (.inr nofun)
  | reset => exact setState m .resetting (.inr nofun)
  | receivedTerminateAck =>
    simp only [LinkMachine.processEvent]
    split
    · next closing => exact ⟨fun _ active => (nomatch closing.symm.trans active), supervised.ready⟩
    · exact supervised
  | receivedDisconnectAck =>
    simp only [LinkMachine.processEvent]
    split
    · exact continueClose m
    · exact supervised
  | close request | error request => exact supervised.initiateClose request
  | closeDone =>
    simp only [LinkMachine.processEvent, completeClose]
    split
    · exact supervised
    · exact supervised
    · exact setState m .inactive (.inr nofun)
    · exact supervised
  | timeout clock request => exact supervised.processTimeout clock request

end Supervised

end LinkMachine

/-- A link with the timers that `process_timeout` acted on, and the tick at which it did. -/
structure Watched where
  machine : LinkMachine
  acted : List (Nat × Nat)

/-- Echo requests are sent and answered at any time. -/
inductive WatchStep where
  | setState (state : LinkState)
  | setTimeout
  | cancelTimeout
  | echo (outstanding : Bool)
  | deliver (timer : Nat) (request : CloseRequest)

namespace Watched
open Runs

def step (w : Watched) : WatchStep → Except Panic Watched
  | .setState state => .ok { w with machine := w.machine.setState state }
  | .setTimeout => .ok { w with machine := w.machine.setTimeout }
  | .cancelTimeout => .ok { w with machine := w.machine.cancelTimeout }
  | .echo outstanding => .ok { w with machine := { w.machine with echo := outstanding } }
  | .deliver timer request =>
    let machine := { w.machine with tasks := w.machine.tasks.erase timer }
    .ok ⟨(machine.processTimeout (.ofNat timer) request).1,
      if UInt64.ofNat timer = machine.logicalClock then (timer, machine.ticks) :: w.acted else w.acted⟩

/-- A timer runs once, before the clock comes round. -/
def Allowed (w : Watched) : WatchStep → Prop
  | .deliver timer _ => timer ∈ w.machine.tasks ∧ w.machine.ticks < 2 ^ 64
  | .setState _ | .setTimeout | .cancelTimeout | .echo _ => True

instance (w : Watched) (step : WatchStep) : Decidable (w.Allowed step) := by
  unfold Allowed
  split <;> infer_instance

/-- Timers are armed as the clock goes on. -/
structure Later (m next : LinkMachine) : Prop where
  ticks : m.ticks ≤ next.ticks
  tasks : ∀ timer ∈ next.tasks, timer ∈ m.tasks ∨ m.ticks < timer ∧ timer ≤ next.ticks

theorem Later.setTimeout (m : LinkMachine) : Later m m.setTimeout := by
  constructor <;> grind [LinkMachine.setTimeout, LinkMachine.cancelTimeout]

theorem Later.processTimeout (m : LinkMachine) (clock : UInt64) (request : CloseRequest) :
    Later m (m.processTimeout clock request).1 := by
  simp only [LinkMachine.processTimeout, LinkMachine.initiateClose, LinkMachine.continueClose, LinkMachine.setState,
    LinkMachine.setTimeout, LinkMachine.cancelTimeout, LinkMachine.cleanUpLinkState]
  -- What is left are the numbers of the timers that were armed.
  repeat' split
  all_goals constructor <;> grind

/-- No timer is from the future. Those that were acted on were up to date then, and have run. -/
structure Orderly (w : Watched) : Prop where
  past : ∀ timer ∈ w.machine.tasks, timer ≤ w.machine.ticks
  distinct : (w.acted.map Prod.fst).Nodup
  current : ∀ turn ∈ w.acted, turn.1 = turn.2 ∧ turn.1 ≤ w.machine.ticks ∧ turn.1 ∉ w.machine.tasks

namespace Orderly
variable {w : Watched} (orderly : w.Orderly)
include orderly

theorem later {next} (later : Later w.machine next) : Orderly { w with machine := next } := by
  refine ⟨fun timer member => ?_, orderly.distinct, fun turn member => ?_⟩
  · obtain old | ⟨_, past⟩ := later.tasks timer member
    · exact (orderly.past timer old).trans later.ticks
    · exact past
  obtain ⟨same, past, ran⟩ := orderly.current turn member
  refine ⟨same, past.trans later.ticks, fun pending => ?_⟩
  obtain old | ⟨new, _⟩ := later.tasks _ pending
  · exact ran old
  · exact Nat.not_lt.mpr past new

theorem eq_ticks {timer} (pending : timer ∈ w.machine.tasks) (early : w.machine.ticks < 2 ^ 64)
    (same : UInt64.ofNat timer = w.machine.logicalClock) : timer = w.machine.ticks := by
  have past := orderly.past timer pending
  have values := congrArg UInt64.toNat same
  simp only [LinkMachine.logicalClock, UInt64.toNat_ofNat'] at values
  omega

theorem run {timer} (pending : timer ∈ w.machine.tasks) (early : w.machine.ticks < 2 ^ 64) :
    Orderly ⟨{ w.machine with tasks := w.machine.tasks.erase timer },
      if UInt64.ofNat timer = w.machine.logicalClock then (timer, w.machine.ticks) :: w.acted else w.acted⟩ := by
  have past other (member : other ∈ w.machine.tasks.erase timer) : other ≤ w.machine.ticks :=
    orderly.past other (Finset.mem_of_mem_erase member)
  have current turn (member : turn ∈ w.acted) :
      turn.1 = turn.2 ∧ turn.1 ≤ w.machine.ticks ∧ turn.1 ∉ w.machine.tasks.erase timer :=
    (orderly.current turn member).imp_right (.imp_right fun ran still => ran (Finset.mem_of_mem_erase still))
  split
  · next same =>
    have now := orderly.eq_ticks pending early same
    refine ⟨past, List.nodup_cons.mpr ⟨?_, orderly.distinct⟩, List.forall_mem_cons.mpr ⟨?_, current⟩⟩
    · intro before
      obtain ⟨turn, member, rfl⟩ := List.mem_map.mp before
      exact (orderly.current turn member).2.2 pending
    · exact ⟨now, Nat.le_of_eq now, Finset.notMem_erase _ _⟩
  · exact ⟨past, orderly.distinct, current⟩

theorem step {step next} (allowed : w.Allowed step) (stepped : w.step step = .ok next) : next.Orderly := by
  cases step with
  | setState state | cancelTimeout =>
    cases stepped
    exact orderly.later ⟨Nat.le_succ _, fun _ => .inl⟩
  | setTimeout =>
    cases stepped
    exact orderly.later (.setTimeout _)
  | echo outstanding =>
    cases stepped
    exact orderly.later ⟨Nat.le_refl _, fun _ => .inl⟩
  | deliver timer request =>
    cases stepped
    exact (orderly.run allowed.1 allowed.2).later (.processTimeout _ _ request)

end Orderly

theorem stale_timers_ignored {linkType : LinkType} {steps : List WatchStep} {w : Watched}
    (run : Run step Allowed ⟨.new linkType, []⟩ steps w) : (w.acted.map Prod.fst).Nodup ∧
      (∀ timer tick, (timer, tick) ∈ w.acted → timer = tick) ∧
      ∀ timer ∈ w.machine.tasks, timer ≠ w.machine.ticks → w.machine.ticks < 2 ^ 64 →
        ∀ request, w.machine.processTimeout (.ofNat timer) request = (w.machine, none) := by
  have start : Orderly ⟨.new linkType, []⟩ := by
    cases linkType <;> exact ⟨nofun, List.nodup_nil, nofun⟩
  have orderly := run.invariant Orderly (fun _ _ _ allowed orderly => orderly.step allowed) start
  refine ⟨orderly.distinct, fun timer tick member => (orderly.current _ member).1, ?_⟩
  intro timer pending other early request
  exact if_pos fun same => other (orderly.eq_ticks pending early same)

/-- The Hello of an adapter times out. Its timer is up to date, the one it replaced is not. -/
theorem stale_timers_ignored_sample : ∃ w, Run step Allowed ⟨.new .adapterToNode, []⟩
    [.setState .helloing, .setTimeout, .setTimeout, .deliver 2 ⟨false, false⟩, .deliver 3 ⟨false, false⟩] w ∧
    w.acted = [(3, 3)] ∧ (w.acted.map Prod.fst).Nodup := by
  apply Run.exists_imp (fun w => w.acted = [(3, 3)])
  · decide +kernel
  · intro w run acted
    exact ⟨acted, (stale_timers_ignored run).1⟩

end Watched
end ZprCore.Km
