import Perftools.Basic

/-!
# Event sources and the interval timer source

`ProfileEventSource` is the strategy a `ProfileHandler` drives, abstract over the state `σ` of
the source. `TimerProfileEventSource` drives the interval timers of one type; whether the threads
share one timer or each has its own (`TimerScope`) is fixed by the OS and unknown to the code,
which finds it out with the `timer_sharing_` state machine.
-/

namespace Perftools

/-- What a hook sees of its caller: the thread, and `handler_.GetFrequency()`. -/
structure Caller where
  thread : ThreadId
  frequency : ℤ

/-- The interface `ProfileEventSource` over the state `σ` of a source. -/
structure ProfileEventSource (σ : Type) where
  registerThread : Caller → ℤ → σ → σ
  registeredCallback : Caller → ℤ → σ → σ
  unregisteredCallback : Caller → ℤ → σ → σ
  reset : Caller → σ → σ
  getTicksSinceLastCall : σ → UInt32 × σ

/-- The values of `timer_sharing_`. -/
inductive TimerSharing
  | untouched
  | oneSet
  | shared
  | separate
  deriving DecidableEq, Repr

structure Timeval where
  tvSec : ℤ
  tvUsec : ℤ
  deriving DecidableEq, Repr

structure Itimerval where
  itInterval : Timeval
  itValue : Timeval
  deriving DecidableEq, Repr

/-- A `struct timeval` in canonical form, as `setitimer` requires. -/
def Timeval.Valid (v : Timeval) : Prop := 0 ≤ v.tvSec ∧ 0 ≤ v.tvUsec ∧ v.tvUsec ≤ 999999

instance : DecidablePred Timeval.Valid := fun v =>
  inferInstanceAs (Decidable (0 ≤ v.tvSec ∧ 0 ≤ v.tvUsec ∧ v.tvUsec ≤ 999999))

def Itimerval.Valid (v : Itimerval) : Prop := v.itInterval.Valid ∧ v.itValue.Valid

instance : DecidablePred Itimerval.Valid := fun v =>
  inferInstanceAs (Decidable (v.itInterval.Valid ∧ v.itValue.Valid))

def Itimerval.zero : Itimerval := ⟨⟨0, 0⟩, ⟨0, 0⟩⟩

/-- A timer is running when its remaining time `it_value` is not zero. -/
def Itimerval.running (v : Itimerval) : Bool := v.itValue.tvSec != 0 || v.itValue.tvUsec != 0

/-- Whether the interval timers of a type are one per process or one per thread. -/
inductive TimerScope
  | processShared
  | perThread
  deriving DecidableEq, Repr

def TimerScope.slot : TimerScope → ThreadId → ℕ
  | .processShared, _ => 0
  | .perThread, t => t

/-- The interval timers of one type, as the OS keeps them. -/
structure IntervalTimers where
  scope : TimerScope
  itimers : ℕ → Itimerval

namespace IntervalTimers

def disarmed (scope : TimerScope) : IntervalTimers := ⟨scope, fun _ => Itimerval.zero⟩

/-- `setitimer(timer_type_, &timer, 0)` from thread `t`; an invalid value is refused. -/
def setitimer (ts : IntervalTimers) (t : ThreadId) (v : Itimerval) : IntervalTimers :=
  if v.Valid then ⟨ts.scope, Function.update ts.itimers (ts.scope.slot t) v⟩ else ts

def getitimer (ts : IntervalTimers) (t : ThreadId) : Itimerval := ts.itimers (ts.scope.slot t)

def armed (ts : IntervalTimers) (k : ℕ) : Bool := (ts.itimers k).running

@[simp] theorem setitimer_scope (ts : IntervalTimers) (t v) : (ts.setitimer t v).scope = ts.scope := by
  unfold setitimer; split <;> rfl

theorem armed_setitimer (ts : IntervalTimers) (t : ThreadId) {v : Itimerval} (hv : v.Valid)
    (k : ℕ) : (ts.setitimer t v).armed k = if k = ts.scope.slot t then v.running else ts.armed k := by
  simp only [setitimer, if_pos hv, armed, Function.update_apply]
  split <;> rfl

@[simp] theorem disarmed_scope (scope : TimerScope) : (disarmed scope).scope = scope := rfl

@[simp] theorem armed_disarmed (scope : TimerScope) (k : ℕ) : (disarmed scope).armed k = false := rfl

end IntervalTimers

/-- `TimerProfileEventSource`; `timer_type_` only picks its timers and signal, so it stays implicit. -/
structure TimerProfileEventSource where
  timerSharing : TimerSharing
  timers : IntervalTimers

namespace TimerProfileEventSource

def init (timers : IntervalTimers) : TimerProfileEventSource := ⟨.untouched, timers⟩

/-- The interval `StartTimer` sets, as both the first delay and the period. -/
def startTimerValue (frequency : ℤ) : Itimerval :=
  let interval : Timeval := ⟨0, Int.tdiv 1000000 frequency⟩
  ⟨interval, interval⟩

def startTimer (src : TimerProfileEventSource) (c : Caller) : TimerProfileEventSource :=
  ⟨src.timerSharing, src.timers.setitimer c.thread (startTimerValue c.frequency)⟩

def stopTimer (src : TimerProfileEventSource) (c : Caller) : TimerProfileEventSource :=
  ⟨src.timerSharing, src.timers.setitimer c.thread Itimerval.zero⟩

def isTimerRunning (src : TimerProfileEventSource) (c : Caller) : Bool :=
  (src.timers.getitimer c.thread).running

/-- `TimerProfileEventSource::RegisterThread(callback_count)`. -/
def registerThread (c : Caller) (callbackCount : ℤ) (src : TimerProfileEventSource) :
    TimerProfileEventSource :=
  match src.timerSharing with
  | .untouched => { src.startTimer c with timerSharing := .oneSet }
  | .oneSet =>
    if src.isTimerRunning c then
      let src := { src with timerSharing := .shared }
      if callbackCount = 0 then src.stopTimer c else src
    else { src with timerSharing := .separate }.startTimer c
  | .shared => src
  | .separate => src.startTimer c

/-- `TimerProfileEventSource::RegisteredCallback(new_callback_count)`. -/
def registeredCallback (c : Caller) (newCallbackCount : ℤ) (src : TimerProfileEventSource) :
    TimerProfileEventSource :=
  if newCallbackCount = 1 ∧ src.timerSharing = .shared then src.startTimer c else src

/-- `TimerProfileEventSource::UnregisteredCallback(new_callback_count)`. -/
def unregisteredCallback (c : Caller) (newCallbackCount : ℤ) (src : TimerProfileEventSource) :
    TimerProfileEventSource :=
  if newCallbackCount = 0 ∧ src.timerSharing = .shared then src.stopTimer c else src

/-- `TimerProfileEventSource::Reset()`. -/
def reset (c : Caller) (src : TimerProfileEventSource) : TimerProfileEventSource :=
  { (if src.timerSharing = .shared then src.stopTimer c else src) with timerSharing := .untouched }

@[simp] theorem startTimer_timerSharing (src : TimerProfileEventSource) (c) :
    (src.startTimer c).timerSharing = src.timerSharing := rfl

@[simp] theorem stopTimer_timerSharing (src : TimerProfileEventSource) (c) :
    (src.stopTimer c).timerSharing = src.timerSharing := rfl

@[simp] theorem reset_timerSharing (c) (src : TimerProfileEventSource) :
    (reset c src).timerSharing = .untouched := rfl

@[simp] theorem registeredCallback_timerSharing (c n) (src : TimerProfileEventSource) :
    (registeredCallback c n src).timerSharing = src.timerSharing := by
  unfold registeredCallback; split <;> rfl

@[simp] theorem unregisteredCallback_timerSharing (c n) (src : TimerProfileEventSource) :
    (unregisteredCallback c n src).timerSharing = src.timerSharing := by
  unfold unregisteredCallback; split <;> rfl

theorem registeredCallback_of_ne_shared {src : TimerProfileEventSource}
    (h : src.timerSharing ≠ .shared) (c n) : registeredCallback c n src = src := by
  simp [registeredCallback, h]

theorem unregisteredCallback_of_ne_shared {src : TimerProfileEventSource}
    (h : src.timerSharing ≠ .shared) (c n) : unregisteredCallback c n src = src := by
  simp [unregisteredCallback, h]

theorem registerThread_timerSharing_of_decided {src : TimerProfileEventSource}
    (h : src.timerSharing = .shared ∨ src.timerSharing = .separate) (c n) :
    (registerThread c n src).timerSharing = src.timerSharing := by
  rcases h with h | h <;> simp [registerThread, h]

end TimerProfileEventSource

/-- The interval timer source as a `ProfileEventSource`; a delivery is always one tick. -/
def timerSource : ProfileEventSource TimerProfileEventSource where
  registerThread := TimerProfileEventSource.registerThread
  registeredCallback := TimerProfileEventSource.registeredCallback
  unregisteredCallback := TimerProfileEventSource.unregisteredCallback
  reset := TimerProfileEventSource.reset
  getTicksSinceLastCall src := (1, src)

inductive EventSourceType
  | timerRealtime
  | threadWallclock
  | timerCpu
  deriving DecidableEq, Repr

/-- `BuildEventSource` with the values of `CPUPROFILE_EVENT` and `CPUPROFILE_REALTIME`. -/
def buildEventSource (eventSourceType : String) (cpuprofileEvent cpuprofileRealtime : Option String) :
    EventSourceType :=
  let useEventSourceType :=
    if eventSourceType.isEmpty then
      let fromEnv := match cpuprofileEvent, cpuprofileRealtime with
        | some e, _ => e
        | none, some _ => "timer-realtime"
        | none, none => ""
      if fromEnv.isEmpty then "timer-cpu" else fromEnv
    else eventSourceType
  if useEventSourceType = "timer-realtime" then .timerRealtime
  else if useEventSourceType = "thread-wallclock" then .threadWallclock
  else .timerCpu

-- with no explicit request the default is the CPU-time timer
example : buildEventSource "" none none = .timerCpu := by decide

-- `CPUPROFILE_REALTIME` selects the real-time timer whatever its value, even empty
example (v : String) : buildEventSource "" none (some v) = .timerRealtime := rfl

-- a set `CPUPROFILE_EVENT` takes priority even when empty
example (v : Option String) : buildEventSource "" (some "") v = .timerCpu := by
  cases v <;> rfl

end Perftools
