import CaptainCue.Manager.Changes

/-!
This module contains `Network`, which tells the manager whether the internet is available, over the
reachability it watches. A change of the flags only queues a notification, and the notification
reads the flags that are the latest when it runs.
-/

/-! ## Reachability -/

structure SCNetworkReachabilityFlags where
  isWWAN : Bool := false
  reachable : Bool := false
  connectionRequired : Bool := false
  interventionRequired : Bool := false
  connectionOnTraffic : Bool := false
  connectionOnDemand : Bool := false
  -- the flags that say nothing about the connection
  transientConnection : Bool := false
  isLocalAddress : Bool := false
  isDirect : Bool := false
  deriving DecidableEq

inductive Connection where
  | unavailable | wifi | cellular
  deriving DecidableEq

def SCNetworkReachabilityFlags.connection (flags : SCNetworkReachabilityFlags) : Connection :=
  -- on a device
  if flags.reachable = false then
    .unavailable
  else
    let connection := Connection.unavailable
    let connection := if flags.connectionRequired = false then .wifi else connection
    let connection :=
      if flags.connectionOnTraffic ∨ flags.connectionOnDemand then
        if flags.interventionRequired = false then .wifi else connection
      else
        connection
    if flags.isWWAN then .cellular else connection

structure Reachability where
  flags : Option SCNetworkReachabilityFlags := none
  -- whether the callback of the flags is installed
  callback : Bool := false
  notifierRunning : Bool := false
  -- the blocks of `notifyReachabilityChanged` on the main queue
  queued : Nat := 0
  deriving DecidableEq

namespace Reachability

def setFlags (reachability : Reachability) (flags : SCNetworkReachabilityFlags) : Reachability :=
  -- with the `didSet` of `flags`
  if reachability.flags = some flags then
    reachability
  else
    { reachability with flags := some flags, queued := reachability.queued + 1 }

def stopNotifier (reachability : Reachability) : Reachability :=
  { reachability with callback := false, notifierRunning := false }

def setReachabilityFlags (reachability : Reachability) (flags : Option SCNetworkReachabilityFlags)
    : Reachability :=
  -- `flags` is what `SCNetworkReachabilityGetFlags` gives; where it fails, an error is thrown.
  match flags with
  | some flags => reachability.setFlags flags
  | none => reachability.stopNotifier

def startNotifier (reachability : Reachability) (installed : Bool)
    (flags : Option SCNetworkReachabilityFlags) : Reachability :=
  if reachability.notifierRunning then
    reachability
  else if installed = false then
    reachability.stopNotifier
  else
    let reachability := { reachability with callback := true }.setReachabilityFlags flags
    match flags with
    | some _ => { reachability with notifierRunning := true }
    | none => reachability

def load (reachability : Reachability) (flags : Option SCNetworkReachabilityFlags)
    : Reachability :=
  -- what reading `connection` does first
  if reachability.flags = none then
    reachability.setReachabilityFlags flags
  else
    reachability

def connection (reachability : Reachability) : Connection :=
  match reachability.flags with
  | some flags => flags.connection
  | none => .unavailable

end Reachability

/-! ## Network -/

def kNW_DISCONNECT : Nat := 0
def kNW_WIFI : Nat := 1
def kNW_CELL_2G : Nat := 2
def kNW_CELL_3G : Nat := 3
def kNW_CELL_4G : Nat := 4
def kNW_CELL_UNKNOWN : Nat := 5

inductive RadioAccessTechnology where
  | GPRS | Edge | CDMA1x
  | WCDMA | HSDPA | HSUPA | CDMAEVDORev0 | CDMAEVDORevA | CDMAEVDORevB | eHRPD
  | LTE
  | other

structure Network where
  reachability : Option Reachability := none
  isInternetAvailable : InternetState := .Unavailable
  status : Nat := kNW_DISCONNECT

namespace Network

structure Startup where
  -- Whether `Reachability()` returns, whether the callback can be installed, and what the calls of
  -- `SCNetworkReachabilityGetFlags` give.
  created : Bool
  installed : Bool
  flags : Nat → Option SCNetworkReachabilityFlags

def startMonitor (network : Network) (startup : Startup) : Network :=
  if network.reachability.isSome then
    network
  else if startup.created = false then
    network
  else
    let reach : Reachability := {}
    let reach := reach.load (startup.flags 0)
    let network := { network with
      isInternetAvailable :=
        if reach.connection = Connection.unavailable then .Unavailable else .Available
    }
    let reach := reach.load (startup.flags 1)
    let network := { network with
      status := if reach.connection = Connection.unavailable then kNW_WIFI else kNW_DISCONNECT
    }
    let reach := reach.load (startup.flags 2)
    -- `.none` is that of the optional, so the branch is taken whatever the connection is
    let reach := reach.load (startup.flags 3)
    let network := { network with
      status := if reach.connection = Connection.wifi then kNW_WIFI else kNW_CELL_UNKNOWN
    }
    { network with reachability := some (reach.startNotifier startup.installed (startup.flags 4)) }

def init (startup : Startup) : Network := startMonitor {} startup

def carrierStatus : Option RadioAccessTechnology → Nat
  | some .GPRS | some .Edge | some .CDMA1x => kNW_CELL_2G
  | some .WCDMA | some .HSDPA | some .HSUPA | some .CDMAEVDORev0 | some .CDMAEVDORevA
  | some .CDMAEVDORevB | some .eHRPD => kNW_CELL_3G
  | some .LTE => kNW_CELL_4G
  | _ => kNW_CELL_UNKNOWN

def whenReachable (network : Network) (connection : Connection)
    (carrierType : Option RadioAccessTechnology) : Network × Bool :=
  -- the network, and whether `kNetworkConnectionChangedNotification` is posted
  let network := { network with
    status := if connection = .wifi then kNW_WIFI else carrierStatus carrierType
  }
  if network.isInternetAvailable = .Unavailable then
    ({ network with isInternetAvailable := .Available }, true)
  else
    (network, false)

def whenUnreachable (network : Network) : Network × Bool :=
  let network := { network with status := kNW_DISCONNECT }
  if network.isInternetAvailable = .Available then
    ({ network with isInternetAvailable := .Unavailable }, true)
  else
    (network, false)

def notify (network : Network) (connection : Connection)
    (carrierType : Option RadioAccessTechnology) : Network × Bool :=
  -- the block of `notifyReachabilityChanged`
  if connection ≠ .unavailable then
    network.whenReachable connection carrierType
  else
    network.whenUnreachable

end Network

/-! ## The application -/

structure Application where
  network : Network
  manager : DataServiceManager

namespace Application

def configNetwork (manager : DataServiceManager) (network : Network) : DataServiceManager :=
  -- The manager holds the network itself; its field is what it reads there.
  { manager with network := network.isInternetAvailable }

def didFinishLaunching (manager : DataServiceManager) (startup : Network.Startup) : Application :=
  let network := Network.init startup
  { network, manager := (configNetwork manager network).checkAndMergeChangeInLocalDatabase }

def changeInternetConnection (app : Application) : Application :=
  -- the observer of `kNetworkConnectionChangedNotification`
  { app with
    manager := (configNetwork app.manager app.network).checkAndMergeChangeInLocalDatabase
  }

inductive Event where
  | flags (flags : SCNetworkReachabilityFlags)
  | notify (carrierType : Option RadioAccessTechnology)
  | manager (e : DataServiceManager.Event)

def IsOperation : DataServiceManager.Event → Bool
  | .network _ => false
  | _ => true

def Event.operation? : Event → Option DataServiceManager.Event
  | .manager e => some e
  | _ => none

section Step

variable (typeOf : String → Kind)

def step (app : Application) : Event → Option Application
  | .flags flags =>
    match app.network.reachability with
    | some reachability =>
      if reachability.callback then
        some { app with network.reachability := some (reachability.setFlags flags) }
      else
        none
    | none => none
  | .notify carrierType =>
    match app.network.reachability with
    | some reachability =>
      match reachability.queued with
      | queued + 1 =>
        let (network, posted) := app.network.notify reachability.connection carrierType
        let app := { app with
          network := { network with reachability := some { reachability with queued } }
        }
        if posted then some app.changeInternetConnection else some app
      | 0 => none
    | none => none
  | .manager e =>
    if IsOperation e then
      ((DataServiceManager.machine typeOf).step app.manager e).map fun manager =>
        { app with manager }
    else
      none

def machine : Machine Application Event where
  step := step typeOf

end Step

end Application

/-! ## What the network says -/

namespace Reachability

/--
Until the first block has run, one is queued exactly if the flags have been read.
-/
def Fresh (reachability : Reachability) : Prop :=
  reachability.queued = 0 ↔ reachability.flags = none

variable {reachability : Reachability}

theorem setFlags_flags (reachability : Reachability) (flags : SCNetworkReachabilityFlags)
    : (reachability.setFlags flags).flags = some flags := by
  unfold setFlags
  split
  . next heq => exact heq
  . rfl

theorem setFlags_queued (reachability : Reachability) (flags : SCNetworkReachabilityFlags)
    : (reachability.setFlags flags).queued
        = reachability.queued + if reachability.flags = some flags then 0 else 1 := by
  unfold setFlags
  split <;> rfl

theorem Fresh.setReachabilityFlags (h : reachability.Fresh)
    (flags : Option SCNetworkReachabilityFlags)
    : (reachability.setReachabilityFlags flags).Fresh := by
  cases flags with
  | none => exact h
  | some flags =>
    have hflags := setFlags_flags reachability flags
    have hqueued := setFlags_queued reachability flags
    change (reachability.setFlags flags).Fresh
    unfold Fresh at h ⊢
    rw [hflags, hqueued]
    refine iff_of_false ?_ (Option.some_ne_none flags)
    split
    . next heq =>
      rw [heq] at h
      simpa using h
    . omega

theorem Fresh.load (h : reachability.Fresh) (flags : Option SCNetworkReachabilityFlags)
    : (reachability.load flags).Fresh := by
  unfold Reachability.load
  split
  . exact h.setReachabilityFlags flags
  . exact h

theorem Fresh.startNotifier (h : reachability.Fresh) (installed : Bool)
    (flags : Option SCNetworkReachabilityFlags)
    : (reachability.startNotifier installed flags).Fresh := by
  unfold Reachability.startNotifier
  split
  . exact h
  . split
    . exact h
    . have hcallback : Fresh { reachability with callback := true } := h
      have hset := hcallback.setReachabilityFlags flags
      cases flags <;> exact hset

theorem setReachabilityFlags_flags_of_ne (h : reachability.flags ≠ none)
    (flags : Option SCNetworkReachabilityFlags)
    : (reachability.setReachabilityFlags flags).flags ≠ none := by
  cases flags with
  | none => exact h
  | some flags =>
    change (reachability.setFlags flags).flags ≠ none
    rw [setFlags_flags]
    exact Option.some_ne_none flags

theorem load_flags_of_ne (h : reachability.flags ≠ none)
    (flags : Option SCNetworkReachabilityFlags) : (reachability.load flags).flags ≠ none := by
  unfold load
  rw [if_neg h]
  exact h

theorem startNotifier_flags_of_ne (h : reachability.flags ≠ none) (installed : Bool)
    (flags : Option SCNetworkReachabilityFlags)
    : (reachability.startNotifier installed flags).flags ≠ none := by
  unfold startNotifier
  split
  . exact h
  . split
    . exact h
    . have hset :=
        @setReachabilityFlags_flags_of_ne { reachability with callback := true } h flags
      cases flags <;> exact hset

theorem connection_of_none (h : reachability.flags = none)
    : reachability.connection = .unavailable := by
  unfold connection
  rw [h]

end Reachability

namespace Network

def connection (network : Network) : Connection :=
  (network.reachability.map Reachability.connection).getD .unavailable

def queued (network : Network) : Nat :=
  (network.reachability.map Reachability.queued).getD 0

def flagsRead (network : Network) : Bool :=
  (network.reachability.bind Reachability.flags).isSome

def Fits : Connection → Nat → Prop
  | .unavailable, status => status = kNW_DISCONNECT
  | .wifi, status => status = kNW_WIFI
  | .cellular, status => kNW_CELL_2G ≤ status ∧ status ≤ kNW_CELL_UNKNOWN

/--
When no block is queued the network says what the latest flags say.
-/
structure Settled (network : Network) : Prop where
  read : 0 < network.queued → network.flagsRead
  available : network.queued = 0 →
    (network.isInternetAvailable = .Available ↔ network.connection ≠ .unavailable)
  status : network.queued = 0 → network.flagsRead → Fits network.connection network.status

theorem settled_of_fresh {network : Network} {first last : Reachability}
    (hlast : network.reachability = some last) (hfresh : last.Fresh)
    (hlater : first.flags ≠ none → last.flags ≠ none)
    (havailable : network.isInternetAvailable
      = if first.connection = Connection.unavailable then .Unavailable else .Available)
    : Settled network := by
  have hqueued : network.queued = last.queued := by
    unfold queued
    rw [hlast]
    rfl
  have hread : network.flagsRead ↔ last.flags ≠ none := by
    unfold flagsRead
    rw [hlast, ← Option.isSome_iff_ne_none]
    rfl
  refine ⟨?_, ?_, ?_⟩
  . intro hpos
    rw [hread]
    intro hnone
    rw [hqueued, hfresh.mpr hnone] at hpos
    exact absurd hpos (Nat.lt_irrefl 0)
  . intro hzero
    have hnone : last.flags = none := hfresh.mp (hqueued ▸ hzero)
    have hfirst : first.flags = none := not_not.mp (mt hlater (not_not.mpr hnone))
    have hconnection : network.connection = .unavailable := by
      unfold connection
      rw [hlast, Option.map_some, Option.getD_some, Reachability.connection_of_none hnone]
    rw [havailable, if_pos (Reachability.connection_of_none hfirst), hconnection]
    simp
  . intro hzero hflags
    exact absurd (hfresh.mp (hqueued ▸ hzero)) (hread.mp hflags)

theorem init_settled (startup : Startup) : Settled (init startup) := by
  cases hcreated : startup.created with
  | false =>
    have hinit : init startup = {} := by
      unfold init startMonitor
      simp [hcreated]
    rw [hinit]
    exact ⟨nofun, fun _ => iff_of_false nofun (fun h => h rfl), fun _ => nofun⟩
  | true =>
    have hfresh : Reachability.Fresh {} := iff_of_true rfl rfl
    have hfresh := (hfresh.load (startup.flags 0)).load (startup.flags 1)
    have hfresh := (hfresh.load (startup.flags 2)).load (startup.flags 3)
    have hlater (h : (Reachability.load {} (startup.flags 0)).flags ≠ none) :=
      Reachability.load_flags_of_ne
        (Reachability.load_flags_of_ne
          (Reachability.load_flags_of_ne h (startup.flags 1)) (startup.flags 2))
        (startup.flags 3)
    apply @settled_of_fresh _ (Reachability.load {} (startup.flags 0)) _ _
      (hfresh.startNotifier startup.installed (startup.flags 4))
    . intro h
      exact Reachability.startNotifier_flags_of_ne (hlater h) startup.installed (startup.flags 4)
    . unfold init startMonitor
      simp [hcreated]
    . unfold init startMonitor
      simp [hcreated]

theorem notify_available (network : Network) (connection : Connection)
    (carrierType : Option RadioAccessTechnology)
    : (network.notify connection carrierType).1.isInternetAvailable
        = if connection = .unavailable then .Unavailable else .Available := by
  unfold notify whenReachable whenUnreachable
  cases connection <;> cases network.isInternetAvailable <;> rfl

theorem notify_posted (network : Network) (connection : Connection)
    (carrierType : Option RadioAccessTechnology)
    : (network.notify connection carrierType).2
        = decide (network.isInternetAvailable
            ≠ (network.notify connection carrierType).1.isInternetAvailable) := by
  unfold notify whenReachable whenUnreachable
  cases connection <;> cases network.isInternetAvailable <;> rfl

theorem carrierStatus_fits (carrierType : Option RadioAccessTechnology)
    : kNW_CELL_2G ≤ carrierStatus carrierType ∧ carrierStatus carrierType ≤ kNW_CELL_UNKNOWN := by
  cases carrierType with
  | none => decide
  | some carrierType => cases carrierType <;> decide

theorem notify_fits (network : Network) (connection : Connection)
    (carrierType : Option RadioAccessTechnology)
    : Fits connection (network.notify connection carrierType).1.status := by
  unfold notify whenReachable whenUnreachable
  cases connection with
  | unavailable => cases hstate : network.isInternetAvailable <;> exact rfl
  | wifi => cases hstate : network.isInternetAvailable <;> exact rfl
  | cellular =>
    cases hstate : network.isInternetAvailable <;> exact carrierStatus_fits carrierType

end Network

namespace Application

variable {typeOf : String → Kind} {app app' : Application}

/-! ## What the manager sees -/

theorem operation_network {manager manager' : DataServiceManager} {e : DataServiceManager.Event}
    (he : IsOperation e)
    (hstep : (DataServiceManager.machine typeOf).step manager e = some manager')
    : manager'.network = manager.network := by
  have hmerge (manager : DataServiceManager) :=
    manager.checkAndMergeChangeInLocalDatabase_frame.network
  cases e with
  | addObject data =>
    obtain ⟨⟨-, hnew⟩, heq⟩ := Option.ite_none_right_eq_some.mp hstep
    cases heq
    rw [DataServiceManager.addObject_eq hnew, DataServiceManager.saveObject_eq_merge, hmerge]
    rfl
  | updateObject data =>
    obtain ⟨-, heq⟩ := Option.ite_none_right_eq_some.mp hstep
    cases heq
    change (manager.saveObject data .update).network = manager.network
    rw [DataServiceManager.saveObject_eq_merge, hmerge]
    rfl
  | deleteObject data =>
    obtain ⟨-, heq⟩ := Option.ite_none_right_eq_some.mp hstep
    cases heq
    rw [DataServiceManager.deleteObject_eq]
    clear hstep
    induction manager.cascade data generalizing manager with
    | nil => rfl
    | cons item items ih =>
      rw [List.foldl_cons, ih, DataServiceManager.deleteSingle_eq]
      exact hmerge _
  | checkAndMerge =>
    cases hstep
    exact hmerge manager
  | network state => cases he
  | applied =>
    obtain ⟨service, -, rfl⟩ := Option.map_eq_some_iff.mp hstep
    rfl
  | rejected err =>
    obtain ⟨service, -, rfl⟩ := Option.map_eq_some_iff.mp hstep
    rfl
  | completion i =>
    obtain ⟨item, err, l, r, -, rfl⟩ := DataServiceManager.deliver_eq_some hstep
    unfold DataServiceManager.completion
    split <;> rfl

structure Consistent (app : Application) : Prop where
  settled : app.network.Settled
  network : app.manager.network = app.network.isInternetAvailable

theorem didFinishLaunching_consistent (manager : DataServiceManager) (startup : Network.Startup)
    : Consistent (didFinishLaunching manager startup) where
  settled := Network.init_settled startup
  network := (DataServiceManager.checkAndMergeChangeInLocalDatabase_frame _).network

theorem flags_settled {network : Network} (h : network.Settled) {reachability : Reachability}
    (hreachability : network.reachability = some reachability) (flags : SCNetworkReachabilityFlags)
    : Network.Settled { network with reachability := some (reachability.setFlags flags) } := by
  have hflags := Reachability.setFlags_flags reachability flags
  have hqueued := Reachability.setFlags_queued reachability flags
  have hread : Network.flagsRead
      { network with reachability := some (reachability.setFlags flags) } = true := by
    unfold Network.flagsRead
    rw [Option.bind_some, hflags]
    rfl
  by_cases hsame : reachability.flags = some flags
  . have heq : reachability.setFlags flags = reachability := if_pos hsame
    rw [heq, ← hreachability]
    exact h
  . have hpos : Network.queued { network with reachability := some (reachability.setFlags flags) }
        = reachability.queued + 1 := by
      unfold Network.queued
      rw [Option.map_some, Option.getD_some, hqueued, if_neg hsame]
    refine ⟨fun _ => hread, ?_, ?_⟩
    . intro hzero
      rw [hpos] at hzero
      cases hzero
    . intro hzero
      rw [hpos] at hzero
      cases hzero

theorem notify_settled {network : Network} {reachability : Reachability} (queued : Nat)
    (hread : reachability.flags ≠ none) (carrierType : Option RadioAccessTechnology)
    : Network.Settled { (network.notify reachability.connection carrierType).1 with
        reachability := some { reachability with queued } } where
  read := by
    intro _
    exact Option.isSome_iff_ne_none.mpr hread
  available := by
    intro _
    dsimp only
    rw [network.notify_available]
    change _ ↔ reachability.connection ≠ .unavailable
    split
    . next heq => simp [heq]
    . next hne => simp [hne]
  status := by
    intro _ _
    exact network.notify_fits reachability.connection carrierType

theorem changeInternetConnection_network (manager : DataServiceManager) (state : InternetState)
    : (manager.changeInternetConnection state).network = state := by
  unfold DataServiceManager.changeInternetConnection
  split
  . next heq => exact heq
  . exact (DataServiceManager.checkAndMergeChangeInLocalDatabase_frame _).network

/--
Whether a notification is posted or not, the manager does what it does when it is told the state.
-/
theorem notify_cases {carrierType : Option RadioAccessTechnology}
    (hsame : app.manager.network = app.network.isInternetAvailable)
    (hstep : step typeOf app (.notify carrierType) = some app')
    : ∃ reachability queued, app.network.reachability = some reachability
        ∧ reachability.queued = queued + 1
        ∧ app'.network = { (app.network.notify reachability.connection carrierType).1 with
            reachability := some { reachability with queued } }
        ∧ app'.manager
          = app.manager.changeInternetConnection app'.network.isInternetAvailable := by
  dsimp only [step] at hstep
  split at hstep
  . next reachability hreachability =>
    split at hstep
    . next queued hqueued =>
      refine ⟨reachability, queued, hreachability, hqueued, ?_⟩
      have hposted := app.network.notify_posted reachability.connection carrierType
      generalize app.network.notify reachability.connection carrierType = notified
        at hstep hposted ⊢
      obtain ⟨network, posted⟩ := notified
      dsimp only at hstep hposted ⊢
      rw [← hsame] at hposted
      unfold DataServiceManager.changeInternetConnection
      split at hstep
      . next hchanged =>
        cases hstep
        rw [hposted, decide_eq_true_iff] at hchanged
        exact ⟨rfl, (if_neg hchanged).symm⟩
      . next hunchanged =>
        cases hstep
        rw [hposted, decide_eq_true_iff, not_not] at hunchanged
        exact ⟨rfl, (if_pos hunchanged).symm⟩
    . cases hstep
  . cases hstep

theorem step_refines (h : Consistent app) {e : Event}
    (hstep : (machine typeOf).step app e = some app')
    : Consistent app'
      ∧ ∃ ops, (DataServiceManager.machine typeOf).run app.manager ops = some app'.manager
        ∧ ops.filterMap (Option.guard IsOperation) = e.operation?.toList := by
  have hstep : step typeOf app e = some app' := hstep
  cases e with
  | flags flags =>
    dsimp only [step] at hstep
    split at hstep
    . next reachability hreachability =>
      obtain ⟨-, heq⟩ := Option.ite_none_right_eq_some.mp hstep
      cases heq
      exact ⟨⟨flags_settled h.settled hreachability flags, h.network⟩, [], rfl, rfl⟩
    . cases hstep
  | notify carrierType =>
    obtain ⟨reachability, queued, hreachability, hqueued, hnetwork, hmanager⟩ :=
      notify_cases h.network hstep
    have hread : reachability.flags ≠ none := by
      have hflags : app.network.flagsRead := by
        apply h.settled.read
        unfold Network.queued
        rw [hreachability, Option.map_some, Option.getD_some, hqueued]
        exact Nat.succ_pos queued
      unfold Network.flagsRead at hflags
      rw [hreachability] at hflags
      exact Option.isSome_iff_ne_none.mp hflags
    refine ⟨⟨?_, ?_⟩, [.network app'.network.isInternetAvailable], ?_, rfl⟩
    . rw [hnetwork]
      exact notify_settled queued hread carrierType
    . rw [hmanager]
      exact changeInternetConnection_network app.manager app'.network.isInternetAvailable
    . rw [hmanager]
      rfl
  | manager e =>
    obtain ⟨he, heq⟩ := Option.ite_none_right_eq_some.mp hstep
    obtain ⟨manager, hmanager, rfl⟩ := Option.map_eq_some_iff.mp heq
    refine ⟨⟨h.settled, ?_⟩, [e], ?_, ?_⟩
    . rw [← h.network]
      exact operation_network he hmanager
    . exact Machine.run_cons_eq_some.mpr ⟨manager, hmanager, rfl⟩
    . have hguard : Option.guard IsOperation e = some e := if_pos he
      rw [List.filterMap_cons, hguard]
      rfl

/--
The application is a run of the manager in which the user does the same, and when no notification
is queued the manager knows whether there is a connection.
-/
theorem run_refines_manager {manager : DataServiceManager} {startup : Network.Startup}
    {events : List Event}
    (hrun : (machine typeOf).run (didFinishLaunching manager startup) events = some app)
    : (∃ ops, (DataServiceManager.machine typeOf).run
          (configNetwork manager (Network.init startup)) (.checkAndMerge :: ops) = some app.manager
        ∧ ops.filterMap (Option.guard IsOperation) = events.filterMap Event.operation?)
      ∧ app.manager.network = app.network.isInternetAvailable
      ∧ (app.network.queued = 0 →
          (app.manager.network = .Available ↔ app.network.connection ≠ .unavailable)
            ∧ (app.network.flagsRead →
                Network.Fits app.network.connection app.network.status)) := by
  obtain ⟨hconsistent, ops, hops, hobserved⟩ :=
    Machine.run_refines Application.manager
      (fun _ _ _ h hstep => step_refines h hstep)
      (didFinishLaunching_consistent manager startup) hrun
  refine ⟨⟨ops, ?_, hobserved⟩, hconsistent.network, ?_⟩
  . exact Machine.run_cons_eq_some.mpr ⟨_, rfl, hops⟩
  . intro hzero
    rw [hconsistent.network]
    exact ⟨hconsistent.settled.available hzero, hconsistent.settled.status hzero⟩

def sampleStartup : Network.Startup where
  created := true
  installed := true
  flags := fun _ => some { reachable := true }

theorem run_refines_manager_offline_and_cellular
    : ∃ app,
        (machine fun _ => .shot).run
            (didFinishLaunching DataServiceManager.sampleManager sampleStartup)
            [.notify none, .flags {}, .notify none,
              .manager (.addObject (.shot DataServiceManager.sampleShot)),
              .flags { reachable := true, isWWAN := true, isDirect := true },
              .flags { reachable := true, isWWAN := true }, .notify (some .LTE), .notify none]
          = some app
          ∧ app.network.queued = 0
          ∧ app.manager.network = .Available
          ∧ app.manager.remoteDataService.pending.length = 1 := by
  have hrun : (machine fun _ => .shot).run
      (didFinishLaunching DataServiceManager.sampleManager sampleStartup)
      [.notify none, .flags {}, .notify none,
        .manager (.addObject (.shot DataServiceManager.sampleShot)),
        .flags { reachable := true, isWWAN := true, isDirect := true },
        .flags { reachable := true, isWWAN := true }, .notify (some .LTE), .notify none]
      = some _ := rfl
  have hknows := (run_refines_manager hrun).2.2 rfl
  exact ⟨_, hrun, rfl, hknows.1.mpr (by decide), rfl⟩

end Application
