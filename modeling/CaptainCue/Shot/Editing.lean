import CaptainCue.Manager.Convergence
import CaptainCue.Shot.CreateNewShotViewController

/-!
This module contains what the shot editor stores: the shot with the last choices of the user, for
any sequence of events before the submit.
-/

/--
What the editor can load and show.
-/
structure ShotModel.WellFormed (shot : ShotModel) : Prop where
  ballNumber : 1 ≤ shot.ballNumber ∧ shot.ballNumber ≤ 15
  result : 0 ≤ shot.result ∧ shot.result ≤ 4
  technicallyShot : shot.technicallyShot = 0 ∨ shot.technicallyShot = 1
  sorted : shot.mistakes.Pairwise (· < ·)
  mistakes : ∀ item ∈ shot.mistakes, 0 ≤ item ∧ item < 7
  nil : shot.technicallyShot = 1 → shot.mistakes = []

namespace CreateNewShotViewController

variable {controller controller' : CreateNewShotViewController} {events events' : List Event}

namespace Event

def ball? : Event → Option Int
  | .item index => some (index + 1)
  | _ => none

def result? : Event → Option Int
  | .segment index => some index
  | _ => none

def isOn? : Event → Option Bool
  | .switch position => some position
  | _ => none

end Event

def lastChosen {α : Type} (chosen : Event → Option α) (events : List Event) : Option α :=
  (events.filterMap chosen).getLast?

def tappedOddly (row : Nat) (events : List Event) : Bool :=
  decide (events.count (.row row) % 2 = 1)

def marked (controller : CreateNewShotViewController) (row : Nat) : Bool :=
  decide ((row : Int) ∈ controller.mistakeDict)

theorem lastChosen_append {α : Type} (chosen : Event → Option α) (events events' : List Event)
    : lastChosen chosen (events ++ events')
        = (lastChosen chosen events').or (lastChosen chosen events) := by
  unfold lastChosen
  rw [List.filterMap_append, List.getLast?_append]

theorem tappedOddly_append (row : Nat) (events events' : List Event)
    : tappedOddly row (events ++ events') = (tappedOddly row events ^^ tappedOddly row events') := by
  unfold tappedOddly
  rw [List.count_append, Bool.eq_iff_iff, Bool.xor_iff_ne, decide_eq_true_iff, ne_eq,
    decide_eq_decide]
  omega

/-! ## What the events do to the screen -/

structure Consistent (controller : CreateNewShotViewController) : Prop where
  ball : -1 ≤ controller.selectedIndex ∧ controller.selectedIndex ≤ 14
  disabled : controller.isMistakeDisabled = controller.isOn
  result : 0 ≤ controller.selectedSegmentIndex ∧ controller.selectedSegmentIndex ≤ 4
  selected : ∀ item ∈ controller.mistakeDict, controller.mistakeDict.lookup item = some true
  rows : ∀ item ∈ controller.mistakeDict, 0 ≤ item ∧ item < 7

structure Follows (controller : CreateNewShotViewController) (events : List Event)
    (controller' : CreateNewShotViewController) : Prop where
  reportData : controller'.reportData = controller.reportData
  shotResult : controller'.shotResult = controller.shotResult
  ball : controller'.selectedIndex + 1
    = (lastChosen Event.ball? events).getD (controller.selectedIndex + 1)
  result : controller'.selectedSegmentIndex
    = (lastChosen Event.result? events).getD controller.selectedSegmentIndex
  isOn : controller'.isOn = (lastChosen Event.isOn? events).getD controller.isOn
  marked : ∀ row, controller'.marked row = (controller.marked row ^^ tappedOddly row events)

theorem Follows.refl (controller : CreateNewShotViewController)
    : Follows controller [] controller := by
  refine ⟨rfl, rfl, rfl, rfl, rfl, ?_⟩
  intro row
  simp [tappedOddly]

theorem Follows.trans {controller'' : CreateNewShotViewController}
    (h : Follows controller events controller') (h' : Follows controller' events' controller'')
    : Follows controller (events ++ events') controller'' where
  reportData := h'.reportData.trans h.reportData
  shotResult := h'.shotResult.trans h.shotResult
  ball := by rw [h'.ball, h.ball, lastChosen_append, Option.getD_or]
  result := by rw [h'.result, h.result, lastChosen_append, Option.getD_or]
  isOn := by rw [h'.isOn, h.isOn, lastChosen_append, Option.getD_or]
  marked := by
    intro row
    rw [h'.marked, h.marked, tappedOddly_append, Bool.xor_assoc]

theorem didSelectRowAt_eq (controller : CreateNewShotViewController) (row : Nat)
    : controller.didSelectRowAt row
        = { controller with mistakeDict := (controller.didSelectRowAt row).mistakeDict } := by
  unfold didSelectRowAt
  dsimp only
  split <;> rfl

theorem mem_didSelectRowAt (h : Consistent controller) (row : Nat) (item : Int)
    : item ∈ (controller.didSelectRowAt row).mistakeDict
        ↔ if item = row then item ∉ controller.mistakeDict else item ∈ controller.mistakeDict := by
  unfold didSelectRowAt
  dsimp only
  split
  . next hselected =>
    have hmem : (row : Int) ∈ controller.mistakeDict := by
      rw [← AList.lookup_isSome, hselected]
      rfl
    rw [AList.mem_erase]
    split
    . next heq => simp [heq, hmem]
    . next hne => simp [hne]
  . next hselected =>
    have hmem : (row : Int) ∉ controller.mistakeDict := fun hmem => hselected (h.selected _ hmem)
    rw [AList.mem_insert]
    split
    . next heq => simp [heq, hmem]
    . next hne => simp [hne]

theorem lookup_didSelectRowAt (h : Consistent controller) (row : Nat) {item : Int}
    (hitem : item ∈ (controller.didSelectRowAt row).mistakeDict)
    : (controller.didSelectRowAt row).mistakeDict.lookup item = some true := by
  rw [mem_didSelectRowAt h] at hitem
  unfold didSelectRowAt
  dsimp only
  split
  . next hselected =>
    have hne : item ≠ row := by
      rintro rfl
      rw [if_pos rfl, ← AList.lookup_eq_none, hselected] at hitem
      cases hitem
    rw [if_neg hne] at hitem
    rw [AList.lookup_erase_ne hne]
    exact h.selected item hitem
  . next hselected =>
    by_cases heq : item = row
    . rw [heq, AList.lookup_insert]
    . rw [if_neg heq] at hitem
      rw [AList.lookup_insert_ne heq]
      exact h.selected item hitem

theorem didSelectRowAt_consistent (h : Consistent controller) {row : Nat} (hrow : row < numberOfRows)
    : Consistent (controller.didSelectRowAt row) where
  ball := by
    rw [didSelectRowAt_eq]
    exact h.ball
  disabled := by
    rw [didSelectRowAt_eq]
    exact h.disabled
  result := by
    rw [didSelectRowAt_eq]
    exact h.result
  selected := fun item hitem => lookup_didSelectRowAt h row hitem
  rows := by
    intro item hitem
    rw [mem_didSelectRowAt h] at hitem
    split at hitem
    . next heq =>
      have : row < 7 := hrow
      omega
    . exact h.rows item hitem

theorem marked_didSelectRowAt (h : Consistent controller) (item row : Nat)
    : (controller.didSelectRowAt item).marked row
        = (controller.marked row ^^ decide (item = row)) := by
  unfold marked
  rw [Bool.eq_iff_iff, Bool.xor_iff_ne, decide_eq_true_iff, mem_didSelectRowAt h, ne_eq,
    decide_eq_decide]
  by_cases heq : item = row
  . simp [heq]
  . have : (row : Int) ≠ item := by omega
    simp [heq, this]

theorem step_follows (h : Consistent controller) {event : Event}
    (hstep : machine.step controller event = some controller')
    : Consistent controller' ∧ Follows controller [event] controller' := by
  have hstep : step controller event = some controller' := hstep
  cases event with
  | item index =>
    obtain ⟨hindex, heq⟩ := Option.ite_none_right_eq_some.mp hstep
    cases heq
    refine ⟨⟨?_, h.disabled, h.result, h.selected, h.rows⟩, ⟨rfl, rfl, rfl, rfl, rfl, ?_⟩⟩
    . have : (index : Int) < 15 := hindex
      unfold didSelectItemAt
      dsimp only
      omega
    . intro row
      exact (Bool.xor_false _).symm
  | segment index =>
    obtain ⟨hindex, heq⟩ := Option.ite_none_right_eq_some.mp hstep
    cases heq
    refine ⟨⟨h.ball, h.disabled, ?_, h.selected, h.rows⟩, ⟨rfl, rfl, rfl, rfl, rfl, ?_⟩⟩
    . have : index < 5 := hindex
      dsimp only
      omega
    . intro row
      exact (Bool.xor_false _).symm
  | switch isOn =>
    cases hstep
    refine ⟨⟨h.ball, rfl, h.result, h.selected, h.rows⟩, ⟨rfl, rfl, rfl, rfl, rfl, ?_⟩⟩
    intro row
    exact (Bool.xor_false _).symm
  | row row =>
    obtain ⟨⟨hrow, -⟩, heq⟩ := Option.ite_none_right_eq_some.mp hstep
    cases heq
    have hmarked (row' : Nat) : (controller.didSelectRowAt row).marked row'
        = (controller.marked row' ^^ tappedOddly row' [.row row]) := by
      rw [marked_didSelectRowAt h]
      unfold tappedOddly
      rw [List.count_singleton, beq_eq_decide]
      by_cases heq : row = row'
      . simp [heq]
      . simp [heq]
    refine ⟨didSelectRowAt_consistent h hrow, ?_⟩
    rw [didSelectRowAt_eq] at hmarked ⊢
    exact ⟨rfl, rfl, rfl, rfl, rfl, hmarked⟩

theorem run_follows (h : Consistent controller)
    (hrun : machine.run controller events = some controller')
    : Consistent controller' ∧ Follows controller events controller' := by
  induction events generalizing controller with
  | nil =>
    cases hrun
    exact ⟨h, Follows.refl _⟩
  | cons event events ih =>
    obtain ⟨next, hstep, hrun⟩ := Machine.run_cons_eq_some.mp hrun
    obtain ⟨hnext, hfirst⟩ := step_follows h hstep
    obtain ⟨hlast, hrest⟩ := ih hnext hrun
    exact ⟨hlast, hfirst.trans hrest⟩

/-! ## What the screen shows first -/

theorem mem_foldl_insert {items : List Int} {mistakeDict : AList fun _ : Int => Bool} {item : Int}
    : item ∈ items.foldl (fun mistakeDict item => mistakeDict.insert item true) mistakeDict
        ↔ item ∈ items ∨ item ∈ mistakeDict := by
  induction items generalizing mistakeDict with
  | nil => simp
  | cons first items ih =>
    rw [List.foldl_cons, ih, AList.mem_insert, List.mem_cons]
    tauto

theorem lookup_foldl_insert {items : List Int} {mistakeDict : AList fun _ : Int => Bool}
    (h : ∀ item ∈ mistakeDict, mistakeDict.lookup item = some true) (item : Int)
    (hitem : item ∈ items.foldl (fun mistakeDict item => mistakeDict.insert item true) mistakeDict)
    : (items.foldl (fun mistakeDict item => mistakeDict.insert item true) mistakeDict).lookup item
        = some true := by
  induction items generalizing mistakeDict with
  | nil => exact h item hitem
  | cons first items ih =>
    apply ih _ hitem
    intro item hitem
    by_cases heq : item = first
    . rw [heq, AList.lookup_insert]
    . rw [AList.lookup_insert_ne heq]
      rw [AList.mem_insert] at hitem
      exact h item (hitem.resolve_left heq)

theorem viewDidLoad_consistent (reportData : ReportModel) {shotResult : Option ShotModel}
    (h : ∀ shot, shotResult = some shot → shot.WellFormed)
    : Consistent (opened reportData shotResult).viewDidLoad := by
  cases shotResult with
  | none =>
    refine ⟨⟨le_rfl, (by decide : (-1 : Int) ≤ 14)⟩, rfl,
      ⟨(by decide : (0 : Int) ≤ 2), (by decide : (2 : Int) ≤ 4)⟩, ?_, ?_⟩
    . intro item hitem
      exact absurd hitem (AList.notMem_empty item)
    . intro item hitem
      exact absurd hitem (AList.notMem_empty item)
  | some shot =>
    have hshot := h shot rfl
    have hball : -1 ≤ shot.ballNumber - 1 ∧ shot.ballNumber - 1 ≤ 14 := by
      have := hshot.ballNumber
      omega
    refine ⟨hball, rfl, hshot.result, ?_, ?_⟩
    . intro item hitem
      apply lookup_foldl_insert _ item hitem
      intro item hitem
      exact absurd hitem (AList.notMem_empty item)
    . intro item hitem
      cases mem_foldl_insert.mp hitem with
      | inl hmem => exact hshot.mistakes item hmem
      | inr hempty => exact absurd hempty (AList.notMem_empty item)

theorem marked_viewDidLoad (reportData : ReportModel) (shotResult : Option ShotModel) (row : Nat)
    : (opened reportData shotResult).viewDidLoad.marked row
        = decide ((row : Int) ∈ (shotResult.map ShotModel.mistakes).getD []) := by
  unfold marked
  apply decide_eq_decide.mpr
  cases shotResult with
  | none => simp [viewDidLoad, setupViews, setupDatas, opened]
  | some shot =>
    have hmem := @mem_foldl_insert shot.mistakes ∅ row
    exact hmem.trans (or_iff_left (AList.notMem_empty _))

/-! ## What a submit stores -/

theorem sortedBy_keys (h : Consistent controller)
    : sortedBy id controller.mistakeDict.keys
        = ((List.range 7).filter controller.marked).map Int.ofNat := by
  symm
  apply eq_sortedBy
  . apply (List.perm_ext_iff_of_nodup _ controller.mistakeDict.keys_nodup).mpr
    . intro item
      rw [List.mem_map, ← AList.mem_keys]
      constructor
      . rintro ⟨row, hrow, rfl⟩
        exact of_decide_eq_true (List.mem_filter.mp hrow).2
      . intro hitem
        obtain ⟨row, rfl⟩ := Int.eq_ofNat_of_zero_le (h.rows item hitem).1
        refine ⟨row, List.mem_filter.mpr ⟨?_, decide_eq_true hitem⟩, rfl⟩
        have hlt : (row : Int) < 7 := (h.rows row hitem).2
        rw [List.mem_range]
        omega
    . exact (List.nodup_range.filter _).map fun _ _ => Int.ofNat.inj
  . apply List.pairwise_map.mpr
    apply (List.pairwise_lt_range.filter _).imp
    intro row row' hlt
    exact Int.ofNat_le.mpr hlt.le
  . intro a _ b _ heq
    exact heq

def chosenBall (shotResult : Option ShotModel) (events : List Event) : Option Int :=
  (lastChosen Event.ball? events).or (shotResult.map ShotModel.ballNumber)

def chosenResult (shotResult : Option ShotModel) (events : List Event) : Int :=
  ((lastChosen Event.result? events).or (shotResult.map ShotModel.result)).getD
    ResultType.hold.rawValue

def chosenSwitch (shotResult : Option ShotModel) (events : List Event) : Bool :=
  ((lastChosen Event.isOn? events).or
    (shotResult.map fun shot => decide (shot.technicallyShot = 1))).getD false

def chosenMistakes (shotResult : Option ShotModel) (events : List Event) : List Int :=
  let rows := (List.range 7).filter fun row : Nat =>
    decide ((row : Int) ∈ (shotResult.map ShotModel.mistakes).getD []) ^^ tappedOddly row events
  rows.map Int.ofNat

def Editable (manager : DataServiceManager) (context : SubmitContext) : Option ShotModel → Prop
  | some shot => manager.realm.object .shot shot.id = some (.shot shot)
  | none => manager.realm.object .shot context.uuidString = none

def submitted (controller : CreateNewShotViewController) (context : SubmitContext) : ShotModel where
  id := (controller.shotResult.map ShotModel.id).getD context.uuidString
  ballNumber := controller.selectedIndex + 1
  result := controller.selectedSegmentIndex
  technicallyShot := if controller.isOn then 1 else 0
  time := (controller.shotResult.map ShotModel.time).getD context.date
  reportID := (controller.shotResult.map ShotModel.reportID).getD controller.reportData.id
  mistakes :=
    if controller.isOn then
      []
    else
      ((List.range 7).filter controller.marked).map Int.ofNat

theorem lacksBall_eq_false_iff (h : Consistent controller)
    : controller.lacksBall = false ↔ 0 ≤ controller.selectedIndex := by
  have hle : controller.selectedIndex ≤ 14 := h.ball.2
  unfold lacksBall Constants.CreateNewShotVC.clsvNumberOfItems
  rw [decide_eq_false_iff_not]
  omega

theorem btnSubmitWasTapped_eq (manager : DataServiceManager) (context : SubmitContext)
    (h : Consistent controller) (hball : controller.lacksBall = false)
    : controller.btnSubmitWasTapped context manager
        =
      match controller.shotResult with
      | some _ => manager.updateObject (.shot (controller.submitted context))
      | none => manager.addObject (.shot (controller.submitted context)) := by
  unfold btnSubmitWasTapped submitted
  rw [if_neg (by simp [hball]), sortedBy_keys h]
  cases controller.shotResult with
  | some shot => cases controller.isOn <;> rfl
  | none => cases controller.isOn <;> rfl

theorem btnSubmitWasTapped_object {manager : DataServiceManager} {context : SubmitContext}
    (hverdicts : manager.verdicts = []) (h : Consistent controller)
    (heditable : Editable manager context controller.shotResult)
    (hball : controller.lacksBall = false) (T : Kind) (id : String)
    : (controller.btnSubmitWasTapped context manager).realm.object T id
        =
      if T = .shot ∧ id = (controller.submitted context).id then
        some (.shot (controller.submitted context))
      else
        manager.realm.object T id := by
  rw [btnSubmitWasTapped_eq manager context h hball]
  cases hshot : controller.shotResult with
  | some shot => exact DataServiceManager.saveObject_object hverdicts _ _ T id
  | none =>
    have hnew : manager.realm.object .shot (controller.submitted context).id = none := by
      unfold submitted
      rw [hshot] at heditable ⊢
      exact heditable
    dsimp only
    rw [DataServiceManager.addObject_eq hnew]
    exact DataServiceManager.saveObject_object hverdicts _ _ T id

theorem btnSubmitWasTapped_verdicts {manager : DataServiceManager}
    (hverdicts : manager.verdicts = []) (context : SubmitContext)
    : (controller.btnSubmitWasTapped context manager).verdicts = [] := by
  unfold btnSubmitWasTapped
  split
  . exact hverdicts
  . cases controller.shotResult with
    | some shot => exact DataServiceManager.saveObject_verdicts hverdicts _ _
    | none => exact DataServiceManager.addObject_verdicts hverdicts _

theorem submitted_wellFormed (context : SubmitContext) (h : Consistent controller)
    (hball : controller.lacksBall = false) : (controller.submitted context).WellFormed where
  ballNumber := by
    have hle : controller.selectedIndex ≤ 14 := h.ball.2
    rw [lacksBall_eq_false_iff h] at hball
    unfold submitted
    dsimp only
    omega
  result := h.result
  technicallyShot := by
    unfold submitted
    cases controller.isOn
    . exact .inl rfl
    . exact .inr rfl
  sorted := by
    unfold submitted
    dsimp only
    split
    . exact .nil
    . apply List.pairwise_map.mpr
      apply (List.pairwise_lt_range.filter _).imp
      intro row row' hlt
      exact Int.ofNat_lt.mpr hlt
  mistakes := by
    intro item hitem
    unfold submitted at hitem
    dsimp only at hitem
    split at hitem
    . cases hitem
    . obtain ⟨row, hrow, rfl⟩ := List.mem_map.mp hitem
      have hlt := List.mem_range.mp (List.mem_of_mem_filter hrow)
      rw [Int.ofNat_eq_natCast]
      omega
  nil := by
    unfold submitted
    cases controller.isOn
    . intro hzero
      cases hzero
    . intro _
      rfl

theorem chosenBall_pos {shotResult : Option ShotModel}
    (h : ∀ shot, shotResult = some shot → shot.WellFormed) {ball : Int}
    (hball : chosenBall shotResult events = some ball) : 1 ≤ ball := by
  cases Option.or_eq_some_iff.mp hball with
  | inl hchosen =>
    obtain ⟨event, -, hevent⟩ := List.mem_filterMap.mp (List.mem_of_getLast? hchosen)
    unfold Event.ball? at hevent
    split at hevent
    . cases hevent
      omega
    . cases hevent
  | inr hinitial =>
    obtain ⟨shot, hshot, rfl⟩ := Option.map_eq_some_iff.mp hinitial.2
    exact (h shot hshot).ballNumber.1

theorem Follows.selectedIndex {reportData : ReportModel} {shotResult : Option ShotModel}
    (h : Follows (opened reportData shotResult).viewDidLoad events controller)
    : controller.selectedIndex + 1 = (chosenBall shotResult events).getD 0 := by
  rw [h.ball, chosenBall, Option.getD_or]
  congr 1
  cases shotResult with
  | none => rfl
  | some shot => exact Int.sub_add_cancel shot.ballNumber 1

theorem Follows.submitted_eq {reportData : ReportModel} {shotResult : Option ShotModel}
    (h : Follows (opened reportData shotResult).viewDidLoad events controller)
    (context : SubmitContext) {ball : Int} (hball : chosenBall shotResult events = some ball)
    : controller.submitted context
        =
      { id := (shotResult.map ShotModel.id).getD context.uuidString
        ballNumber := ball
        result := chosenResult shotResult events
        technicallyShot := if chosenSwitch shotResult events then 1 else 0
        time := (shotResult.map ShotModel.time).getD context.date
        reportID := (shotResult.map ShotModel.reportID).getD reportData.id
        mistakes :=
          if chosenSwitch shotResult events then [] else chosenMistakes shotResult events
      } := by
  have hshotResult : controller.shotResult = shotResult := by
    rw [h.shotResult]
    cases shotResult <;> rfl
  have hreportData : controller.reportData = reportData := by
    rw [h.reportData]
    cases shotResult <;> rfl
  have hresult : controller.selectedSegmentIndex = chosenResult shotResult events := by
    rw [h.result, chosenResult, Option.getD_or]
    cases shotResult <;> rfl
  have hisOn : controller.isOn = chosenSwitch shotResult events := by
    rw [h.isOn, chosenSwitch, Option.getD_or]
    cases shotResult <;> rfl
  have hmistakes : ((List.range 7).filter controller.marked).map Int.ofNat
      = chosenMistakes shotResult events := by
    unfold chosenMistakes
    congr 2
    funext row
    rw [h.marked, marked_viewDidLoad]
  have hindex := h.selectedIndex
  rw [hball] at hindex
  unfold submitted
  rw [hshotResult, hreportData, hresult, hisOn, hmistakes, hindex]
  rfl

theorem btnSubmitWasTapped_of_none {reportData : ReportModel} {shotResult : Option ShotModel}
    (h : Follows (opened reportData shotResult).viewDidLoad events controller)
    (hball : chosenBall shotResult events = none) (context : SubmitContext)
    (manager : DataServiceManager) : controller.btnSubmitWasTapped context manager = manager := by
  have hindex := h.selectedIndex
  rw [hball, Option.getD_none] at hindex
  have hlacks : controller.lacksBall = true := decide_eq_true (.inl (by omega))
  unfold btnSubmitWasTapped
  rw [if_pos hlacks]

/--
The rows that are marked at the end are those of the initial mistakes, each flipped once per tap.
-/
theorem submit_exact {reportData : ReportModel} {shotResult : Option ShotModel}
    {manager : DataServiceManager} {context : SubmitContext} (hverdicts : manager.verdicts = [])
    (hwellFormed : ∀ id shot, manager.realm.object .shot id = some (.shot shot) → shot.WellFormed)
    (heditable : Editable manager context shotResult)
    (hrun : machine.run (opened reportData shotResult).viewDidLoad events = some controller)
    : (chosenBall shotResult events = none → controller.btnSubmitWasTapped context manager = manager)
        ∧ (∀ ball, chosenBall shotResult events = some ball →
            ∃ shot : ShotModel,
              (controller.btnSubmitWasTapped context manager).realm.object .shot shot.id
                  = some (.shot shot)
                ∧ shot.WellFormed
                ∧ shot.ballNumber = ball
                ∧ shot.result = chosenResult shotResult events
                ∧ shot.technicallyShot = (if chosenSwitch shotResult events then 1 else 0)
                ∧ shot.mistakes
                    = (if chosenSwitch shotResult events then
                        []
                      else
                        chosenMistakes shotResult events)
                ∧ (∀ old, shotResult = some old →
                    shot.id = old.id ∧ shot.time = old.time ∧ shot.reportID = old.reportID)
                ∧ (shotResult = none →
                    shot.id = context.uuidString ∧ shot.time = context.date
                      ∧ shot.reportID = reportData.id)
                ∧ ∀ T id, ¬ (T = .shot ∧ id = shot.id) →
                    (controller.btnSubmitWasTapped context manager).realm.object T id
                      = manager.realm.object T id)
        ∧ ∀ id shot,
            (controller.btnSubmitWasTapped context manager).realm.object .shot id
                = some (.shot shot) →
              shot.WellFormed := by
  have hwf : ∀ shot, shotResult = some shot → shot.WellFormed := by
    rintro shot rfl
    exact hwellFormed shot.id shot heditable
  obtain ⟨hconsistent, hfollows⟩ := run_follows (viewDidLoad_consistent reportData hwf) hrun
  have heditable : Editable manager context controller.shotResult := by
    rw [hfollows.shotResult]
    cases shotResult <;> exact heditable
  cases hball : chosenBall shotResult events with
  | none =>
    have hsame := btnSubmitWasTapped_of_none hfollows hball context manager
    refine ⟨fun _ => hsame, ?_, ?_⟩
    . intro ball hchosen
      cases hchosen
    . rw [hsame]
      exact hwellFormed
  | some ball =>
    have hindex : controller.lacksBall = false := by
      rw [lacksBall_eq_false_iff hconsistent]
      have hpos := chosenBall_pos hwf hball
      have hselected := hfollows.selectedIndex
      rw [hball, Option.getD_some] at hselected
      omega
    have hobject := btnSubmitWasTapped_object hverdicts hconsistent heditable hindex
    have hsubmitted := submitted_wellFormed context hconsistent hindex
    have heq := hfollows.submitted_eq context hball
    refine ⟨?_, ?_, ?_⟩
    . intro hnone
      cases hnone
    . intro ball' hchosen
      cases hchosen
      refine ⟨controller.submitted context, ?_, hsubmitted, ?_, ?_, ?_, ?_, ?_, ?_, ?_⟩
      . rw [hobject, if_pos ⟨rfl, rfl⟩]
      . rw [heq]
      . rw [heq]
      . rw [heq]
      . rw [heq]
      . rintro old rfl
        rw [heq]
        exact ⟨rfl, rfl, rfl⟩
      . rintro rfl
        rw [heq]
        exact ⟨rfl, rfl, rfl⟩
      . intro T id hother
        rw [hobject, if_neg hother]
    . intro id shot hshot
      rw [hobject] at hshot
      split at hshot
      . cases hshot
        exact hsubmitted
      . exact hwellFormed id shot hshot

def sampleEditedShot : ShotModel where
  id := "s"
  ballNumber := 3
  result := 1
  technicallyShot := 0
  time := 25
  reportID := "r"
  mistakes := [2, 5]

def sampleStore : DataServiceManager :=
  { DataServiceManager.sampleManager with
    localDataService.realm := Realm.empty.addModified (.object (.shot sampleEditedShot))
  }

theorem submit_exact_switch_on_and_off
    : ∃ controller shot,
        machine.run (opened ⟨"r", "", "", 0⟩ (some sampleEditedShot)).viewDidLoad
            [.item 6, .row 2, .switch true, .switch false, .row 0] = some controller
          ∧ (controller.btnSubmitWasTapped ⟨"t", 90⟩ sampleStore).realm.object .shot "s"
              = some (.shot shot)
          ∧ shot.ballNumber = 7
          ∧ shot.time = 25
          ∧ shot.mistakes = [0, 5] := by
  have hwellFormed : ∀ id shot, sampleStore.realm.object .shot id = some (.shot shot) →
      shot.WellFormed := by
    intro id shot hshot
    have hobject := Realm.object_addModified .empty (.shot sampleEditedShot) .shot id
    rw [show sampleStore.realm.object .shot id = _ from hobject] at hshot
    split at hshot
    . cases hshot
      exact ⟨by decide, by decide, by decide, by decide, by decide, by decide⟩
    . cases hshot
  have heditable : Editable sampleStore ⟨"t", 90⟩ (some sampleEditedShot) := rfl
  have hrun : machine.run (opened ⟨"r", "", "", 0⟩ (some sampleEditedShot)).viewDidLoad
      [.item 6, .row 2, .switch true, .switch false, .row 0] = some _ := rfl
  obtain ⟨-, hstored, -⟩ := submit_exact rfl hwellFormed heditable hrun
  obtain ⟨shot, hobject, -, hball, -, -, hmistakes, hold, -⟩ := hstored 7 rfl
  obtain ⟨hid, htime, -⟩ := hold sampleEditedShot rfl
  refine ⟨_, shot, hrun, ?_, hball, htime, hmistakes⟩
  rw [hid] at hobject
  exact hobject

end CreateNewShotViewController
