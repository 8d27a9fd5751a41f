import CaptainCue.Report.ReportManagerViewController
import CaptainCue.Shot.Editing

/-!
This module contains the list of the shots of a report, from which new shots are entered, and what
becomes of the day check of its button while time passes.
-/

structure ShotDetailsViewController where
  reportDatas : List ReportModel
  shotResult : Option (List ShotModel) := none
  -- `btnAddNew.isEnabled` and `navigationItem.title`
  isEnabled : Bool := true
  title : String := ""
  deriving DecidableEq

namespace ShotDetailsViewController

def setupViews (controller : ShotDetailsViewController) (dateFormatter : DateFormatter) (now : Date)
    : ShotDetailsViewController :=
  if controller.reportDatas.length > 1 then
    { controller with isEnabled := false }
  else
    { controller with
      isEnabled := (controller.reportDatas.head?.map fun report => report.time.day dateFormatter)
        = some (now.day dateFormatter)
    }

def setupDatas (controller : ShotDetailsViewController) (dateFormatter : DateFormatter)
    (localDataService : RealmDataService) : ShotDetailsViewController :=
  let idList := controller.reportDatas.map ReportModel.id
  let shotResult := sortedBy ShotModel.time (localDataService.getShotDatas idList)
  if controller.reportDatas.length > 1 then
    { controller with
      shotResult := some shotResult
      title := (controller.reportDatas.head?.map fun report =>
        report.time.convertToString dateFormatter "yyyy_MM_dd").getD ""
    }
  else
    { controller with
      shotResult := some shotResult
      title := (controller.reportDatas.head?.map ReportModel.title).getD ""
    }

def btnAddNewWasTapped (controller : ShotDetailsViewController)
    : Option CreateNewShotViewController :=
  match controller.reportDatas with
  | [data] => some (CreateNewShotViewController.opened data none)
  | _ => none

/-! ## The way through the screens -/

inductive Screen where
  | elsewhere
  -- the list, with the value of `Date()` when it was loaded
  | details (loaded : Date) (controller : ShotDetailsViewController)
  | newShot (loaded : Date) (controller : ShotDetailsViewController)
      (editor : CreateNewShotViewController)

structure Visit where
  manager : DataServiceManager
  clock : Date
  screen : Screen

inductive Event where
  | push (reportDatas : List ReportModel) (now : Date)
  | addNew
  | editor (event : CreateNewShotViewController.Event)
  | submit (context : SubmitContext)
  | back

def appear (visit : Visit) (dateFormatter : DateFormatter) (loaded : Date)
    (controller : ShotDetailsViewController) : Visit :=
  -- `viewWillAppear`, before the screen is shown for the first time and when it comes back
  { visit with
    screen :=
      .details loaded (controller.setupDatas dateFormatter visit.manager.localDataService)
  }

def step (dateFormatter : DateFormatter) (visit : Visit) : Event → Option Visit
  | .push reportDatas now =>
    match visit.screen with
    | .elsewhere =>
      if visit.clock ≤ now ∧ ∀ report ∈ reportDatas, report ∈ visit.manager.realm.reports.rows then
        let controller := setupViews { reportDatas } dateFormatter now
        some (appear { visit with clock := now } dateFormatter now controller)
      else
        none
    | _ => none
  | .addNew =>
    match visit.screen with
    | .details loaded controller =>
      if controller.isEnabled then
        controller.btnAddNewWasTapped.map fun editor =>
          { visit with screen := .newShot loaded controller editor.viewDidLoad }
      else
        none
    | _ => none
  | .editor event =>
    match visit.screen with
    | .newShot loaded controller editor =>
      (CreateNewShotViewController.machine.step editor event).map fun editor =>
        { visit with screen := .newShot loaded controller editor }
    | _ => none
  | .submit context =>
    match visit.screen with
    | .newShot loaded controller editor =>
      if visit.clock ≤ context.date
          ∧ visit.manager.realm.object .shot context.uuidString = none then
        let visit :=
          { visit with
            manager := editor.btnSubmitWasTapped context visit.manager
            clock := context.date
          }
        -- the screen stays where it shows an alert, that is, where no ball is selected
        if editor.lacksBall then
          some visit
        else
          some (appear visit dateFormatter loaded controller)
      else
        none
    | _ => none
  | .back =>
    match visit.screen with
    | .elsewhere => none
    | .details _ _ => some { visit with screen := .elsewhere }
    | .newShot loaded controller _ => some (appear visit dateFormatter loaded controller)

def machine (dateFormatter : DateFormatter) : Machine Visit Event where
  step := step dateFormatter

/-! ## What the screens know -/

variable {dateFormatter : DateFormatter} {start : DataServiceManager} {visit visit' : Visit}

@[simp]
theorem setupDatas_reportDatas (controller : ShotDetailsViewController)
    (localDataService : RealmDataService)
    : (controller.setupDatas dateFormatter localDataService).reportDatas
        = controller.reportDatas := by
  unfold setupDatas
  dsimp only
  split <;> rfl

@[simp]
theorem setupDatas_isEnabled (controller : ShotDetailsViewController)
    (localDataService : RealmDataService)
    : (controller.setupDatas dateFormatter localDataService).isEnabled = controller.isEnabled := by
  unfold setupDatas
  dsimp only
  split <;> rfl

structure Checked (dateFormatter : DateFormatter) (start : DataServiceManager) (loaded : Date)
    (controller : ShotDetailsViewController) : Prop where
  stored : ∀ report ∈ controller.reportDatas,
    start.realm.object .report report.id = some (.report report)
  day : controller.isEnabled → ∀ report ∈ controller.reportDatas,
    report.time.day dateFormatter = loaded.day dateFormatter

theorem setupViews_checked {reportDatas : List ReportModel} (now : Date)
    (hstored : ∀ report ∈ reportDatas, start.realm.object .report report.id = some (.report report))
    : Checked dateFormatter start now (setupViews { reportDatas } dateFormatter now) := by
  unfold setupViews
  split
  . refine ⟨hstored, ?_⟩
    intro henabled
    cases henabled
  . next hlength =>
    refine ⟨hstored, ?_⟩
    intro henabled report hreport
    have hhead := of_decide_eq_true henabled
    cases reportDatas with
    | nil => cases hreport
    | cons first rest =>
      cases rest with
      | nil =>
        rw [List.mem_singleton.mp hreport]
        exact Option.some.inj hhead
      | cons second rest =>
        exact absurd (Nat.succ_lt_succ (Nat.succ_pos rest.length)) hlength

theorem Checked.setupDatas {loaded : Date} {controller : ShotDetailsViewController}
    (h : Checked dateFormatter start loaded controller) (localDataService : RealmDataService)
    : Checked dateFormatter start loaded
        (controller.setupDatas dateFormatter localDataService) := by
  refine ⟨?_, ?_⟩
  . rw [setupDatas_reportDatas]
    exact h.stored
  . rw [setupDatas_reportDatas, setupDatas_isEnabled]
    exact h.day

structure NewShot (dateFormatter : DateFormatter) (start : DataServiceManager) (loaded : Date)
    (editor : CreateNewShotViewController) : Prop where
  consistent : editor.Consistent
  shotResult : editor.shotResult = none
  stored : start.realm.object .report editor.reportData.id = some (.report editor.reportData)
  day : editor.reportData.time.day dateFormatter = loaded.day dateFormatter

def Screen.Sound (dateFormatter : DateFormatter) (start : DataServiceManager) : Screen → Prop
  | elsewhere => True
  | details loaded controller => Checked dateFormatter start loaded controller
  | newShot loaded controller editor =>
    Checked dateFormatter start loaded controller ∧ NewShot dateFormatter start loaded editor

structure Sound (dateFormatter : DateFormatter) (start : DataServiceManager) (visit : Visit)
    : Prop where
  verdicts : visit.manager.verdicts = []
  reports : ∀ id, visit.manager.realm.object .report id = start.realm.object .report id
  kept : ∀ id, visit.manager.realm.object .shot id = none → start.realm.object .shot id = none
  screen : visit.screen.Sound dateFormatter start

theorem Sound.appear {manager : DataServiceManager} {clock loaded : Date} {screen : Screen}
    {controller : ShotDetailsViewController}
    (hverdicts : manager.verdicts = [])
    (hreports : ∀ id, manager.realm.object .report id = start.realm.object .report id)
    (hkept : ∀ id, manager.realm.object .shot id = none → start.realm.object .shot id = none)
    (h : Checked dateFormatter start loaded controller)
    : Sound dateFormatter start
        (appear ⟨manager, clock, screen⟩ dateFormatter loaded controller) :=
  ⟨hverdicts, hreports, hkept, h.setupDatas manager.localDataService⟩

theorem step_submit {context : SubmitContext}
    (hstep : (machine dateFormatter).step visit (.submit context) = some visit')
    : ∃ loaded controller editor,
        visit.screen = .newShot loaded controller editor
          ∧ visit.manager.realm.object .shot context.uuidString = none
          ∧ visit'.manager = editor.btnSubmitWasTapped context visit.manager
          ∧ (visit'.screen = .newShot loaded controller editor
              ∨ visit'.screen = .details loaded
                  (controller.setupDatas dateFormatter visit'.manager.localDataService)) := by
  have hstep : step dateFormatter visit (.submit context) = some visit' := hstep
  unfold step at hstep
  dsimp only at hstep
  split at hstep
  . next loaded controller editor hscreen =>
    obtain ⟨⟨-, hnew⟩, heq⟩ := Option.ite_none_right_eq_some.mp hstep
    refine ⟨loaded, controller, editor, hscreen, hnew, ?_⟩
    split at heq
    . cases heq
      exact ⟨rfl, .inl hscreen⟩
    . cases heq
      exact ⟨rfl, .inr rfl⟩
  . cases hstep

theorem NewShot.submit_object {loaded : Date} {editor : CreateNewShotViewController}
    (h : NewShot dateFormatter start loaded editor) {manager : DataServiceManager}
    (hverdicts : manager.verdicts = []) {context : SubmitContext}
    (hnew : manager.realm.object .shot context.uuidString = none) (T : Kind) (id : String)
    : (editor.btnSubmitWasTapped context manager).realm.object T id
        =
      if editor.lacksBall = false ∧ T = .shot ∧ id = context.uuidString then
        some (.shot (editor.submitted context))
      else
        manager.realm.object T id := by
  cases hball : editor.lacksBall with
  | true =>
    unfold CreateNewShotViewController.btnSubmitWasTapped
    rw [if_pos hball]
    simp
  | false =>
    have heditable : CreateNewShotViewController.Editable manager context editor.shotResult := by
      rw [h.shotResult]
      exact hnew
    have hid : (editor.submitted context).id = context.uuidString := by
      unfold CreateNewShotViewController.submitted
      rw [h.shotResult]
      rfl
    rw [CreateNewShotViewController.btnSubmitWasTapped_object hverdicts h.consistent heditable hball,
      hid]
    simp

theorem Sound.submit (h : Sound dateFormatter start visit) {context : SubmitContext}
    (hstep : (machine dateFormatter).step visit (.submit context) = some visit')
    : Sound dateFormatter start visit' := by
  obtain ⟨loaded, controller, editor, hscreen, hnew, hmanager, hscreen'⟩ := step_submit hstep
  have hsound := h.screen
  rw [hscreen] at hsound
  obtain ⟨hchecked, hnewShot⟩ := hsound
  refine ⟨?_, ?_, ?_, ?_⟩
  . rw [hmanager]
    exact CreateNewShotViewController.btnSubmitWasTapped_verdicts h.verdicts context
  . intro id
    rw [hmanager, hnewShot.submit_object h.verdicts hnew, if_neg (by simp)]
    exact h.reports id
  . intro id hnone
    rw [hmanager, hnewShot.submit_object h.verdicts hnew] at hnone
    split at hnone
    . cases hnone
    . exact h.kept id hnone
  . cases hscreen' with
    | inl hstays =>
      rw [hstays]
      exact ⟨hchecked, hnewShot⟩
    | inr hleaves =>
      rw [hleaves]
      exact hchecked.setupDatas _

theorem Sound.push (h : Sound dateFormatter start visit) {reportDatas : List ReportModel}
    {now : Date} (hstep : (machine dateFormatter).step visit (.push reportDatas now) = some visit')
    : Sound dateFormatter start visit' := by
  have hstep : step dateFormatter visit (.push reportDatas now) = some visit' := hstep
  unfold step at hstep
  dsimp only at hstep
  split at hstep
  . obtain ⟨⟨-, hrows⟩, heq⟩ := Option.ite_none_right_eq_some.mp hstep
    cases heq
    apply Sound.appear h.verdicts h.reports h.kept
    apply setupViews_checked
    intro report hreport
    rw [← h.reports]
    show (visit.manager.realm.reports.find? report.id).map DataServiceObject.report = _
    rw [Table.mem_rows.mp (hrows report hreport)]
    rfl
  . cases hstep

theorem Sound.addNew (h : Sound dateFormatter start visit)
    (hstep : (machine dateFormatter).step visit .addNew = some visit')
    : Sound dateFormatter start visit' := by
  have hstep : step dateFormatter visit .addNew = some visit' := hstep
  unfold step at hstep
  dsimp only at hstep
  split at hstep
  . next loaded controller hscreen =>
    have hchecked := h.screen
    rw [hscreen] at hchecked
    obtain ⟨henabled, heq⟩ := Option.ite_none_right_eq_some.mp hstep
    obtain ⟨editor, heditor, heq⟩ := Option.map_eq_some_iff.mp heq
    subst heq
    unfold btnAddNewWasTapped at heditor
    split at heditor
    . next data hdata =>
      cases heditor
      have hmem : data ∈ controller.reportDatas := by
        rw [hdata]
        exact List.mem_cons_self
      refine ⟨h.verdicts, h.reports, h.kept, hchecked, ?_, rfl, hchecked.stored data hmem,
        hchecked.day henabled data hmem⟩
      apply CreateNewShotViewController.viewDidLoad_consistent
      intro shot hshot
      cases hshot
    . cases heditor
  . cases hstep

theorem Sound.editor (h : Sound dateFormatter start visit)
    {event : CreateNewShotViewController.Event}
    (hstep : (machine dateFormatter).step visit (.editor event) = some visit')
    : Sound dateFormatter start visit' := by
  have hstep : step dateFormatter visit (.editor event) = some visit' := hstep
  unfold step at hstep
  dsimp only at hstep
  split at hstep
  . next loaded controller editor hscreen =>
    have hsound := h.screen
    rw [hscreen] at hsound
    obtain ⟨hchecked, hnewShot⟩ := hsound
    obtain ⟨editor', heditor, heq⟩ := Option.map_eq_some_iff.mp hstep
    subst heq
    obtain ⟨hconsistent, hfollows⟩ :=
      CreateNewShotViewController.step_follows hnewShot.consistent heditor
    refine ⟨h.verdicts, h.reports, h.kept, hchecked, hconsistent, ?_, ?_, ?_⟩
    . rw [hfollows.shotResult]
      exact hnewShot.shotResult
    . rw [hfollows.reportData]
      exact hnewShot.stored
    . rw [hfollows.reportData]
      exact hnewShot.day
  . cases hstep

theorem Sound.back (h : Sound dateFormatter start visit)
    (hstep : (machine dateFormatter).step visit .back = some visit')
    : Sound dateFormatter start visit' := by
  have hstep : step dateFormatter visit .back = some visit' := hstep
  unfold step at hstep
  dsimp only at hstep
  split at hstep
  . cases hstep
  . cases hstep
    exact ⟨h.verdicts, h.reports, h.kept, trivial⟩
  . next loaded controller editor hscreen =>
    have hsound := h.screen
    rw [hscreen] at hsound
    cases hstep
    exact Sound.appear h.verdicts h.reports h.kept hsound.1

theorem Sound.step (h : Sound dateFormatter start visit) {event : Event}
    (hstep : (machine dateFormatter).step visit event = some visit')
    : Sound dateFormatter start visit' := by
  cases event with
  | push reportDatas now => exact h.push hstep
  | addNew => exact h.addNew hstep
  | editor event => exact h.editor hstep
  | submit context => exact h.submit hstep
  | back => exact h.back hstep

/-! ## The shots that are entered -/

def entered (visit : Visit) : Event → Option ShotModel
  | .submit context =>
    match visit.screen with
    | .newShot _ _ editor => if editor.lacksBall then none else some (editor.submitted context)
    | _ => none
  | _ => none

def SameDay (dateFormatter : DateFormatter) (start : DataServiceManager) (visit : Visit) : Prop :=
  ∀ shot report, visit.manager.realm.object .shot shot.id = some (.shot shot) →
    start.realm.object .shot shot.id = none →
      visit.manager.realm.object .report shot.reportID = some (.report report) →
        shot.time.day dateFormatter = report.time.day dateFormatter

/--
No midnight passes between the loading of the list and the submit of a shot.
-/
def BeforeMidnight (dateFormatter : DateFormatter) (visit : Visit) : Event → Prop
  | .submit context =>
    match visit.screen with
    | .newShot loaded _ editor =>
      editor.lacksBall = false → context.date.day dateFormatter = loaded.day dateFormatter
    | _ => True
  | _ => True

theorem step_manager {event : Event} (hstep : (machine dateFormatter).step visit event = some visit')
    (h : ∀ context, event ≠ .submit context) : visit'.manager = visit.manager := by
  have hstep : step dateFormatter visit event = some visit' := hstep
  cases event with
  | push reportDatas now =>
    unfold step at hstep
    dsimp only at hstep
    split at hstep
    . obtain ⟨-, heq⟩ := Option.ite_none_right_eq_some.mp hstep
      cases heq
      rfl
    . cases hstep
  | addNew =>
    unfold step at hstep
    dsimp only at hstep
    split at hstep
    . obtain ⟨-, heq⟩ := Option.ite_none_right_eq_some.mp hstep
      obtain ⟨editor, -, rfl⟩ := Option.map_eq_some_iff.mp heq
      rfl
    . cases hstep
  | editor event =>
    unfold step at hstep
    dsimp only at hstep
    split at hstep
    . obtain ⟨editor, -, rfl⟩ := Option.map_eq_some_iff.mp hstep
      rfl
    . cases hstep
  | submit context => exact absurd rfl (h context)
  | back =>
    unfold step at hstep
    dsimp only at hstep
    split at hstep
    . cases hstep
    . cases hstep
      rfl
    . cases hstep
      rfl

theorem entered_eq_some {event : Event} {shot : ShotModel} (h : Sound dateFormatter start visit)
    (hentered : entered visit event = some shot)
    : ∃ loaded controller editor context,
        event = .submit context
          ∧ visit.screen = .newShot loaded controller editor
          ∧ editor.lacksBall = false
          ∧ NewShot dateFormatter start loaded editor
          ∧ shot.id = context.uuidString
          ∧ shot.time = context.date
          ∧ shot.reportID = editor.reportData.id := by
  cases event with
  | submit context =>
    unfold entered at hentered
    dsimp only at hentered
    split at hentered
    . next loaded controller editor hscreen =>
      have hsound := h.screen
      rw [hscreen] at hsound
      obtain ⟨hball, heq⟩ := Option.ite_none_left_eq_some.mp hentered
      cases heq
      refine ⟨loaded, controller, editor, context, rfl, hscreen, by simpa using hball, hsound.2, ?_,
        ?_, ?_⟩ <;> unfold CreateNewShotViewController.submitted <;> rw [hsound.2.shotResult] <;> rfl
    . cases hentered
  | push reportDatas now => cases hentered
  | addNew => cases hentered
  | editor event => cases hentered
  | back => cases hentered

theorem step_object {event : Event} (h : Sound dateFormatter start visit)
    (hstep : (machine dateFormatter).step visit event = some visit') (T : Kind) (id : String)
    : visit'.manager.realm.object T id
        =
      match entered visit event with
      | some shot =>
        if T = .shot ∧ id = shot.id then some (.shot shot) else visit.manager.realm.object T id
      | none => visit.manager.realm.object T id := by
  cases event with
  | submit context =>
    obtain ⟨loaded, controller, editor, hscreen, hnew, hmanager, -⟩ := step_submit hstep
    have hsound := h.screen
    rw [hscreen] at hsound
    have hid : (editor.submitted context).id = context.uuidString := by
      unfold CreateNewShotViewController.submitted
      rw [hsound.2.shotResult]
      rfl
    rw [hmanager, hsound.2.submit_object h.verdicts hnew]
    unfold entered
    rw [hscreen]
    dsimp only
    cases editor.lacksBall with
    | true => simp
    | false => simp [hid]
  | push reportDatas now => rw [step_manager hstep (by simp)]; rfl
  | addNew => rw [step_manager hstep (by simp)]; rfl
  | editor event => rw [step_manager hstep (by simp)]; rfl
  | back => rw [step_manager hstep (by simp)]; rfl

theorem entered_new {event : Event} {shot : ShotModel} (h : Sound dateFormatter start visit)
    (hstep : (machine dateFormatter).step visit event = some visit')
    (hentered : entered visit event = some shot)
    : visit.manager.realm.object .shot shot.id = none := by
  obtain ⟨loaded, controller, editor, context, rfl, -, -, -, hid, -⟩ := entered_eq_some h hentered
  obtain ⟨-, -, -, -, hnew, -⟩ := step_submit hstep
  rw [hid]
  exact hnew

theorem SameDay.step {event : Event} (h : Sound dateFormatter start visit)
    (hsame : SameDay dateFormatter start visit) (hbefore : BeforeMidnight dateFormatter visit event)
    (hstep : (machine dateFormatter).step visit event = some visit')
    : SameDay dateFormatter start visit' := by
  have hobject := step_object h hstep
  cases hentered : entered visit event with
  | none =>
    intro shot report hstored hnone hreport
    rw [hobject, hentered] at hstored hreport
    exact hsame shot report hstored hnone hreport
  | some entered =>
    intro shot report hstored hnone hreport
    rw [hobject, hentered] at hstored hreport
    dsimp only at hstored hreport
    rw [if_neg (by simp)] at hreport
    split at hstored
    . cases hstored
      obtain ⟨loaded, controller, editor, context, rfl, hscreen, hball, hnewShot, -, htime, hid⟩ :=
        entered_eq_some h hentered
      rw [h.reports, hid, hnewShot.stored] at hreport
      cases hreport
      unfold BeforeMidnight at hbefore
      rw [hscreen] at hbefore
      rw [htime, hbefore hball, hnewShot.day]
    . exact hsame shot report hstored hnone hreport

theorem not_sameDay_of_not_beforeMidnight {event : Event} (h : Sound dateFormatter start visit)
    (hlate : ¬ BeforeMidnight dateFormatter visit event)
    (hstep : (machine dateFormatter).step visit event = some visit')
    : ¬ SameDay dateFormatter start visit' := by
  cases event with
  | submit context =>
    unfold BeforeMidnight at hlate
    dsimp only at hlate
    split at hlate
    . next loaded controller editor hscreen =>
      obtain ⟨hball, hday⟩ := Classical.not_imp.mp hlate
      have hentered : entered visit (.submit context) = some (editor.submitted context) := by
        unfold entered
        rw [hscreen]
        dsimp only
        rw [hball]
        rfl
      have hnewShot : NewShot dateFormatter start loaded editor := by
        have hsound := h.screen
        rw [hscreen] at hsound
        exact hsound.2
      have hreportID : (editor.submitted context).reportID = editor.reportData.id := by
        unfold CreateNewShotViewController.submitted
        rw [hnewShot.shotResult]
        rfl
      have htime : (editor.submitted context).time = context.date := by
        unfold CreateNewShotViewController.submitted
        rw [hnewShot.shotResult]
        rfl
      have hobject := step_object h hstep
      rw [hentered] at hobject
      dsimp only at hobject
      intro hsame
      apply hday
      rw [← hnewShot.day, ← htime]
      apply hsame (editor.submitted context) editor.reportData
      . rw [hobject, if_pos ⟨rfl, rfl⟩]
      . exact h.kept _ (entered_new h hstep hentered)
      . rw [hobject, if_neg (by simp), hreportID, h.reports]
        exact hnewShot.stored
    . exact absurd trivial hlate
  | push reportDatas now => exact absurd trivial hlate
  | addNew => exact absurd trivial hlate
  | editor event => exact absurd trivial hlate
  | back => exact absurd trivial hlate

theorem not_sameDay_step {event : Event} (h : Sound dateFormatter start visit)
    (hlate : ¬ SameDay dateFormatter start visit)
    (hstep : (machine dateFormatter).step visit event = some visit')
    : ¬ SameDay dateFormatter start visit' := by
  have hobject := step_object h hstep
  unfold SameDay at hlate ⊢
  push Not at hlate ⊢
  obtain ⟨shot, report, hstored, hnone, hreport, hdiffer⟩ := hlate
  refine ⟨shot, report, ?_, hnone, ?_, hdiffer⟩
  . rw [hobject]
    cases hentered : entered visit event with
    | none => exact hstored
    | some entered =>
      dsimp only
      rw [if_neg]
      . exact hstored
      . rintro ⟨-, heq⟩
        have hnew := entered_new h hstep hentered
        rw [← heq, hstored] at hnew
        cases hnew
  . rw [hobject]
    cases entered visit event with
    | none => exact hreport
    | some entered => exact hreport

/--
The shots of a run lie on the days of their reports exactly if no midnight passes between the
loading of a list and the submit of a shot.
-/
theorem sameDay_iff_beforeMidnight (hverdicts : start.verdicts = []) {clock : Date}
    {events : List Event} (hrun : (machine dateFormatter).run ⟨start, clock, .elsewhere⟩ events
      = some visit)
    : SameDay dateFormatter start visit
        ↔ (machine dateFormatter).Meets (BeforeMidnight dateFormatter) ⟨start, clock, .elsewhere⟩
            events := by
  have hsound : Sound dateFormatter start ⟨start, clock, .elsewhere⟩ :=
    ⟨hverdicts, fun _ => rfl, fun _ hnone => hnone, trivial⟩
  have hsame : SameDay dateFormatter start ⟨start, clock, .elsewhere⟩ := by
    intro shot report hstored hnone
    rw [hstored] at hnone
    cases hnone
  have hcases := @Machine.invariant_or_lost _ _ (machine dateFormatter)
    (fun visit => Sound dateFormatter start visit ∧ SameDay dateFormatter start visit)
    (fun visit => Sound dateFormatter start visit ∧ ¬ SameDay dateFormatter start visit)
    (BeforeMidnight dateFormatter)
    (fun visit event visit' h hbefore hstep =>
      ⟨h.1.step hstep, h.2.step h.1 hbefore hstep⟩)
    (fun visit event visit' h hlate hstep =>
      ⟨h.1.step hstep, not_sameDay_of_not_beforeMidnight h.1 hlate hstep⟩)
    (fun visit event visit' h hstep =>
      ⟨h.1.step hstep, not_sameDay_step h.1 h.2 hstep⟩)
    _ _ _ ⟨hsound, hsame⟩ hrun
  cases hcases with
  | inl hmeets => exact ⟨fun _ => hmeets.1, fun _ => hmeets.2.2⟩
  | inr hlost => exact ⟨fun h => absurd h hlost.2.2, fun h => absurd h hlost.1⟩

open ReportManagerViewController (daysFormatter)

def sampleReport : ReportModel := { id := "r", title := "_01", time := 100 }

def sampleStart : DataServiceManager :=
  { DataServiceManager.sampleManager with
    localDataService.realm := Realm.empty.addModified (.object (.report sampleReport))
  }

def shownController : ShotDetailsViewController :=
  (setupViews { reportDatas := [sampleReport] } daysFormatter 200).setupDatas daysFormatter
    sampleStart.localDataService

def sampleEditor : CreateNewShotViewController :=
  (CreateNewShotViewController.opened sampleReport none).viewDidLoad

theorem step_push_sampleReport
    : (machine daysFormatter).step ⟨sampleStart, 0, .elsewhere⟩ (.push [sampleReport] 200)
        = some ⟨sampleStart, 200, .details 200 shownController⟩ := by
  have hguard : (0 : Date) ≤ 200 ∧ ∀ report ∈ [sampleReport],
      report ∈ sampleStart.realm.reports.rows := by
    decide
  exact @if_pos _ _ hguard _ _ none

theorem step_addNew_sampleReport
    : (machine daysFormatter).step ⟨sampleStart, 200, .details 200 shownController⟩ .addNew
        = some ⟨sampleStart, 200, .newShot 200 shownController sampleEditor⟩ := by
  have henabled : shownController.isEnabled = true := by
    unfold shownController
    rw [setupDatas_isEnabled]
    decide
  unfold machine step
  dsimp only
  rw [if_pos henabled]
  rfl

def selectedEditor : CreateNewShotViewController := sampleEditor.didSelectItemAt 2

theorem step_item_sampleReport
    : (machine daysFormatter).step
        ⟨sampleStart, 200, .newShot 200 shownController sampleEditor⟩ (.editor (.item 2))
          = some ⟨sampleStart, 200, .newShot 200 shownController selectedEditor⟩ := rfl

def submittedVisit (date : Date) : Visit :=
  appear
    ⟨selectedEditor.btnSubmitWasTapped ⟨"s", date⟩ sampleStart, date,
      .newShot 200 shownController selectedEditor⟩ daysFormatter 200 shownController

theorem step_submit_sampleReport {date : Date} (h : 200 ≤ date)
    : (machine daysFormatter).step
        ⟨sampleStart, 200, .newShot 200 shownController selectedEditor⟩ (.submit ⟨"s", date⟩)
          = some (submittedVisit date) := by
  have hguard : 200 ≤ date ∧ sampleStart.realm.object .shot "s" = none := ⟨h, rfl⟩
  exact @if_pos _ _ hguard _ _ none

theorem run_sampleReport {date : Date} (h : 200 ≤ date)
    : (machine daysFormatter).run ⟨sampleStart, 0, .elsewhere⟩
        [.push [sampleReport] 200, .addNew, .editor (.item 2), .submit ⟨"s", date⟩]
          = some (submittedVisit date) := by
  have hrun₄ := Machine.run_cons_eq_some.mpr ⟨_, step_submit_sampleReport h, Machine.run_nil _⟩
  have hrun₃ := Machine.run_cons_eq_some.mpr ⟨_, step_item_sampleReport, hrun₄⟩
  have hrun₂ := Machine.run_cons_eq_some.mpr ⟨_, step_addNew_sampleReport, hrun₃⟩
  exact Machine.run_cons_eq_some.mpr ⟨_, step_push_sampleReport, hrun₂⟩

theorem sameDay_iff_beforeMidnight_one_shot
    : ∃ visit,
        (machine daysFormatter).run ⟨sampleStart, 0, .elsewhere⟩
            [.push [sampleReport] 200, .addNew, .editor (.item 2), .submit ⟨"s", 300⟩]
              = some visit
          ∧ SameDay daysFormatter sampleStart visit := by
  refine ⟨_, run_sampleReport (by decide), ?_⟩
  apply (sameDay_iff_beforeMidnight rfl (run_sampleReport (by decide))).mpr
  apply (Machine.meets_cons step_push_sampleReport).mpr
  refine ⟨trivial, (Machine.meets_cons step_addNew_sampleReport).mpr ⟨trivial, ?_⟩⟩
  apply (Machine.meets_cons step_item_sampleReport).mpr
  refine ⟨trivial, (Machine.meets_cons (step_submit_sampleReport (by decide))).mpr ⟨?_, trivial⟩⟩
  intro _
  decide

/--
The list is opened on the day of the report, and the shot is submitted on the next one.
-/
theorem shot_after_midnight
    : ∃ visit,
        (machine daysFormatter).run ⟨sampleStart, 0, .elsewhere⟩
            [.push [sampleReport] 200, .addNew, .editor (.item 2), .submit ⟨"s", 86500⟩]
              = some visit
          ∧ ¬ SameDay daysFormatter sampleStart visit := by
  have hsound : Sound daysFormatter sampleStart ⟨sampleStart, 0, .elsewhere⟩ :=
    ⟨rfl, fun _ => rfl, fun _ hnone => hnone, trivial⟩
  have hselected := ((hsound.step step_push_sampleReport).step step_addNew_sampleReport).step
    step_item_sampleReport
  refine ⟨_, run_sampleReport (by decide), ?_⟩
  apply not_sameDay_of_not_beforeMidnight hselected _ (step_submit_sampleReport (by decide))
  intro hbefore
  exact absurd (hbefore rfl) (by decide)

end ShotDetailsViewController
