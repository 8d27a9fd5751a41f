import CaptainCue.Accessor.Process
import CaptainCue.Manager.Changes
import CaptainCue.Report.ReportDetailsViewController
import CaptainCue.Shot.ShotDetailsViewController

/-!
This module contains the screens of the application on their navigation controller. A screen holds
accessors of the rows it has queried, and reading one raises if its row is gone.
-/

namespace ReportModel

def init (uuidString title desc : String) (time : Date) : ReportModel :=
  { id := uuidString, title, desc, time }

def copy (report : ReportModel) (uuidString : String) : ReportModel :=
  let newObj := init uuidString report.title report.desc report.time
  { newObj with id := report.id }

end ReportModel

namespace EditReportAlert

def btnConfirmWasTapped (report : ReportModel) (uuidString title desc : String)
    (manager : DataServiceManager) : DataServiceManager :=
  -- `btnConfirmWasTapped(in:title:desc:for:)` of the two screens that show the alert.
  let newReport := report.copy uuidString
  let newReport := { newReport with title, desc }
  manager.updateObject (.report newReport)

end EditReportAlert

structure Accessor where
  -- An accessor of a row. Realm computes the key of the row from its primary key, so an accessor
  -- whose row has been deleted is valid again once a row with the same primary key is added.
  primaryKey : String
  deriving DecidableEq

structure Held (σ : Type) where
  -- A controller with `reportDatas` and `shotResult`, and the values of its other fields.
  reportDatas : List Accessor
  shotResult : List Accessor
  controller : σ

structure Editor where
  reportData : Accessor
  shotResult : Option Accessor
  controller : CreateNewShotViewController

inductive Screen where
  -- The screens on top of the list of reports, and the `EditReportAlert` that covers them.
  | list (alert : Option Accessor)
  | details (details : Held ReportDetailsViewController)
  | shots (details : Held ReportDetailsViewController) (shots : Held ShotDetailsViewController)
      (alert : Option Accessor)
  | editor (details : Held ReportDetailsViewController) (shots : Held ShotDetailsViewController)
      (editor : Editor)

structure Navigation where
  manager : DataServiceManager
  -- `reportData` of the list at the bottom
  reportData : List (List Accessor)
  screen : Screen

namespace Navigation

open ReportManagerViewController (AddContext)

/-! ## Reading through accessors -/

def fields {α : Type} {key : α → String} (table : Table key) (row : Accessor)
    : Except RLMException α :=
  match table.find? row.primaryKey with
  | some value => .ok value
  | none => .error .invalidated

def report (nav : Navigation) (row : Accessor) : Except RLMException ReportModel :=
  fields nav.manager.localDataService.realm.reports row

def shot (nav : Navigation) (row : Accessor) : Except RLMException ShotModel :=
  fields nav.manager.localDataService.realm.shots row

def reports (nav : Navigation) (rows : List Accessor) : Except RLMException (List ReportModel) :=
  rows.mapM nav.report

def reloadData (nav : Navigation) : Except RLMException (List (List ReportModel)) :=
  -- Of the list, which reads the rows on the screen; all of them is the worst case.
  nav.reportData.mapM nav.reports

/-! ## The handlers -/

def setupList (nav : Navigation) (dateFormatter : DateFormatter) : Navigation :=
  let controller :=
    ReportManagerViewController.setupDatas dateFormatter nav.manager.localDataService
  { nav with
    reportData := controller.reportData.map fun reports =>
      reports.map fun report => ⟨report.id⟩
  }

def setupDetails (nav : Navigation) (reportDatas : List Accessor)
    : Except RLMException (Held ReportDetailsViewController) := do
  let reports ← nav.reports reportDatas
  let controller := ReportDetailsViewController.setupDatas { reportDatas := reports }
    nav.manager.localDataService
  pure {
    reportDatas := reportDatas
    shotResult := (controller.shotResult.getD []).map fun shot => ⟨shot.id⟩
    controller := controller
  }

def setupShots (nav : Navigation) (dateFormatter : DateFormatter)
    (controller : ShotDetailsViewController) (reportDatas : List Accessor)
    : Except RLMException (Held ShotDetailsViewController) := do
  let reports ← nav.reports reportDatas
  let controller := { controller with reportDatas := reports }.setupDatas dateFormatter
    nav.manager.localDataService
  pure {
    reportDatas := reportDatas
    shotResult := (controller.shotResult.getD []).map fun shot => ⟨shot.id⟩
    controller := controller
  }

def pushReportDetailsVC (nav : Navigation) (reportDatas : List Accessor)
    : Except RLMException Navigation := do
  let details ← nav.setupDetails reportDatas
  pure { nav with screen := .details details }

def pushShotDetailsVC (nav : Navigation) (dateFormatter : DateFormatter) (now : Date)
    (details : Held ReportDetailsViewController) : Except RLMException Navigation := do
  let reports ← nav.reports details.reportDatas
  let controller :=
    ShotDetailsViewController.setupViews { reportDatas := reports } dateFormatter now
  let shots ← nav.setupShots dateFormatter controller details.reportDatas
  pure { nav with screen := .shots details shots none }

def pushCreateNewShotVC (nav : Navigation) (details : Held ReportDetailsViewController)
    (shots : Held ShotDetailsViewController) (reportData : Accessor) (shotResult : Option Accessor)
    : Except RLMException Navigation := do
  let report ← nav.report reportData
  let shot ← shotResult.mapM nav.shot
  let controller := (CreateNewShotViewController.opened report shot).viewDidLoad
  pure { nav with screen := .editor details shots { reportData, shotResult, controller } }

def showShots (nav : Navigation) (dateFormatter : DateFormatter)
    (details : Held ReportDetailsViewController) (shots : Held ShotDetailsViewController)
    : Except RLMException Navigation := do
  -- `setupDatas` of the shot list, after a change or when the screen comes back
  let shots ← nav.setupShots dateFormatter shots.controller shots.reportDatas
  pure { nav with screen := .shots details shots none }

def addNew (nav : Navigation) (dateFormatter : DateFormatter) (calendar : Calendar)
    (context : AddContext) : Except RLMException Navigation := do
  let first ← (nav.reportData.take 1).mapM nav.reports
  let controller : ReportManagerViewController := { reportData := first }
  let nav := { nav with
    manager := controller.btnAddNewWasTapped dateFormatter calendar context nav.manager
  }
  let nav ← nav.pushReportDetailsVC [⟨context.uuidString⟩]
  let _ ← nav.reloadData
  pure nav

def deleteReport (nav : Navigation) (dateFormatter : DateFormatter) (row : Accessor)
    : Except RLMException Navigation := do
  let data ← nav.report row
  let nav := { nav with manager := nav.manager.deleteObject (.report data) }
  pure (nav.setupList dateFormatter)

def confirmInList (nav : Navigation) (row : Accessor) (uuidString title desc : String)
    : Except RLMException Navigation := do
  let report ← nav.report row
  let nav := { nav with
    manager := EditReportAlert.btnConfirmWasTapped report uuidString title desc nav.manager
    screen := .list none
  }
  let _ ← nav.reloadData
  pure nav

def confirmInShots (nav : Navigation) (dateFormatter : DateFormatter)
    (details : Held ReportDetailsViewController) (shots : Held ShotDetailsViewController)
    (row : Accessor) (uuidString title desc : String) : Except RLMException Navigation := do
  let report ← nav.report row
  let nav := { nav with
    manager := EditReportAlert.btnConfirmWasTapped report uuidString title desc nav.manager
  }
  nav.showShots dateFormatter details shots

def deleteShot (nav : Navigation) (dateFormatter : DateFormatter)
    (details : Held ReportDetailsViewController) (shots : Held ShotDetailsViewController)
    (row : Accessor) : Except RLMException Navigation := do
  let data ← nav.shot row
  let nav := { nav with manager := nav.manager.deleteObject (.shot data) }
  nav.showShots dateFormatter details shots

def submit (nav : Navigation) (dateFormatter : DateFormatter)
    (details : Held ReportDetailsViewController) (shots : Held ShotDetailsViewController)
    (editor : Editor) (context : SubmitContext) : Except RLMException Navigation := do
  if editor.controller.lacksBall then
    pure nav
  else
    let report ← nav.report editor.reportData
    let shot ← editor.shotResult.mapM nav.shot
    let controller := { editor.controller with reportData := report, shotResult := shot }
    let nav := { nav with manager := controller.btnSubmitWasTapped context nav.manager }
    nav.showShots dateFormatter details shots

def scroll (nav : Navigation) : Except RLMException Navigation := do
  -- the cells of the screen are made again, from what the accessors read then
  match nav.screen with
  | .list _ =>
    let _ ← nav.reloadData
    pure nav
  | .details details =>
    let _ ← details.shotResult.mapM nav.shot
    pure nav
  | .shots _ shots _ =>
    let _ ← nav.reports shots.reportDatas
    let _ ← shots.shotResult.mapM nav.shot
    pure nav
  | .editor _ _ _ => pure nav

def restored (manager : DataServiceManager) (data : Kind → List DataServiceObject)
    : DataServiceManager :=
  -- The action of the restore alert.
  manager.onLocal fun service =>
    (service.restoreData .report (data .report)).restoreData .shot (data .shot)

def restore (nav : Navigation) (dateFormatter : DateFormatter)
    (data : Kind → List DataServiceObject) : Navigation :=
  setupList { nav with manager := restored nav.manager data } dateFormatter

/-! ## The events -/

inductive Event where
  -- What happens to the outbox without the user, and what the user taps on the screens.
  | background (e : DataServiceManager.Event)
  | addNew (context : AddContext)
  | openReport (index item : Nat)
  | openSection (index : Nat)
  | deleteReport (index item : Nat)
  | editReport (index item : Nat)
  | confirm (uuidString title desc : String)
  | cancel
  | addShots (now : Date)
  | newShot
  | openRow (row : Nat)
  | deleteRow (row : Nat)
  | editor (event : CreateNewShotViewController.Event)
  | submit (context : SubmitContext)
  | back
  | scroll
  -- the confirmation of the restore alert, which is shown over the list only
  | restore (data : Kind → List DataServiceObject)

def Distinct (data : Kind → List DataServiceObject) : Prop :=
  -- what `getAllData` returns, for a cloud whose documents have their ids
  ∀ T, (∀ item ∈ data T, item.kind = T) ∧ ((data T).map DataServiceObject.id).Nodup

instance (data : Kind → List DataServiceObject) : Decidable (Distinct data) :=
  decidable_of_iff
    (((∀ item ∈ data .report, item.kind = .report)
        ∧ ((data .report).map DataServiceObject.id).Nodup)
      ∧ ((∀ item ∈ data .shot, item.kind = .shot)
        ∧ ((data .shot).map DataServiceObject.id).Nodup))
    ⟨fun h T => match T with | .report => h.1 | .shot => h.2, fun h => ⟨h .report, h .shot⟩⟩

section Step

variable (typeOf : String → Kind) (dateFormatter : DateFormatter) (calendar : Calendar)

def handle (nav : Navigation) : Event → Option (Except RLMException Navigation)
  | .background e =>
    if e.IsBackground then
      (nav.manager.step typeOf e).map fun manager => .ok { nav with manager }
    else
      none
  | .addNew context =>
    match nav.screen with
    | .list none =>
      if typeOf context.uuidString = .report
          ∧ nav.manager.localDataService.realm.object .report context.uuidString = none then
        some (nav.addNew dateFormatter calendar context)
      else
        none
    | _ => none
  | .openReport index item =>
    match nav.screen with
    | .list none =>
      (nav.reportData[index]?.bind fun rows => rows[item]?).map fun row =>
        nav.pushReportDetailsVC [row]
    | _ => none
  | .openSection index =>
    match nav.screen with
    | .list none => nav.reportData[index]?.map fun rows => nav.pushReportDetailsVC rows
    | _ => none
  | .deleteReport index item =>
    match nav.screen with
    | .list none =>
      (nav.reportData[index]?.bind fun rows => rows[item]?).map fun row =>
        nav.deleteReport dateFormatter row
    | _ => none
  | .editReport index item =>
    match nav.screen with
    | .list none =>
      (nav.reportData[index]?.bind fun rows => rows[item]?).map fun row =>
        (nav.report row).map fun _ => { nav with screen := .list (some row) }
    | _ => none
  | .confirm uuidString title desc =>
    match nav.screen with
    | .list (some row) => some (nav.confirmInList row uuidString title desc)
    | .shots details shots (some row) =>
      some (nav.confirmInShots dateFormatter details shots row uuidString title desc)
    | _ => none
  | .cancel =>
    match nav.screen with
    | .list (some _) => some (.ok { nav with screen := .list none })
    | .shots details shots (some _) => some (.ok { nav with screen := .shots details shots none })
    | _ => none
  | .addShots now =>
    match nav.screen with
    | .details details => some (nav.pushShotDetailsVC dateFormatter now details)
    | _ => none
  | .newShot =>
    match nav.screen with
    | .shots details shots none =>
      if shots.controller.isEnabled then
        match shots.reportDatas with
        | [row] => some (nav.pushCreateNewShotVC details shots row none)
        | _ => some (.ok nav)
      else
        none
    | _ => none
  | .openRow row =>
    match nav.screen with
    | .shots details shots none =>
      match shots.reportDatas, row with
      | [reportData], 0 =>
        some ((nav.report reportData).map fun _ =>
          { nav with screen := .shots details shots (some reportData) })
      | [reportData], item + 1 =>
        shots.shotResult[item]?.map fun shot =>
          nav.pushCreateNewShotVC details shots reportData (some shot)
      | _, _ => none
    | _ => none
  | .deleteRow row =>
    match nav.screen with
    | .shots details shots none =>
      match shots.reportDatas, row with
      | [_], item + 1 =>
        shots.shotResult[item]?.map fun shot => nav.deleteShot dateFormatter details shots shot
      | _, _ => none
    | _ => none
  | .editor event =>
    match nav.screen with
    | .editor details shots editor =>
      (CreateNewShotViewController.machine.step editor.controller event).map fun controller =>
        .ok { nav with screen := .editor details shots { editor with controller } }
    | _ => none
  | .submit context =>
    match nav.screen with
    | .editor details shots editor =>
      if typeOf context.uuidString = .shot
          ∧ nav.manager.localDataService.realm.object .shot context.uuidString = none then
        some (nav.submit dateFormatter details shots editor context)
      else
        none
    | _ => none
  | .back =>
    match nav.screen with
    | .details _ => some (.ok (setupList { nav with screen := .list none } dateFormatter))
    | .shots details _ none => some (nav.pushReportDetailsVC details.reportDatas)
    | .editor details shots _ => some (nav.showShots dateFormatter details shots)
    | _ => none
  | .scroll => some nav.scroll
  | .restore data =>
    match nav.screen with
    | .list _ =>
      if Distinct data then some (.ok (nav.restore dateFormatter data)) else none
    | _ => none

def machine : Machine (Except RLMException Navigation) Event where
  step outcome e :=
    match outcome with
    | .ok nav => nav.handle typeOf dateFormatter calendar e
    | .error _ => none

end Step

/-! ## What an event can do -/

inductive Handled (typeOf : String → Kind) (dateFormatter : DateFormatter) (calendar : Calendar)
    (nav : Navigation) : Event → Except RLMException Navigation → Prop where
  | background {back : DataServiceManager.Event} {manager : DataServiceManager}
      (hback : back.IsBackground)
      (hmanager : (DataServiceManager.machine typeOf).step nav.manager back = some manager)
      : Handled typeOf dateFormatter calendar nav (.background back) (.ok { nav with manager })
  | addNew {context : AddContext} (htype : typeOf context.uuidString = .report)
      (hnew : nav.manager.localDataService.realm.object .report context.uuidString = none)
      : Handled typeOf dateFormatter calendar nav (.addNew context)
          (nav.addNew dateFormatter calendar context)
  | open {e : Event} {rows : List Accessor}
      (hrows : ∀ row ∈ rows, ∃ rows' ∈ nav.reportData, row ∈ rows')
      : Handled typeOf dateFormatter calendar nav e (nav.pushReportDetailsVC rows)
  | deleteReport {e : Event} {row : Accessor} (hscreen : nav.screen = .list none)
      (hrow : ∃ rows ∈ nav.reportData, row ∈ rows)
      : Handled typeOf dateFormatter calendar nav e (nav.deleteReport dateFormatter row)
  | editReport {e : Event} {row : Accessor} (hscreen : nav.screen = .list none)
      (hrow : ∃ rows ∈ nav.reportData, row ∈ rows)
      : Handled typeOf dateFormatter calendar nav e
          ((nav.report row).map fun _ => { nav with screen := .list (some row) })
  | confirmInList {row : Accessor} {uuidString title desc : String}
      (hscreen : nav.screen = .list (some row))
      : Handled typeOf dateFormatter calendar nav (.confirm uuidString title desc)
          (nav.confirmInList row uuidString title desc)
  | confirmInShots {details : Held ReportDetailsViewController}
      {shots : Held ShotDetailsViewController} {row : Accessor} {uuidString title desc : String}
      (hscreen : nav.screen = .shots details shots (some row))
      : Handled typeOf dateFormatter calendar nav (.confirm uuidString title desc)
          (nav.confirmInShots dateFormatter details shots row uuidString title desc)
  | cancelInList {e : Event} {row : Accessor} (hscreen : nav.screen = .list (some row))
      : Handled typeOf dateFormatter calendar nav e (.ok { nav with screen := .list none })
  | cancelInShots {e : Event} {details : Held ReportDetailsViewController}
      {shots : Held ShotDetailsViewController} {row : Accessor}
      (hscreen : nav.screen = .shots details shots (some row))
      : Handled typeOf dateFormatter calendar nav e
          (.ok { nav with screen := .shots details shots none })
  | addShots {now : Date} {details : Held ReportDetailsViewController}
      (hscreen : nav.screen = .details details)
      : Handled typeOf dateFormatter calendar nav (.addShots now)
          (nav.pushShotDetailsVC dateFormatter now details)
  | openEditor {e : Event} {details : Held ReportDetailsViewController}
      {shots : Held ShotDetailsViewController} {row : Accessor} {shotResult : Option Accessor}
      (hscreen : nav.screen = .shots details shots none) (hrow : row ∈ shots.reportDatas)
      (hshot : ∀ shot ∈ shotResult, shot ∈ shots.shotResult)
      : Handled typeOf dateFormatter calendar nav e
          (nav.pushCreateNewShotVC details shots row shotResult)
  | openAlert {e : Event} {details : Held ReportDetailsViewController}
      {shots : Held ShotDetailsViewController} {row : Accessor}
      (hscreen : nav.screen = .shots details shots none) (hrow : row ∈ shots.reportDatas)
      : Handled typeOf dateFormatter calendar nav e
          ((nav.report row).map fun _ => { nav with screen := .shots details shots (some row) })
  | idle {e : Event} {details : Held ReportDetailsViewController}
      {shots : Held ShotDetailsViewController} (hscreen : nav.screen = .shots details shots none)
      : Handled typeOf dateFormatter calendar nav e (.ok nav)
  | deleteRow {e : Event} {details : Held ReportDetailsViewController}
      {shots : Held ShotDetailsViewController} {shot : Accessor}
      (hscreen : nav.screen = .shots details shots none) (hshot : shot ∈ shots.shotResult)
      : Handled typeOf dateFormatter calendar nav e
          (nav.deleteShot dateFormatter details shots shot)
  | editor {event : CreateNewShotViewController.Event} {details : Held ReportDetailsViewController}
      {shots : Held ShotDetailsViewController} {editor : Editor}
      {controller : CreateNewShotViewController}
      (hscreen : nav.screen = .editor details shots editor)
      (hcontroller : CreateNewShotViewController.machine.step editor.controller event
        = some controller)
      : Handled typeOf dateFormatter calendar nav (.editor event)
          (.ok { nav with screen := .editor details shots { editor with controller } })
  | submit {context : SubmitContext} {details : Held ReportDetailsViewController}
      {shots : Held ShotDetailsViewController} {editor : Editor}
      (hscreen : nav.screen = .editor details shots editor)
      (htype : typeOf context.uuidString = .shot)
      (hnew : nav.manager.localDataService.realm.object .shot context.uuidString = none)
      : Handled typeOf dateFormatter calendar nav (.submit context)
          (nav.submit dateFormatter details shots editor context)
  | backToList {details : Held ReportDetailsViewController}
      (hscreen : nav.screen = .details details)
      : Handled typeOf dateFormatter calendar nav .back
          (.ok (setupList { nav with screen := .list none } dateFormatter))
  | backToDetails {details : Held ReportDetailsViewController}
      {shots : Held ShotDetailsViewController} (hscreen : nav.screen = .shots details shots none)
      : Handled typeOf dateFormatter calendar nav .back
          (nav.pushReportDetailsVC details.reportDatas)
  | backToShots {details : Held ReportDetailsViewController}
      {shots : Held ShotDetailsViewController} {editor : Editor}
      (hscreen : nav.screen = .editor details shots editor)
      : Handled typeOf dateFormatter calendar nav .back (nav.showShots dateFormatter details shots)
  | scroll : Handled typeOf dateFormatter calendar nav .scroll nav.scroll
  | restore {data : Kind → List DataServiceObject} {alert : Option Accessor}
      (hscreen : nav.screen = .list alert) (hdata : Distinct data)
      : Handled typeOf dateFormatter calendar nav (.restore data)
          (.ok (nav.restore dateFormatter data))

section Handled

variable {typeOf : String → Kind} {dateFormatter : DateFormatter} {calendar : Calendar}
  {nav : Navigation} {e : Event} {outcome : Except RLMException Navigation}

/--
What each handler that does not raise keeps holds wherever a run has got without raising.
-/
theorem invariant {I : Navigation → Prop} {C : Event → Prop}
    (hstep : ∀ nav e nav', I nav → C e →
      nav.handle typeOf dateFormatter calendar e = some (.ok nav') → I nav')
    {nav' : Navigation} {events : List Event} (h : I nav) (hC : ∀ e ∈ events, C e)
    (hrun : (machine typeOf dateFormatter calendar).run (.ok nav) events = some (.ok nav'))
    : I nav' := by
  refine Machine.invariant_of_meets (I := fun outcome => ∀ nav, outcome = .ok nav → I nav)
    (C := fun _ e => C e) ?_ ?_ (Machine.meets_of_forall (fun _ e he => hC e he) _) hrun nav' rfl
  . intro outcome e outcome' houtcome hCe houtcome' mid hmid
    subst hmid
    cases outcome with
    | error exception => cases houtcome'
    | ok nav => exact hstep nav e mid (houtcome nav rfl) hCe houtcome'
  . intro mid hmid
    cases hmid
    exact h

theorem row_of_index {index item : Nat} {row : Accessor}
    (h : (nav.reportData[index]?.bind fun rows => rows[item]?) = some row)
    : ∃ rows ∈ nav.reportData, row ∈ rows := by
  obtain ⟨rows, hrows, hitem⟩ := Option.bind_eq_some_iff.mp h
  exact ⟨rows, List.mem_of_getElem? hrows, List.mem_of_getElem? hitem⟩

theorem handled (hstep : nav.handle typeOf dateFormatter calendar e = some outcome)
    : Handled typeOf dateFormatter calendar nav e outcome := by
  cases e with
  | background back =>
    simp only [handle] at hstep
    split at hstep
    . next hback =>
      obtain ⟨manager, hmanager, rfl⟩ := Option.map_eq_some_iff.mp hstep
      exact .background hback hmanager
    . cases hstep
  | addNew context =>
    simp only [handle] at hstep
    split at hstep
    . split at hstep
      . next hguard =>
        cases hstep
        exact .addNew hguard.1 hguard.2
      . cases hstep
    . cases hstep
  | openReport index item =>
    simp only [handle] at hstep
    split at hstep
    . obtain ⟨row, hrow, rfl⟩ := Option.map_eq_some_iff.mp hstep
      apply Handled.open
      intro row' hrow'
      rw [List.mem_singleton.mp hrow']
      exact row_of_index hrow
    . cases hstep
  | openSection index =>
    simp only [handle] at hstep
    split at hstep
    . obtain ⟨rows, hrows, rfl⟩ := Option.map_eq_some_iff.mp hstep
      exact .open fun row hrow => ⟨rows, List.mem_of_getElem? hrows, hrow⟩
    . cases hstep
  | deleteReport index item =>
    simp only [handle] at hstep
    split at hstep
    . next hscreen =>
      obtain ⟨row, hrow, rfl⟩ := Option.map_eq_some_iff.mp hstep
      exact .deleteReport hscreen (row_of_index hrow)
    . cases hstep
  | editReport index item =>
    simp only [handle] at hstep
    split at hstep
    . next hscreen =>
      obtain ⟨row, hrow, rfl⟩ := Option.map_eq_some_iff.mp hstep
      exact .editReport hscreen (row_of_index hrow)
    . cases hstep
  | confirm uuidString title desc =>
    simp only [handle] at hstep
    split at hstep
    . next hscreen =>
      cases hstep
      exact .confirmInList hscreen
    . next hscreen =>
      cases hstep
      exact .confirmInShots hscreen
    . cases hstep
  | cancel =>
    simp only [handle] at hstep
    split at hstep
    . next hscreen =>
      cases hstep
      exact .cancelInList hscreen
    . next hscreen =>
      cases hstep
      exact .cancelInShots hscreen
    . cases hstep
  | addShots now =>
    simp only [handle] at hstep
    split at hstep
    . next hscreen =>
      cases hstep
      exact .addShots hscreen
    . cases hstep
  | newShot =>
    simp only [handle] at hstep
    split at hstep
    . next hscreen =>
      split at hstep
      . split at hstep
        . next row hrows =>
          cases hstep
          exact .openEditor hscreen (by rw [hrows]; exact List.mem_cons_self) (by simp)
        . cases hstep
          exact .idle hscreen
      . cases hstep
    . cases hstep
  | openRow row =>
    simp only [handle] at hstep
    split at hstep
    . next hscreen =>
      split at hstep
      . next reportData hrows =>
        cases hstep
        exact .openAlert hscreen (by rw [hrows]; exact List.mem_cons_self)
      . next reportData item hrows =>
        obtain ⟨shot, hshot, rfl⟩ := Option.map_eq_some_iff.mp hstep
        apply Handled.openEditor hscreen (by rw [hrows]; exact List.mem_cons_self)
        intro shot' hshot'
        cases hshot'
        exact List.mem_of_getElem? hshot
      . cases hstep
    . cases hstep
  | deleteRow row =>
    simp only [handle] at hstep
    split at hstep
    . next hscreen =>
      split at hstep
      . obtain ⟨shot, hshot, rfl⟩ := Option.map_eq_some_iff.mp hstep
        exact .deleteRow hscreen (List.mem_of_getElem? hshot)
      . cases hstep
    . cases hstep
  | editor event =>
    simp only [handle] at hstep
    split at hstep
    . next hscreen =>
      obtain ⟨controller, hcontroller, rfl⟩ := Option.map_eq_some_iff.mp hstep
      exact .editor hscreen hcontroller
    . cases hstep
  | submit context =>
    simp only [handle] at hstep
    split at hstep
    . next hscreen =>
      split at hstep
      . next hguard =>
        cases hstep
        exact .submit hscreen hguard.1 hguard.2
      . cases hstep
    . cases hstep
  | back =>
    simp only [handle] at hstep
    split at hstep
    . next hscreen =>
      cases hstep
      exact .backToList hscreen
    . next hscreen =>
      cases hstep
      exact .backToDetails hscreen
    . next hscreen =>
      cases hstep
      exact .backToShots hscreen
    . cases hstep
  | scroll =>
    cases hstep
    exact .scroll
  | restore data =>
    simp only [handle] at hstep
    split at hstep
    . next hscreen =>
      split at hstep
      . next hdata =>
        cases hstep
        exact .restore hscreen hdata
      . cases hstep
    . cases hstep

end Handled

end Navigation
