import Mathlib.Logic.Equiv.List
import CaptainCue.Screens.Changes

/-!
This module contains what the screen on top shows: loading it again from the stored data would
change nothing, although not every change of the data loads it.
-/

namespace ReportManagerViewController

/-! ### Editing a report keeps its place in the list -/

def Loop.map (loop : Loop) (f : ReportModel → ReportModel) : Loop :=
  { loop with
    reportData := loop.reportData.map (List.map f)
    tempArr := loop.tempArr.map f
  }

variable {dateFormatter : DateFormatter} {f : ReportModel → ReportModel}

theorem Loop.body_map (htime : ∀ report, (f report).time = report.time) (loop : Loop)
    (item : ReportModel)
    : (loop.map f).body dateFormatter (f item) = (loop.body dateFormatter item).map f := by
  unfold body
  simp only [Loop.map, htime]
  split
  . simp
  . simp

theorem Loop.foldl_body_map (htime : ∀ report, (f report).time = report.time)
    (items : List ReportModel) (loop : Loop)
    : (items.map f).foldl (body dateFormatter) (loop.map f)
        = (items.foldl (body dateFormatter) loop).map f := by
  induction items generalizing loop with
  | nil => rfl
  | cons item items ih =>
    rw [List.map_cons, List.foldl_cons, Loop.body_map htime, ih, List.foldl_cons]

theorem setupDatas_map (hid : ∀ report, (f report).id = report.id)
    (htime : ∀ report, (f report).time = report.time) {service service' : RealmDataService}
    (hrank : service'.rank = service.rank) (hinjective : Function.Injective service.rank)
    (hfind : ∀ id, service'.realm.reports.find? id = (service.realm.reports.find? id).map f)
    : (setupDatas dateFormatter service').reportData
        = (setupDatas dateFormatter service).reportData.map (List.map f) := by
  have hsorted : sortedByDescending ReportModel.time service'.getAllReports
      = (sortedByDescending ReportModel.time service.getAllReports).map f := by
    unfold sortedByDescending RealmDataService.getAllReports
    rw [hrank, Table.list_eq_map hid hfind hinjective, sortedBy_map]
    intro report
    rw [htime]
  unfold setupDatas
  rw [hsorted]
  cases hreports : sortedByDescending ReportModel.time service.getAllReports with
  | nil => rfl
  | cons first rest =>
    have hfold := @Loop.foldl_body_map dateFormatter _ htime (first :: rest)
      ⟨[], [], some (first.time.day dateFormatter)⟩
    simp only [List.map_cons, List.isEmpty_cons, List.head?_cons, Option.map_some, htime, if_true]
    rw [← List.map_cons]
    refine (congrArg (fun loop : Loop => loop.reportData ++ [loop.tempArr]) hfold).trans ?_
    simp [Loop.map]

end ReportManagerViewController

namespace Navigation

variable {nav nav' : Navigation} {dateFormatter : DateFormatter} {typeOf : String → Kind}
  {calendar : Calendar} {e : Event}

/-! ### Loading the screen on top -/

def refresh (nav : Navigation) (dateFormatter : DateFormatter)
    : Except RLMException Navigation := do
  match nav.screen with
  | .list _ => pure (nav.setupList dateFormatter)
  | .details details =>
    let details ← nav.setupDetails details.reportDatas
    pure { nav with screen := .details details }
  | .shots details shots alert =>
    let shots ← nav.setupShots dateFormatter shots.controller shots.reportDatas
    pure { nav with screen := .shots details shots alert }
  | .editor details shots editor =>
    let report ← nav.report editor.reportData
    let shot ← editor.shotResult.mapM nav.shot
    let controller := { editor.controller with reportData := report, shotResult := shot }
    pure { nav with screen := .editor details shots { editor with controller } }

def Fresh (nav : Navigation) (dateFormatter : DateFormatter) : Prop :=
  match nav.screen with
  | .list _ => (nav.setupList dateFormatter).reportData = nav.reportData
  | .details details => nav.setupDetails details.reportDatas = .ok details
  | .shots _ shots _ =>
    nav.setupShots dateFormatter shots.controller shots.reportDatas = .ok shots
  | .editor _ _ editor =>
    nav.report editor.reportData = .ok editor.controller.reportData
      ∧ editor.shotResult.mapM nav.shot = .ok editor.controller.shotResult

theorem Fresh.refresh (h : nav.Fresh dateFormatter) : nav.refresh dateFormatter = .ok nav := by
  obtain ⟨manager, reportData, screen⟩ := nav
  cases screen with
  | list alert =>
    exact congrArg (fun rows => Except.ok (Navigation.mk manager rows _)) h
  | details details =>
    refine bind_eq_ok.mpr ⟨details, h, rfl⟩
  | shots details shots alert =>
    refine bind_eq_ok.mpr ⟨shots, h, rfl⟩
  | editor details shots editor =>
    refine bind_eq_ok.mpr ⟨editor.controller.reportData, h.1, ?_⟩
    exact bind_eq_ok.mpr ⟨editor.controller.shotResult, h.2, rfl⟩

/-! ### The same stored data -/

structure SameData (nav nav' : Navigation) : Prop where
  rank : nav'.manager.localDataService.rank = nav.manager.localDataService.rank
  reports : ∀ id, nav'.manager.realm.reports.find? id = nav.manager.realm.reports.find? id
  shots : ∀ id, nav'.manager.realm.shots.find? id = nav.manager.realm.shots.find? id

theorem find?_report {realm realm' : Realm} {id : String}
    (h : realm'.object .report id = realm.object .report id)
    : realm'.reports.find? id = realm.reports.find? id :=
  Option.map_injective (fun _ _ => DataServiceObject.report.inj) h

theorem find?_shot {realm realm' : Realm} {id : String}
    (h : realm'.object .shot id = realm.object .shot id)
    : realm'.shots.find? id = realm.shots.find? id :=
  Option.map_injective (fun _ _ => DataServiceObject.shot.inj) h

theorem SameData.of_becomes {manager : DataServiceManager}
    (h : DataServiceManager.Becomes nav.manager manager nav.manager.realm.object)
    : SameData nav { nav with manager } where
  rank := h.rank
  reports id := find?_report (h.object .report id)
  shots id := find?_shot (h.object .shot id)

theorem SameData.report (h : SameData nav nav') : nav'.report = nav.report := by
  funext row
  unfold Navigation.report fields
  simp only [show nav'.manager.localDataService.realm.reports.find? row.primaryKey
    = nav.manager.localDataService.realm.reports.find? row.primaryKey from h.reports _]

theorem SameData.shot (h : SameData nav nav') : nav'.shot = nav.shot := by
  funext row
  unfold Navigation.shot fields
  simp only [show nav'.manager.localDataService.realm.shots.find? row.primaryKey
    = nav.manager.localDataService.realm.shots.find? row.primaryKey from h.shots _]

theorem SameData.getShotDatas (h : SameData nav nav')
    (hinjective : Function.Injective nav.manager.localDataService.rank) (idList : List String)
    : nav'.manager.localDataService.getShotDatas idList
        = nav.manager.localDataService.getShotDatas idList := by
  have hlist : nav'.manager.localDataService.realm.shots.list nav.manager.localDataService.rank
      = (nav.manager.localDataService.realm.shots.list nav.manager.localDataService.rank).map id := by
    refine Table.list_eq_map (fun _ => rfl) (fun k => ?_) hinjective
    exact (h.shots k).trans (congrFun Option.map_id _).symm
  unfold RealmDataService.getShotDatas
  rw [h.rank, hlist, List.map_id]

theorem SameData.setupDetails (h : SameData nav nav')
    (hinjective : Function.Injective nav.manager.localDataService.rank) (rows : List Accessor)
    : nav'.setupDetails rows = nav.setupDetails rows := by
  unfold Navigation.setupDetails Navigation.reports ReportDetailsViewController.setupDatas
  simp only [h.report, h.getShotDatas hinjective]

theorem SameData.setupShots (h : SameData nav nav')
    (hinjective : Function.Injective nav.manager.localDataService.rank)
    (controller : ShotDetailsViewController) (rows : List Accessor)
    : nav'.setupShots dateFormatter controller rows
        = nav.setupShots dateFormatter controller rows := by
  unfold Navigation.setupShots Navigation.reports ShotDetailsViewController.setupDatas
  simp only [h.report, h.getShotDatas hinjective]

/-! ### What the handlers show -/

theorem setupDetails_again {rows : List Accessor} {details : Held ReportDetailsViewController}
    (h : nav.setupDetails rows = .ok details)
    : nav.setupDetails details.reportDatas = .ok details := by
  obtain ⟨reports, hreports, hpure⟩ := bind_eq_ok.mp h
  cases hpure
  exact h

theorem setupShots_again {controller : ShotDetailsViewController} {rows : List Accessor}
    {shots : Held ShotDetailsViewController}
    (h : nav.setupShots dateFormatter controller rows = .ok shots)
    : nav.setupShots dateFormatter shots.controller shots.reportDatas = .ok shots := by
  obtain ⟨reports, hreports, hpure⟩ := bind_eq_ok.mp h
  cases hpure
  refine bind_eq_ok.mpr ⟨reports, hreports, ?_⟩
  let loaded := ShotDetailsViewController.setupDatas { controller with reportDatas := reports }
    dateFormatter nav.manager.localDataService
  have hreload : ShotDetailsViewController.setupDatas { loaded with reportDatas := reports }
      dateFormatter nav.manager.localDataService = loaded := by
    by_cases hlength : reports.length > 1
    . simp [loaded, ShotDetailsViewController.setupDatas, hlength]
    . simp [loaded, ShotDetailsViewController.setupDatas, hlength]
  exact congrArg (fun controller : ShotDetailsViewController => Except.ok (Held.mk rows
    ((controller.shotResult.getD []).map fun shot => ⟨shot.id⟩) controller)) hreload

theorem pushReportDetailsVC_fresh {rows : List Accessor}
    (h : nav.pushReportDetailsVC rows = .ok nav') : nav'.Fresh dateFormatter := by
  obtain ⟨details, hdetails, hpure⟩ := bind_eq_ok.mp h
  cases hpure
  exact setupDetails_again hdetails

theorem showShots_fresh {details : Held ReportDetailsViewController}
    {shots : Held ShotDetailsViewController}
    (h : nav.showShots dateFormatter details shots = .ok nav') : nav'.Fresh dateFormatter := by
  obtain ⟨shots', hshots, hpure⟩ := bind_eq_ok.mp h
  cases hpure
  exact setupShots_again hshots

theorem pushShotDetailsVC_fresh {now : Date} {details : Held ReportDetailsViewController}
    (h : nav.pushShotDetailsVC dateFormatter now details = .ok nav')
    : nav'.Fresh dateFormatter := by
  obtain ⟨reports, -, hrest⟩ := bind_eq_ok.mp h
  obtain ⟨shots, hshots, hpure⟩ := bind_eq_ok.mp hrest
  cases hpure
  exact setupShots_again hshots

theorem viewDidLoad_opened (report : ReportModel) (shot : Option ShotModel)
    : (CreateNewShotViewController.opened report shot).viewDidLoad.reportData = report
        ∧ (CreateNewShotViewController.opened report shot).viewDidLoad.shotResult = shot := by
  cases shot with
  | none => exact ⟨rfl, rfl⟩
  | some shot => exact ⟨rfl, rfl⟩

theorem pushCreateNewShotVC_fresh {details : Held ReportDetailsViewController}
    {shots : Held ShotDetailsViewController} {row : Accessor} {shotResult : Option Accessor}
    (h : nav.pushCreateNewShotVC details shots row shotResult = .ok nav')
    : nav'.Fresh dateFormatter := by
  obtain ⟨report, hreport, hrest⟩ := bind_eq_ok.mp h
  obtain ⟨shot, hshot, hpure⟩ := bind_eq_ok.mp hrest
  cases hpure
  obtain ⟨hreportData, hshotResult⟩ := viewDidLoad_opened report shot
  refine ⟨?_, ?_⟩
  . exact hreport.trans (congrArg Except.ok hreportData.symm)
  . exact hshot.trans (congrArg Except.ok hshotResult.symm)

theorem addNew_fresh {context : ReportManagerViewController.AddContext}
    (h : nav.addNew dateFormatter calendar context = .ok nav') : nav'.Fresh dateFormatter := by
  obtain ⟨first, -, hrest⟩ := bind_eq_ok.mp h
  obtain ⟨pushed, hpush, hreload⟩ := bind_eq_ok.mp hrest
  obtain ⟨sections, -, hpure⟩ := bind_eq_ok.mp hreload
  cases hpure
  exact pushReportDetailsVC_fresh hpush

theorem setupList_edited {manager : DataServiceManager} {f : ReportModel → ReportModel}
    (hid : ∀ report, (f report).id = report.id) (htime : ∀ report, (f report).time = report.time)
    (hinjective : Function.Injective nav.manager.localDataService.rank)
    (hrank : manager.localDataService.rank = nav.manager.localDataService.rank)
    (hfind : ∀ id, manager.realm.reports.find? id = (nav.manager.realm.reports.find? id).map f)
    (screen : Screen)
    : (setupList { nav with manager, screen } dateFormatter).reportData
        = (nav.setupList dateFormatter).reportData := by
  unfold setupList
  dsimp only
  rw [ReportManagerViewController.setupDatas_map hid htime hrank hinjective hfind, List.map_map]
  apply List.map_congr_left
  intro reports _
  simp only [Function.comp_apply, List.map_map]
  apply List.map_congr_left
  intro report _
  exact congrArg Accessor.mk (hid report)

theorem background_fresh {manager : DataServiceManager} (hfresh : nav.Fresh dateFormatter)
    (hinjective : Function.Injective nav.manager.localDataService.rank)
    (h : DataServiceManager.Becomes nav.manager manager nav.manager.realm.object)
    : Fresh { nav with manager } dateFormatter := by
  have hsame := SameData.of_becomes h
  obtain ⟨old, reportData, screen⟩ := nav
  cases screen with
  | list alert =>
    refine (setupList_edited (f := id) (fun _ => rfl) (fun _ => rfl) hinjective h.rank ?_ _).trans
      hfresh
    intro id
    rw [Option.map_id]
    exact hsame.reports id
  | details details => exact (hsame.setupDetails hinjective _).trans hfresh
  | shots details shots alert => exact (hsame.setupShots hinjective _ _).trans hfresh
  | editor details shots editor =>
    refine ⟨?_, ?_⟩
    . rw [hsame.report]
      exact hfresh.1
    . rw [hsame.shot]
      exact hfresh.2

def edited (id title desc : String) (report : ReportModel) : ReportModel :=
  if report.id = id then { report with title, desc } else report

@[simp]
theorem edited_id (id title desc : String) (report : ReportModel)
    : (edited id title desc report).id = report.id := by
  unfold edited
  split <;> rfl

@[simp]
theorem edited_time (id title desc : String) (report : ReportModel)
    : (edited id title desc report).time = report.time := by
  unfold edited
  split <;> rfl

theorem confirm_find? {manager : DataServiceManager} (hverdicts : manager.verdicts = [])
    {report : ReportModel}
    (hstored : manager.realm.object .report report.id = some (.report report))
    (uuidString title desc id : String)
    : let manager' := EditReportAlert.btnConfirmWasTapped report uuidString title desc manager
      manager'.realm.reports.find? id
        = (manager.realm.reports.find? id).map (edited report.id title desc) := by
  intro manager'
  have hobject := (confirm_becomes hverdicts report uuidString title desc).object .report id
  by_cases heq : id = report.id
  . subst heq
    rw [if_pos ⟨rfl, rfl⟩] at hobject
    obtain ⟨new, hnew, hedit⟩ := Option.map_eq_some_iff.mp hobject
    obtain ⟨old, hold, hsame⟩ := Option.map_eq_some_iff.mp hstored
    cases hedit
    cases hsame
    rw [hnew, hold]
    simp [edited]
  . rw [if_neg (by simp [heq])] at hobject
    rw [find?_report hobject]
    cases hfind : manager.realm.reports.find? id with
    | none => rfl
    | some other =>
      have hkey : other.id = id := Table.key_of_find? hfind
      simp [edited, hkey, heq]

theorem confirmInList_fresh {row : Accessor} {uuidString title desc : String}
    (hverdicts : nav.manager.verdicts = [])
    (hinjective : Function.Injective nav.manager.localDataService.rank)
    {alert : Option Accessor} (hscreen : nav.screen = .list alert)
    (hfresh : nav.Fresh dateFormatter)
    (h : nav.confirmInList row uuidString title desc = .ok nav') : nav'.Fresh dateFormatter := by
  obtain ⟨report, hreport, hrest⟩ := bind_eq_ok.mp h
  obtain ⟨sections, -, hpure⟩ := bind_eq_ok.mp hrest
  cases hpure
  unfold Fresh at hfresh
  rw [hscreen] at hfresh
  have hbecomes := confirm_becomes hverdicts report uuidString title desc
  refine (setupList_edited (f := edited report.id title desc) ?_ ?_ hinjective hbecomes.rank ?_
    _).trans hfresh
  . exact edited_id report.id title desc
  . exact edited_time report.id title desc
  . exact confirm_find? hverdicts (stored_of_report hreport) uuidString title desc

theorem setupList_fresh {alert : Option Accessor} (hscreen : nav.screen = .list alert)
    : (nav.setupList dateFormatter).Fresh dateFormatter := by
  obtain ⟨manager, reportData, screen⟩ := nav
  cases hscreen
  rfl

theorem step_keeps_rows {controller controller' : CreateNewShotViewController}
    {event : CreateNewShotViewController.Event}
    (hstep : CreateNewShotViewController.machine.step controller event = some controller')
    : controller'.reportData = controller.reportData
        ∧ controller'.shotResult = controller.shotResult := by
  have hstep : CreateNewShotViewController.step controller event = some controller' := hstep
  cases event with
  | item index =>
    obtain ⟨-, heq⟩ := Option.ite_none_right_eq_some.mp hstep
    cases heq
    exact ⟨rfl, rfl⟩
  | segment index =>
    obtain ⟨-, heq⟩ := Option.ite_none_right_eq_some.mp hstep
    cases heq
    exact ⟨rfl, rfl⟩
  | switch isOn =>
    cases hstep
    exact ⟨rfl, rfl⟩
  | row row =>
    obtain ⟨-, heq⟩ := Option.ite_none_right_eq_some.mp hstep
    cases heq
    unfold CreateNewShotViewController.didSelectRowAt
    dsimp only
    split <;> exact ⟨rfl, rfl⟩

theorem editor_fresh {event : CreateNewShotViewController.Event}
    {details : Held ReportDetailsViewController} {shots : Held ShotDetailsViewController}
    {editor : Editor} {controller : CreateNewShotViewController}
    (hscreen : nav.screen = .editor details shots editor) (hfresh : nav.Fresh dateFormatter)
    (hstep : CreateNewShotViewController.machine.step editor.controller event = some controller)
    : Fresh { nav with screen := .editor details shots { editor with controller } }
        dateFormatter := by
  unfold Fresh at hfresh
  rw [hscreen] at hfresh
  obtain ⟨hreportData, hshotResult⟩ := step_keeps_rows hstep
  refine ⟨?_, ?_⟩
  . exact hfresh.1.trans (congrArg Except.ok hreportData.symm)
  . exact hfresh.2.trans (congrArg Except.ok hshotResult.symm)

theorem Handled.fresh (hverdicts : nav.manager.verdicts = [])
    (hinjective : Function.Injective nav.manager.localDataService.rank)
    (hfresh : nav.Fresh dateFormatter)
    (h : Handled typeOf dateFormatter calendar nav e (.ok nav')) : nav'.Fresh dateFormatter := by
  generalize houtcome : Except.ok nav' = outcome at h
  symm at houtcome
  cases h with
  | background hback hmanager =>
    cases houtcome
    exact background_fresh hfresh hinjective
      (DataServiceManager.background_becomes hback hverdicts hmanager)
  | addNew htype hnew => exact addNew_fresh houtcome
  | «open» hrows => exact pushReportDetailsVC_fresh houtcome
  | deleteReport hscreen hrow =>
    obtain ⟨report, -, hpure⟩ := bind_eq_ok.mp houtcome
    cases hpure
    apply setupList_fresh
    exact hscreen
  | editReport hscreen hrow =>
    obtain ⟨report, -, rfl⟩ := map_eq_ok.mp houtcome
    unfold Fresh at hfresh
    rw [hscreen] at hfresh
    exact hfresh
  | confirmInList hscreen => exact confirmInList_fresh hverdicts hinjective hscreen hfresh houtcome
  | confirmInShots hscreen =>
    obtain ⟨report, -, hrest⟩ := bind_eq_ok.mp houtcome
    exact showShots_fresh hrest
  | cancelInList hscreen =>
    cases houtcome
    unfold Fresh at hfresh
    rw [hscreen] at hfresh
    exact hfresh
  | cancelInShots hscreen =>
    cases houtcome
    unfold Fresh at hfresh
    rw [hscreen] at hfresh
    exact hfresh
  | addShots hscreen => exact pushShotDetailsVC_fresh houtcome
  | openEditor hscreen hrow hshot => exact pushCreateNewShotVC_fresh houtcome
  | openAlert hscreen hrow =>
    obtain ⟨report, -, rfl⟩ := map_eq_ok.mp houtcome
    unfold Fresh at hfresh
    rw [hscreen] at hfresh
    exact hfresh
  | idle hscreen =>
    cases houtcome
    exact hfresh
  | deleteRow hscreen hshot =>
    obtain ⟨data, -, hrest⟩ := bind_eq_ok.mp houtcome
    exact showShots_fresh hrest
  | editor hscreen hcontroller =>
    cases houtcome
    exact editor_fresh hscreen hfresh hcontroller
  | submit hscreen htype hnew =>
    unfold Navigation.submit at houtcome
    split at houtcome
    . cases houtcome
      exact hfresh
    . obtain ⟨report, -, hrest⟩ := bind_eq_ok.mp houtcome
      obtain ⟨shot, -, hrest'⟩ := bind_eq_ok.mp hrest
      exact showShots_fresh hrest'
  | backToList hscreen =>
    cases houtcome
    exact rfl
  | backToDetails hscreen => exact pushReportDetailsVC_fresh houtcome
  | backToShots hscreen => exact showShots_fresh houtcome
  | scroll =>
    rw [scroll_eq houtcome]
    exact hfresh
  | restore hscreen hdata =>
    cases houtcome
    apply setupList_fresh
    exact hscreen

/-! ### Whole runs -/

theorem Change.rank {manager : DataServiceManager} (hverdicts : nav.manager.verdicts = [])
    (h : Change typeOf nav e manager)
    : manager.localDataService.rank = nav.manager.localDataService.rank := by
  cases h with
  | same => rfl
  | background hback hstep =>
    exact (DataServiceManager.background_becomes hback hverdicts hstep).rank
  | addReport htype hnew =>
    exact (@DataServiceManager.addObject_becomes _ hverdicts (.report _) hnew).rank
  | editReport title desc hstored =>
    exact (DataServiceManager.updateObject_becomes hverdicts _).rank
  | deleteReport hstored => exact (DataServiceManager.deleteObject_becomes hverdicts _).rank
  | deleteShot hstored => exact (DataServiceManager.deleteObject_becomes hverdicts _).rank
  | @submit _ _ _ editor hscreen report shot context htype hnew hball hreport hshot =>
    obtain hsame | ⟨new, hadd, hid⟩ | ⟨stored, new, hupdate, -, -⟩ :=
      btnSubmitWasTapped_cases
        { editor.controller with reportData := report, shotResult := shot } context nav.manager
    . rw [hsame]
    . rw [hadd]
      rw [← hid] at hnew
      exact (@DataServiceManager.addObject_becomes _ hverdicts (.shot new) hnew).rank
    . rw [hupdate]
      exact (DataServiceManager.updateObject_becomes hverdicts _).rank
  | restore hdata =>
    unfold restored
    dsimp only [DataServiceManager.onLocal]
    rw [RealmDataService.restoreData_eq (RealmDataService.restoreData_verdicts hverdicts .report _),
      RealmDataService.restoreData_eq hverdicts]

structure Shown (dateFormatter : DateFormatter) (rank : String → Nat) (nav : Navigation)
    : Prop where
  live : Live nav
  rank : nav.manager.localDataService.rank = rank
  fresh : nav.Fresh dateFormatter

theorem step_shown {rank : String → Nat} (hinjective : Function.Injective rank)
    {nav' : Navigation} (h : Shown dateFormatter rank nav)
    (hstep : nav.handle typeOf dateFormatter calendar e = some (.ok nav'))
    : Shown dateFormatter rank nav' := by
  have hlive := step_live h.live hstep
  obtain ⟨hbefore, hrank, hfresh⟩ := h
  have hhandled := handled hstep
  refine ⟨hlive, (hhandled.change.rank hbefore.verdicts).trans hrank, ?_⟩
  rw [← hrank] at hinjective
  exact hhandled.fresh hbefore.verdicts hinjective hfresh

open ReportManagerViewController (daysFormatter)
open ShotDetailsViewController (sampleStart)

def sampleRank (id : String) : Nat := Encodable.encode (id.toList.map Char.toNat)

theorem sampleRank_injective : Function.Injective sampleRank := by
  intro id id' heq
  have hchars : id.toList.map Char.toNat = id'.toList.map Char.toNat :=
    Encodable.encode_injective heq
  have hinjective : Function.Injective Char.toNat := fun c c' h => Char.toNat_inj.mp h
  exact String.toList_inj.mp (List.map_injective_iff.mpr hinjective hchars)

def sampleRanked : DataServiceManager :=
  { sampleStart with localDataService.rank := sampleRank }

def sampleEdit : List Event :=
  [.openReport 0 0, .addShots 200, .newShot, .editor (.item 2), .submit ⟨"s", 300⟩, .back, .back,
    .editReport 0 0, .confirm "" "t" ""]

end Navigation
