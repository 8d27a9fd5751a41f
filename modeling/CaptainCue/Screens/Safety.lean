import CaptainCue.Report.Titles
import CaptainCue.Screens.Navigation

/-!
This module contains the rows the screens can still read: every row a screen holds is stored as long
as the screen is open, except that of an `EditReportAlert` over the list, which a restore may drop.
-/

namespace Navigation

open ReportManagerViewController (AddContext)

variable {nav nav' : Navigation} {dateFormatter : DateFormatter}

/-! ### Reading stored rows -/

def Stored (nav : Navigation) (T : Kind) (row : Accessor) : Prop :=
  nav.manager.realm.object T row.primaryKey ≠ none

def AllStored (nav : Navigation) (T : Kind) (rows : List Accessor) : Prop :=
  ∀ row ∈ rows, nav.Stored T row

theorem fields_eq_ok {α : Type} {key : α → String} {table : Table key} {row : Accessor} {value : α}
    : fields table row = .ok value ↔ table.find? row.primaryKey = some value := by
  unfold fields
  cases table.find? row.primaryKey with
  | none => simp
  | some value' => simp

theorem Stored.report {row : Accessor} (h : nav.Stored .report row)
    : ∃ report, nav.report row = .ok report := by
  obtain ⟨data, hdata⟩ := Option.ne_none_iff_exists'.mp h
  obtain ⟨report, hfind, -⟩ := Option.map_eq_some_iff.mp hdata
  exact ⟨report, fields_eq_ok.mpr hfind⟩

theorem Stored.shot {row : Accessor} (h : nav.Stored .shot row)
    : ∃ shot, nav.shot row = .ok shot := by
  obtain ⟨data, hdata⟩ := Option.ne_none_iff_exists'.mp h
  obtain ⟨shot, hfind, -⟩ := Option.map_eq_some_iff.mp hdata
  exact ⟨shot, fields_eq_ok.mpr hfind⟩

theorem object_of_report {row : Accessor} {report : ReportModel} (h : nav.report row = .ok report)
    : report.id = row.primaryKey
        ∧ nav.manager.realm.object .report row.primaryKey = some (.report report) := by
  have hfind := fields_eq_ok.mp h
  exact ⟨Table.key_of_find? hfind, by simp [hfind]⟩

theorem object_of_shot {row : Accessor} {shot : ShotModel} (h : nav.shot row = .ok shot)
    : shot.id = row.primaryKey
        ∧ nav.manager.realm.object .shot row.primaryKey = some (.shot shot) := by
  have hfind := fields_eq_ok.mp h
  exact ⟨Table.key_of_find? hfind, by simp [hfind]⟩

theorem report_of_not_stored {row : Accessor} (h : ¬ nav.Stored .report row)
    : nav.report row = .error .invalidated := by
  cases hread : nav.report row with
  | error exception =>
    unfold Navigation.report fields at hread
    split at hread
    . cases hread
    . cases hread
      rfl
  | ok report =>
    have hobject := (object_of_report hread).2
    exact absurd (by rw [Stored, hobject]; simp) h

theorem mapM_ok {ε α β : Type} {f : α → Except ε β} {l : List α} (h : ∀ a ∈ l, ∃ b, f a = .ok b)
    : ∃ bs, l.mapM f = .ok bs := by
  induction l with
  | nil => exact ⟨[], rfl⟩
  | cons a l ih =>
    obtain ⟨b, hb⟩ := h a List.mem_cons_self
    obtain ⟨bs, hbs⟩ := ih fun a' ha' => h a' (List.mem_cons_of_mem a ha')
    refine ⟨b :: bs, ?_⟩
    rw [List.mapM_cons, hb, hbs]
    rfl

theorem AllStored.reports {rows : List Accessor} (h : nav.AllStored .report rows)
    : ∃ reports, nav.reports rows = .ok reports :=
  mapM_ok fun row hrow => (h row hrow).report

theorem AllStored.shots {rows : List Accessor} (h : nav.AllStored .shot rows)
    : ∃ shots, rows.mapM nav.shot = .ok shots :=
  mapM_ok fun row hrow => (h row hrow).shot

theorem reloadData_ok (h : ∀ rows ∈ nav.reportData, nav.AllStored .report rows)
    : ∃ sections, nav.reloadData = .ok sections :=
  mapM_ok fun rows hrows => (h rows hrows).reports

theorem AllStored.of_kept {T : Kind} {rows : List Accessor} (h : nav.AllStored T rows)
    (hkept : ∀ id, nav.manager.realm.object T id ≠ none → nav'.manager.realm.object T id ≠ none)
    : nav'.AllStored T rows :=
  fun row hrow => hkept row.primaryKey (h row hrow)

/-! ### What a query returns is stored -/

theorem accessor_stored_report {report : ReportModel}
    (h : report ∈ nav.manager.localDataService.realm.reports.rows)
    : nav.Stored .report ⟨report.id⟩ := by
  unfold Stored
  rw [Realm.object_report]
  rw [show nav.manager.realm.reports.find? report.id = some report from Table.mem_rows.mp h]
  simp

theorem accessors_stored_shot {reportIDs : List String}
    : nav.AllStored .shot
        ((sortedBy ShotModel.time (nav.manager.localDataService.getShotDatas reportIDs)).map
          fun shot => ⟨shot.id⟩) := by
  intro row hrow
  obtain ⟨shot, hshot, rfl⟩ := List.mem_map.mp hrow
  have hmem := RealmDataService.mem_getShotDatas.mp ((sortedBy_perm _ _).mem_iff.mp hshot)
  unfold Stored
  rw [Realm.object_shot]
  rw [show nav.manager.realm.shots.find? shot.id = some shot from Table.mem_rows.mp hmem.1]
  simp

theorem setupList_stored (nav : Navigation) (dateFormatter : DateFormatter)
    : ∀ rows ∈ (nav.setupList dateFormatter).reportData,
        (nav.setupList dateFormatter).AllStored .report rows := by
  intro rows hrows row hrow
  obtain ⟨reports, hreports, rfl⟩ := List.mem_map.mp hrows
  obtain ⟨report, hreport, rfl⟩ := List.mem_map.mp hrow
  have hsectioned := ReportManagerViewController.setupDatas_sectioned dateFormatter
    nav.manager.localDataService
  have hmem : report ∈ nav.manager.localDataService.realm.reports.rows :=
    ReportManagerViewController.mem_sortedReports.mp
      (hsectioned.mem_iff.mpr ⟨reports, hreports, hreport⟩)
  exact accessor_stored_report hmem

theorem setupDetails_ok {rows : List Accessor} (h : nav.AllStored .report rows)
    : ∃ details, nav.setupDetails rows = .ok details ∧ details.reportDatas = rows
        ∧ nav.AllStored .shot details.shotResult := by
  obtain ⟨reports, hreports⟩ := h.reports
  unfold setupDetails
  rw [hreports]
  refine ⟨_, rfl, rfl, ?_⟩
  rw [ReportDetailsViewController.setupDatas_eq]
  exact accessors_stored_shot

theorem setupShots_ok {rows : List Accessor} (h : nav.AllStored .report rows)
    (dateFormatter : DateFormatter) (controller : ShotDetailsViewController)
    : ∃ shots, nav.setupShots dateFormatter controller rows = .ok shots ∧ shots.reportDatas = rows
        ∧ nav.AllStored .shot shots.shotResult := by
  obtain ⟨reports, hreports⟩ := h.reports
  unfold setupShots
  rw [hreports]
  refine ⟨_, rfl, rfl, ?_⟩
  unfold ShotDetailsViewController.setupDatas
  dsimp only
  split <;> exact accessors_stored_shot

/-! ### What the calls of the manager keep -/

def Keeps (manager manager' : DataServiceManager) (T : Kind) : Prop :=
  ∀ id, manager.realm.object T id ≠ none → manager'.realm.object T id ≠ none

theorem keeps_of_same {manager manager' : DataServiceManager}
    (h : DataServiceManager.Becomes manager manager' manager.realm.object) (T : Kind)
    : Keeps manager manager' T := by
  intro id hid
  rw [h.object]
  exact hid

theorem keeps_of_saved {manager manager' : DataServiceManager} {U : Kind} {key : String}
    {data : DataServiceObject} (h : DataServiceManager.Becomes manager manager' fun T id =>
      if T = U ∧ id = key then some data else manager.realm.object T id) (T : Kind)
    : Keeps manager manager' T := by
  intro id hid
  rw [h.object]
  split
  . simp
  . exact hid

theorem deleteObject_shot_becomes {manager : DataServiceManager} (h : manager.verdicts = [])
    (shot : ShotModel)
    : DataServiceManager.Becomes manager (manager.deleteObject (.shot shot)) fun T id =>
        if T = .shot ∧ id = shot.id then none else manager.realm.object T id := by
  have hdelete := DataServiceManager.deleteObject_becomes h (.shot shot)
  refine ⟨hdelete.verdicts, hdelete.rank, ?_⟩
  intro T id
  rw [hdelete.object]
  simp [DataServiceManager.cascade, DataServiceObject.kind, DataServiceObject.id]

theorem confirm_becomes {manager : DataServiceManager} (h : manager.verdicts = [])
    (report : ReportModel) (uuidString title desc : String)
    : DataServiceManager.Becomes manager
        (EditReportAlert.btnConfirmWasTapped report uuidString title desc manager) fun T id =>
          if T = .report ∧ id = report.id then
            some (.report { report with title, desc })
          else
            manager.realm.object T id :=
  DataServiceManager.updateObject_becomes h (.report { report with title, desc })

theorem btnSubmitWasTapped_cases (controller : CreateNewShotViewController)
    (context : SubmitContext) (manager : DataServiceManager)
    : controller.btnSubmitWasTapped context manager = manager
        ∨ (∃ shot : ShotModel,
            controller.btnSubmitWasTapped context manager = manager.addObject (.shot shot)
              ∧ shot.id = context.uuidString)
        ∨ ∃ stored shot : ShotModel,
            controller.btnSubmitWasTapped context manager = manager.updateObject (.shot shot)
              ∧ shot.id = stored.id ∧ controller.shotResult = some stored := by
  unfold CreateNewShotViewController.btnSubmitWasTapped
  split
  . exact .inl rfl
  . cases controller.shotResult with
    | none => exact .inr (.inl ⟨_, rfl, rfl⟩)
    | some stored => exact .inr (.inr ⟨stored, _, rfl, rfl, rfl⟩)

theorem btnSubmitWasTapped_keeps {manager : DataServiceManager} (h : manager.verdicts = [])
    (controller : CreateNewShotViewController) (context : SubmitContext)
    (hnew : manager.realm.object .shot context.uuidString = none) (T : Kind)
    : Keeps manager (controller.btnSubmitWasTapped context manager) T := by
  obtain hsame | ⟨shot, hadd, hid⟩ | ⟨stored, shot, hupdate, -, -⟩ :=
    btnSubmitWasTapped_cases controller context manager
  . rw [hsame]
    exact fun _ hid => hid
  . rw [hadd]
    apply keeps_of_saved (DataServiceManager.addObject_becomes h _)
    show manager.realm.object .shot shot.id = none
    rw [hid]
    exact hnew
  . rw [hupdate]
    exact keeps_of_saved (DataServiceManager.updateObject_becomes h _) T

/-! ### The rows of the screens -/

def HoldsStored (nav : Navigation) : Screen → Prop
  -- the alert over the list may outlive its row
  | .list _ => True
  | .details details =>
    nav.AllStored .report details.reportDatas ∧ nav.AllStored .shot details.shotResult
  | .shots details shots alert =>
    nav.AllStored .report details.reportDatas ∧ nav.AllStored .report shots.reportDatas
      ∧ nav.AllStored .shot shots.shotResult ∧ ∀ row ∈ alert, nav.Stored .report row
  | .editor details shots editor =>
    nav.AllStored .report details.reportDatas ∧ nav.AllStored .report shots.reportDatas
      ∧ nav.Stored .report editor.reportData ∧ ∀ row ∈ editor.shotResult, nav.Stored .shot row

structure Live (nav : Navigation) : Prop where
  verdicts : nav.manager.verdicts = []
  list : ∀ rows ∈ nav.reportData, nav.AllStored .report rows
  screen : nav.HoldsStored nav.screen

def Raises (nav : Navigation) (e : Event) : Prop :=
  match nav.screen, e with
  | .list (some row), .confirm _ _ _ => ¬ nav.Stored .report row
  | _, _ => False

theorem raises_iff {e : Event}
    : Raises nav e
        ↔ ∃ row uuidString title desc, e = .confirm uuidString title desc
          ∧ nav.screen = .list (some row) ∧ ¬ nav.Stored .report row := by
  constructor
  . intro hraises
    unfold Raises at hraises
    split at hraises
    . next row uuidString title desc hscreen =>
      exact ⟨row, uuidString, title, desc, rfl, hscreen, hraises⟩
    . exact hraises.elim
  . rintro ⟨row, uuidString, title, desc, rfl, hscreen, hgone⟩
    unfold Raises
    rw [hscreen]
    exact hgone

theorem list_kept (h : ∀ rows ∈ nav.reportData, nav.AllStored .report rows)
    {manager : DataServiceManager} (hkept : Keeps nav.manager manager .report) (screen : Screen)
    : ∀ rows ∈ nav.reportData,
        AllStored { nav with manager := manager, screen := screen } .report rows :=
  fun rows hrows => (h rows hrows).of_kept hkept

theorem pushReportDetailsVC_live {rows : List Accessor} (hverdicts : nav.manager.verdicts = [])
    (hlist : ∀ rows ∈ nav.reportData, nav.AllStored .report rows)
    (hrows : nav.AllStored .report rows)
    : ∃ nav', nav.pushReportDetailsVC rows = .ok nav' ∧ Live nav' := by
  obtain ⟨details, hdetails, hreportDatas, hshots⟩ := setupDetails_ok hrows
  unfold pushReportDetailsVC
  rw [hdetails]
  refine ⟨_, rfl, hverdicts, hlist, ?_, hshots⟩
  rw [hreportDatas]
  exact hrows

theorem showShots_live {details : Held ReportDetailsViewController}
    {shots : Held ShotDetailsViewController} (hverdicts : nav.manager.verdicts = [])
    (hlist : ∀ rows ∈ nav.reportData, nav.AllStored .report rows)
    (hdetails : nav.AllStored .report details.reportDatas)
    (hshots : nav.AllStored .report shots.reportDatas)
    : ∃ nav', nav.showShots dateFormatter details shots = .ok nav' ∧ Live nav' := by
  obtain ⟨shots', hok, hreportDatas, hresult⟩ := setupShots_ok hshots dateFormatter shots.controller
  unfold showShots
  rw [hok]
  refine ⟨_, rfl, hverdicts, hlist, hdetails, ?_, hresult, by simp⟩
  rw [hreportDatas]
  exact hshots

theorem pushShotDetailsVC_live {details : Held ReportDetailsViewController} (now : Date)
    (hverdicts : nav.manager.verdicts = [])
    (hlist : ∀ rows ∈ nav.reportData, nav.AllStored .report rows)
    (hdetails : nav.AllStored .report details.reportDatas)
    : ∃ nav', nav.pushShotDetailsVC dateFormatter now details = .ok nav' ∧ Live nav' := by
  obtain ⟨reports, hreports⟩ := hdetails.reports
  obtain ⟨shots, hok, hreportDatas, hresult⟩ := setupShots_ok hdetails dateFormatter
    (ShotDetailsViewController.setupViews { reportDatas := reports } dateFormatter now)
  unfold pushShotDetailsVC
  rw [hreports]
  dsimp only [bind, Except.bind]
  rw [hok]
  refine ⟨_, rfl, hverdicts, hlist, hdetails, ?_, hresult, by simp⟩
  rw [hreportDatas]
  exact hdetails

theorem pushCreateNewShotVC_live {details : Held ReportDetailsViewController}
    {shots : Held ShotDetailsViewController} {row : Accessor} {shotResult : Option Accessor}
    (hverdicts : nav.manager.verdicts = [])
    (hlist : ∀ rows ∈ nav.reportData, nav.AllStored .report rows)
    (hdetails : nav.AllStored .report details.reportDatas)
    (hshots : nav.AllStored .report shots.reportDatas) (hrow : nav.Stored .report row)
    (hshot : ∀ row ∈ shotResult, nav.Stored .shot row)
    : ∃ nav', nav.pushCreateNewShotVC details shots row shotResult = .ok nav' ∧ Live nav' := by
  obtain ⟨report, hreport⟩ := hrow.report
  have hread : ∃ shot, shotResult.mapM nav.shot = .ok shot := by
    cases shotResult with
    | none => exact ⟨none, rfl⟩
    | some shotRow =>
      obtain ⟨shot, hok⟩ := (hshot shotRow rfl).shot
      refine ⟨some shot, ?_⟩
      simp [hok]
  obtain ⟨shot, hread⟩ := hread
  unfold pushCreateNewShotVC
  rw [hreport]
  dsimp only [bind, Except.bind]
  rw [hread]
  exact ⟨_, rfl, hverdicts, hlist, hdetails, hshots, hrow, hshot⟩

/-! ### One event -/

theorem btnAddNewWasTapped_becomes {manager : DataServiceManager} (h : manager.verdicts = [])
    (controller : ReportManagerViewController) {calendar : Calendar} {context : AddContext}
    (hnew : manager.realm.object .report context.uuidString = none)
    : DataServiceManager.Becomes manager
        (controller.btnAddNewWasTapped dateFormatter calendar context manager) fun T id =>
          if T = .report ∧ id = context.uuidString then
            some (.report (controller.newReport dateFormatter calendar context))
          else
            manager.realm.object T id := by
  have hid : (controller.newReport dateFormatter calendar context).id = context.uuidString :=
    controller.newReport_id context
  rw [← hid] at hnew ⊢
  exact DataServiceManager.addObject_becomes h hnew

theorem addNew_live {calendar : Calendar} {context : AddContext} (h : Live nav)
    (hnew : nav.manager.realm.object .report context.uuidString = none)
    : ∃ nav', nav.addNew dateFormatter calendar context = .ok nav' ∧ Live nav' := by
  obtain ⟨first, hfirst⟩ := mapM_ok (f := nav.reports) (l := nav.reportData.take 1)
    fun rows hrows => (h.list rows (List.mem_of_mem_take hrows)).reports
  have hbecomes := @btnAddNewWasTapped_becomes dateFormatter _ h.verdicts { reportData := first }
    calendar _ hnew
  unfold addNew
  rw [hfirst]
  dsimp only [bind, Except.bind]
  generalize hadded : ({ nav with
    manager := ReportManagerViewController.btnAddNewWasTapped { reportData := first } dateFormatter
      calendar context nav.manager } : Navigation) = added
  have hlist : ∀ rows ∈ added.reportData, added.AllStored .report rows := by
    subst hadded
    exact list_kept h.list (keeps_of_saved hbecomes .report) nav.screen
  have hrow : added.AllStored .report [⟨context.uuidString⟩] := by
    intro row hrow
    rw [List.mem_singleton.mp hrow]
    subst hadded
    unfold Stored
    rw [hbecomes.object]
    simp
  have hverdicts : added.manager.verdicts = [] := by
    subst hadded
    exact hbecomes.verdicts
  obtain ⟨nav', hok, hlive⟩ := pushReportDetailsVC_live hverdicts hlist hrow
  obtain ⟨sections, hreload⟩ := reloadData_ok hlive.list
  rw [hok]
  dsimp only
  rw [hreload]
  exact ⟨nav', rfl, hlive⟩

theorem deleteReport_live {row : Accessor} (h : Live nav)
    (hscreen : nav.screen = .list none) (hrow : nav.Stored .report row)
    : ∃ nav', nav.deleteReport dateFormatter row = .ok nav' ∧ Live nav' := by
  obtain ⟨data, hdata⟩ := hrow.report
  have hbecomes := DataServiceManager.deleteObject_becomes h.verdicts (.report data)
  unfold deleteReport
  rw [hdata]
  refine ⟨_, rfl, hbecomes.verdicts, setupList_stored _ dateFormatter, ?_⟩
  show HoldsStored _ nav.screen
  rw [hscreen]
  simp [HoldsStored]

theorem confirmInList_live {row : Accessor} (h : Live nav) (hrow : nav.Stored .report row)
    (uuidString title desc : String)
    : ∃ nav', nav.confirmInList row uuidString title desc = .ok nav' ∧ Live nav' := by
  obtain ⟨report, hreport⟩ := hrow.report
  have hbecomes := confirm_becomes h.verdicts report uuidString title desc
  have hlist := list_kept h.list (keeps_of_saved hbecomes .report) (.list none)
  have hreload : ∃ sections, reloadData { nav with
      manager := EditReportAlert.btnConfirmWasTapped report uuidString title desc nav.manager
      screen := .list none
    } = .ok sections :=
    reloadData_ok hlist
  obtain ⟨sections, hreload⟩ := hreload
  unfold confirmInList
  rw [hreport]
  dsimp only [bind, Except.bind]
  rw [hreload]
  refine ⟨_, rfl, hbecomes.verdicts, hlist, ?_⟩
  simp [HoldsStored]

theorem confirmInShots_live {details : Held ReportDetailsViewController}
    {shots : Held ShotDetailsViewController} {row : Accessor} (h : Live nav)
    (hdetails : nav.AllStored .report details.reportDatas)
    (hshots : nav.AllStored .report shots.reportDatas) (hrow : nav.Stored .report row)
    (uuidString title desc : String)
    : ∃ nav', nav.confirmInShots dateFormatter details shots row uuidString title desc = .ok nav'
        ∧ Live nav' := by
  obtain ⟨report, hreport⟩ := hrow.report
  have hbecomes := confirm_becomes h.verdicts report uuidString title desc
  have hkept := keeps_of_saved hbecomes .report
  unfold confirmInShots
  rw [hreport]
  exact showShots_live hbecomes.verdicts (list_kept h.list hkept nav.screen)
    (hdetails.of_kept hkept) (hshots.of_kept hkept)

theorem deleteShot_live {details : Held ReportDetailsViewController}
    {shots : Held ShotDetailsViewController} {row : Accessor} (h : Live nav)
    (hdetails : nav.AllStored .report details.reportDatas)
    (hshots : nav.AllStored .report shots.reportDatas) (hrow : nav.Stored .shot row)
    : ∃ nav', nav.deleteShot dateFormatter details shots row = .ok nav' ∧ Live nav' := by
  obtain ⟨shot, hshot⟩ := hrow.shot
  have hbecomes := deleteObject_shot_becomes h.verdicts shot
  have hkept : Keeps nav.manager (nav.manager.deleteObject (.shot shot)) .report := by
    intro id hid
    rw [hbecomes.object, if_neg (by simp)]
    exact hid
  unfold deleteShot
  rw [hshot]
  exact showShots_live hbecomes.verdicts (list_kept h.list hkept nav.screen)
    (hdetails.of_kept hkept) (hshots.of_kept hkept)

theorem submit_live {details : Held ReportDetailsViewController}
    {shots : Held ShotDetailsViewController} {editor : Editor} {context : SubmitContext}
    (h : Live nav) (hscreen : nav.screen = .editor details shots editor)
    (hnew : nav.manager.realm.object .shot context.uuidString = none)
    : ∃ nav', nav.submit dateFormatter details shots editor context = .ok nav' ∧ Live nav' := by
  obtain ⟨hdetails, hshots, hrow, hshot⟩ := (congrArg nav.HoldsStored hscreen).mp h.screen
  obtain ⟨report, hreport⟩ := hrow.report
  have hread : ∃ shot, editor.shotResult.mapM nav.shot = .ok shot := by
    cases hresult : editor.shotResult with
    | none => exact ⟨none, rfl⟩
    | some shotRow =>
      obtain ⟨shot, hok⟩ := (hshot shotRow hresult).shot
      exact ⟨some shot, by simp [hok]⟩
  obtain ⟨shot, hread⟩ := hread
  unfold submit
  split
  . exact ⟨nav, rfl, h⟩
  . rw [hreport]
    dsimp only [bind, Except.bind]
    rw [hread]
    have hkept := btnSubmitWasTapped_keeps h.verdicts
      { editor.controller with reportData := report, shotResult := shot } context hnew .report
    apply showShots_live
    . exact CreateNewShotViewController.btnSubmitWasTapped_verdicts h.verdicts context
    . exact list_kept h.list hkept nav.screen
    . exact hdetails.of_kept hkept
    . exact hshots.of_kept hkept

theorem scroll_ok (h : Live nav) : nav.scroll = .ok nav := by
  have hholds := h.screen
  unfold scroll
  cases hs : nav.screen with
  | list alert =>
    obtain ⟨sections, hreload⟩ := reloadData_ok h.list
    rw [hreload]
    rfl
  | details details =>
    rw [hs] at hholds
    obtain ⟨shots, hshots⟩ := hholds.2.shots
    dsimp only
    rw [hshots]
    rfl
  | shots details shots alert =>
    rw [hs] at hholds
    obtain ⟨reports, hreports⟩ := hholds.2.1.reports
    obtain ⟨results, hresults⟩ := hholds.2.2.1.shots
    dsimp only
    rw [hreports]
    dsimp only [bind, Except.bind]
    rw [hresults]
    rfl
  | editor details shots editor => rfl

theorem background_live {manager : DataServiceManager} (h : Live nav)
    (hbecomes : DataServiceManager.Becomes nav.manager manager nav.manager.realm.object)
    : Live { nav with manager } := by
  have hkept := keeps_of_same hbecomes
  refine ⟨hbecomes.verdicts, list_kept h.list (hkept .report) nav.screen, ?_⟩
  have hholds := h.screen
  show HoldsStored _ nav.screen
  cases hs : nav.screen with
  | list alert => trivial
  | details details =>
    rw [hs] at hholds
    exact ⟨hholds.1.of_kept (hkept .report), hholds.2.of_kept (hkept .shot)⟩
  | shots details shots alert =>
    rw [hs] at hholds
    obtain ⟨hdetails, hshots, hresult, halert⟩ := hholds
    refine ⟨hdetails.of_kept (hkept .report), hshots.of_kept (hkept .report),
      hresult.of_kept (hkept .shot), ?_⟩
    intro row hrow
    exact hkept .report row.primaryKey (halert row hrow)
  | editor details shots editor =>
    rw [hs] at hholds
    obtain ⟨hdetails, hshots, hreport, hshot⟩ := hholds
    refine ⟨hdetails.of_kept (hkept .report), hshots.of_kept (hkept .report),
      hkept .report _ hreport, ?_⟩
    intro row hrow
    exact hkept .shot row.primaryKey (hshot row hrow)

theorem restored_verdicts {manager : DataServiceManager} (h : manager.verdicts = [])
    (data : Kind → List DataServiceObject) : (restored manager data).verdicts = [] :=
  RealmDataService.restoreData_verdicts (RealmDataService.restoreData_verdicts h .report _) .shot _

theorem restore_live (h : Live nav) {alert : Option Accessor} (hscreen : nav.screen = .list alert)
    (data : Kind → List DataServiceObject) : Live (nav.restore dateFormatter data) where
  verdicts := restored_verdicts h.verdicts data
  list := setupList_stored _ dateFormatter
  screen := by
    show HoldsStored _ nav.screen
    rw [hscreen]
    trivial

theorem back_live (h : Live nav)
    : Live (setupList { nav with screen := .list none } dateFormatter) where
  verdicts := h.verdicts
  list := setupList_stored _ dateFormatter
  screen := trivial

theorem stored_of_row {row : Accessor} (h : Live nav) (hrow : ∃ rows ∈ nav.reportData, row ∈ rows)
    : nav.Stored .report row := by
  obtain ⟨rows, hrows, hmem⟩ := hrow
  exact h.list rows hrows row hmem

section Handle

variable {typeOf : String → Kind} {calendar : Calendar} {e : Event}
  {outcome : Except RLMException Navigation}

theorem Handled.live (h : Live nav) (hraises : ¬ Raises nav e)
    (hhandled : Handled typeOf dateFormatter calendar nav e outcome)
    : ∃ nav', outcome = .ok nav' ∧ Live nav' := by
  have hholds := h.screen
  cases hhandled with
  | background hback hmanager =>
    exact ⟨_, rfl, background_live h
      (DataServiceManager.background_becomes hback h.verdicts hmanager)⟩
  | addNew htype hnew => exact addNew_live h hnew
  | «open» hrows =>
    exact pushReportDetailsVC_live h.verdicts h.list
      fun row hrow => stored_of_row h (hrows row hrow)
  | deleteReport hscreen hrow => exact deleteReport_live h hscreen (stored_of_row h hrow)
  | editReport hscreen hrow =>
    obtain ⟨report, hreport⟩ := (stored_of_row h hrow).report
    rw [hreport]
    exact ⟨_, rfl, h.verdicts, h.list, trivial⟩
  | @confirmInList row _ _ _ hscreen =>
    have hstored : nav.Stored .report row := by
      by_contra hgone
      exact hraises (raises_iff.mpr ⟨row, _, _, _, rfl, hscreen, hgone⟩)
    exact confirmInList_live h hstored _ _ _
  | confirmInShots hscreen =>
    rw [hscreen] at hholds
    obtain ⟨hdetails, hshots, -, halert⟩ := hholds
    exact confirmInShots_live h hdetails hshots (halert _ rfl) _ _ _
  | cancelInList hscreen => exact ⟨_, rfl, h.verdicts, h.list, trivial⟩
  | cancelInShots hscreen =>
    rw [hscreen] at hholds
    obtain ⟨hdetails, hshots, hresult, -⟩ := hholds
    refine ⟨_, rfl, h.verdicts, h.list, hdetails, hshots, hresult, ?_⟩
    intro row hrow
    cases hrow
  | addShots hscreen =>
    rw [hscreen] at hholds
    exact pushShotDetailsVC_live _ h.verdicts h.list hholds.1
  | openEditor hscreen hrow hshot =>
    rw [hscreen] at hholds
    obtain ⟨hdetails, hshots, hresult, -⟩ := hholds
    exact pushCreateNewShotVC_live h.verdicts h.list hdetails hshots (hshots _ hrow)
      fun shot hmem => hresult shot (hshot shot hmem)
  | openAlert hscreen hrow =>
    rw [hscreen] at hholds
    obtain ⟨hdetails, hshots, hresult, -⟩ := hholds
    obtain ⟨report, hreport⟩ := (hshots _ hrow).report
    rw [hreport]
    refine ⟨_, rfl, h.verdicts, h.list, hdetails, hshots, hresult, ?_⟩
    intro row' hrow'
    cases hrow'
    exact hshots _ hrow
  | idle hscreen => exact ⟨nav, rfl, h⟩
  | deleteRow hscreen hshot =>
    rw [hscreen] at hholds
    obtain ⟨hdetails, hshots, hresult, -⟩ := hholds
    exact deleteShot_live h hdetails hshots (hresult _ hshot)
  | editor hscreen hcontroller =>
    rw [hscreen] at hholds
    exact ⟨_, rfl, h.verdicts, h.list, hholds⟩
  | submit hscreen htype hnew => exact submit_live h hscreen hnew
  | backToList hscreen => exact ⟨_, rfl, back_live h⟩
  | backToDetails hscreen =>
    rw [hscreen] at hholds
    exact pushReportDetailsVC_live h.verdicts h.list hholds.1
  | backToShots hscreen =>
    rw [hscreen] at hholds
    exact showShots_live h.verdicts h.list hholds.1 hholds.2.1
  | scroll => exact ⟨nav, scroll_ok h, h⟩
  | restore hscreen hdata => exact ⟨_, rfl, restore_live h hscreen _⟩

theorem handle_raises (hraises : Raises nav e)
    (hstep : nav.handle typeOf dateFormatter calendar e = some outcome)
    : outcome = .error .invalidated := by
  obtain ⟨row, uuidString, title, desc, rfl, hscreen, hgone⟩ := raises_iff.mp hraises
  simp only [handle, hscreen] at hstep
  cases hstep
  unfold confirmInList
  rw [report_of_not_stored hgone]
  rfl

/-! ### Whole runs -/

def launched (dateFormatter : DateFormatter) (manager : DataServiceManager) : Navigation :=
  setupList { manager, reportData := [], screen := .list none } dateFormatter

theorem launched_live {manager : DataServiceManager} (h : manager.verdicts = [])
    : Live (launched dateFormatter manager) where
  verdicts := h
  list := setupList_stored _ dateFormatter
  screen := trivial

theorem step_live {nav' : Navigation} (h : Live nav)
    (hstep : nav.handle typeOf dateFormatter calendar e = some (.ok nav')) : Live nav' := by
  by_cases hraises : Raises nav e
  . cases handle_raises hraises hstep
  . obtain ⟨nav'', hok, hlive⟩ := (handled hstep).live h hraises
    cases hok
    exact hlive

theorem run_live {manager : DataServiceManager} (h : manager.verdicts = []) {events : List Event}
    (hrun : (machine typeOf dateFormatter calendar).run (.ok (launched dateFormatter manager))
      events = some (.ok nav))
    : Live nav :=
  invariant (C := fun _ => True) (fun _ _ _ hlive _ hstep => step_live hlive hstep)
    (launched_live h) (fun _ _ => trivial) hrun

end Handle

def sampleCalendar : Calendar := ⟨fun _ => ⟨0, 0, 0⟩, fun _ => none⟩

end Navigation
