import CaptainCue.Manager.Cascade
import CaptainCue.Screens.Changes

/-!
This module contains what the stored shots satisfy whatever the user does on the screens: every shot
belongs to a stored report, and the shot editor can show it.
-/

namespace Navigation

open CreateNewShotViewController (Consistent submitted)

variable {nav nav' : Navigation} {dateFormatter : DateFormatter} {typeOf : String → Kind}
  {calendar : Calendar} {e : Event}

/-! ### The stored shots -/

structure Integral (manager : DataServiceManager) : Prop where
  report : ∀ id shot, manager.realm.object .shot id = some (.shot shot) →
    manager.realm.object .report shot.reportID ≠ none
  wellFormed : ∀ id shot, manager.realm.object .shot id = some (.shot shot) → shot.WellFormed

def Closed (data : Kind → List DataServiceObject) : Prop :=
  -- the shots have their reports beside them, and the editor can show them
  ∀ shot : ShotModel, .shot shot ∈ data .shot →
    shot.WellFormed
      ∧ ∃ report : ReportModel, .report report ∈ data .report ∧ report.id = shot.reportID

theorem Integral.of_kept {manager manager' : DataServiceManager} (h : Integral manager)
    (hshots : ∀ id shot, manager'.realm.object .shot id = some (.shot shot) →
      manager.realm.object .shot id = some (.shot shot))
    (hreports : Keeps manager manager' .report) : Integral manager' where
  report := by
    intro id shot hshot
    exact hreports shot.reportID (h.report id shot (hshots id shot hshot))
  wellFormed := by
    intro id shot hshot
    exact h.wellFormed id shot (hshots id shot hshot)

theorem Integral.of_same {manager manager' : DataServiceManager} (h : Integral manager)
    (hsame : DataServiceManager.Becomes manager manager' manager.realm.object)
    : Integral manager' := by
  apply h.of_kept
  . intro id shot hshot
    rw [hsame.object] at hshot
    exact hshot
  . exact keeps_of_same hsame .report

theorem Integral.of_saved_report {manager manager' : DataServiceManager} (h : Integral manager)
    {report : ReportModel}
    (hsaved : DataServiceManager.Becomes manager manager' fun T id =>
      if T = (DataServiceObject.report report).kind ∧ id = (DataServiceObject.report report).id then
        some (.report report)
      else
        manager.realm.object T id) : Integral manager' := by
  apply h.of_kept
  . intro id shot hshot
    rw [hsaved.object, if_neg (by simp [DataServiceObject.kind])] at hshot
    exact hshot
  . exact keeps_of_saved hsaved .report

theorem Integral.of_saved_shot {manager manager' : DataServiceManager} (h : Integral manager)
    {shot : ShotModel} (hshot : shot.WellFormed)
    (hreport : manager.realm.object .report shot.reportID ≠ none)
    (hsaved : ∀ T id, manager'.realm.object T id
      = if T = .shot ∧ id = shot.id then some (.shot shot) else manager.realm.object T id)
    : Integral manager' := by
  have hreports : Keeps manager manager' .report := by
    intro id hid
    rw [hsaved, if_neg (by simp)]
    exact hid
  constructor
  . intro id shot' hshot'
    rw [hsaved] at hshot'
    split at hshot'
    . cases hshot'
      exact hreports _ hreport
    . exact hreports _ (h.report id shot' hshot')
  . intro id shot' hshot'
    rw [hsaved] at hshot'
    split at hshot'
    . cases hshot'
      exact hshot
    . exact h.wellFormed id shot' hshot'

theorem Integral.of_deleted_shot {manager : DataServiceManager} (h : Integral manager)
    (hverdicts : manager.verdicts = []) (shot : ShotModel)
    : Integral (manager.deleteObject (.shot shot)) := by
  have hdeleted := deleteObject_shot_becomes hverdicts shot
  apply h.of_kept
  . intro id shot' hshot'
    rw [hdeleted.object] at hshot'
    split at hshot'
    . cases hshot'
    . exact hshot'
  . intro id hid
    rw [hdeleted.object, if_neg (by simp)]
    exact hid

theorem Integral.of_deleted_report {manager : DataServiceManager} (h : Integral manager)
    (hverdicts : manager.verdicts = []) (report : ReportModel)
    : Integral (manager.deleteObject (.report report)) := by
  have hdeleted := DataServiceManager.deleteObject_becomes hverdicts (.report report)
  have hkept : ∀ id shot,
      (manager.deleteObject (.report report)).realm.object .shot id = some (.shot shot) →
        manager.realm.object .shot id = some (.shot shot) ∧ shot.reportID ≠ report.id := by
    intro id shot hshot
    rw [hdeleted.object] at hshot
    split at hshot
    . cases hshot
    . next hcascade =>
      refine ⟨hshot, ?_⟩
      -- the shots of the report go with it
      intro hreport
      have hid : shot.id = id := (Realm.kind_of_object hshot).2
      refine hcascade ⟨.shot shot, DataServiceManager.mem_cascade.mpr (.inr ⟨?_, ?_⟩), ?_⟩
      . exact ⟨report, shot, rfl, rfl, hreport⟩
      . show manager.realm.object .shot shot.id = _
        rw [hid]
        exact hshot
      . show (Kind.shot, id) = (.shot, shot.id)
        rw [hid]
  constructor
  . intro id shot hshot
    obtain ⟨hstored, hne⟩ := hkept id shot hshot
    rw [hdeleted.object, if_neg]
    . exact h.report id shot hstored
    . rintro ⟨item, hitem, heq⟩
      obtain rfl | ⟨⟨_, _, -, rfl, -⟩, -⟩ := DataServiceManager.mem_cascade.mp hitem
      . exact hne (congrArg Prod.snd heq)
      . cases congrArg Prod.fst heq
  . intro id shot hshot
    exact h.wellFormed id shot (hkept id shot hshot).1

theorem restored_object {manager : DataServiceManager} (hverdicts : manager.verdicts = [])
    {data : Kind → List DataServiceObject} (hdata : Distinct data) (T : Kind) (id : String)
    : (restored manager data).realm.object T id = (data T).find? fun item => item.id = id := by
  have hreports := RealmDataService.restoreData_verdicts hverdicts .report (data .report)
  have hshots := RealmDataService.restoreData_object hreports (hdata .shot).1 T id
  refine Eq.trans hshots ?_
  rw [RealmDataService.restoreData_object hverdicts (hdata .report).1]
  cases T <;> rfl

theorem Closed.restored {manager : DataServiceManager} {data : Kind → List DataServiceObject}
    (hclosed : Closed data) (hverdicts : manager.verdicts = []) (hdata : Distinct data)
    : Integral (restored manager data) := by
  have hshots : ∀ id shot,
      (Navigation.restored manager data).realm.object .shot id = some (.shot shot) →
        .shot shot ∈ data .shot := by
    intro id shot hshot
    rw [restored_object hverdicts hdata] at hshot
    exact List.mem_of_find?_eq_some hshot
  constructor
  . intro id shot hshot
    obtain ⟨-, report, hreport, hid⟩ := hclosed shot (hshots id shot hshot)
    rw [restored_object hverdicts hdata]
    intro hnone
    have hne := List.find?_eq_none.mp hnone (.report report) hreport
    exact hne (decide_eq_true hid)
  . intro id shot hshot
    exact (hclosed shot (hshots id shot hshot)).1

/-! ### The editor on the screen -/

def Editing (screen : Screen) : Prop :=
  -- if the editor is shown, what it shows can be submitted
  match screen with
  | .editor _ _ editor => Consistent editor.controller
  | _ => True

theorem pushReportDetailsVC_editing {rows : List Accessor}
    (h : nav.pushReportDetailsVC rows = .ok nav') : Editing nav'.screen := by
  obtain ⟨details, -, hpure⟩ := bind_eq_ok.mp h
  cases hpure
  trivial

theorem pushShotDetailsVC_editing {now : Date} {details : Held ReportDetailsViewController}
    (h : nav.pushShotDetailsVC dateFormatter now details = .ok nav') : Editing nav'.screen := by
  obtain ⟨reports, -, hrest⟩ := bind_eq_ok.mp h
  obtain ⟨shots, -, hpure⟩ := bind_eq_ok.mp hrest
  cases hpure
  trivial

theorem showShots_editing {details : Held ReportDetailsViewController}
    {shots : Held ShotDetailsViewController}
    (h : nav.showShots dateFormatter details shots = .ok nav') : Editing nav'.screen := by
  obtain ⟨shots', -, hpure⟩ := bind_eq_ok.mp h
  cases hpure
  trivial

theorem pushCreateNewShotVC_editing {details : Held ReportDetailsViewController}
    {shots : Held ShotDetailsViewController} {row : Accessor} {shotResult : Option Accessor}
    (hintegral : Integral nav.manager)
    (h : nav.pushCreateNewShotVC details shots row shotResult = .ok nav')
    : Editing nav'.screen := by
  obtain ⟨report, -, hrest⟩ := bind_eq_ok.mp h
  obtain ⟨shot, hshot, hpure⟩ := bind_eq_ok.mp hrest
  cases hpure
  apply CreateNewShotViewController.viewDidLoad_consistent
  intro stored hstored
  cases hstored
  exact hintegral.wellFormed _ _ (stored_of_mapM_shot hshot stored rfl)

theorem addNew_editing {context : ReportManagerViewController.AddContext}
    (h : nav.addNew dateFormatter calendar context = .ok nav') : Editing nav'.screen := by
  obtain ⟨first, -, hrest⟩ := bind_eq_ok.mp h
  obtain ⟨pushed, hpush, hreload⟩ := bind_eq_ok.mp hrest
  obtain ⟨sections, -, hpure⟩ := bind_eq_ok.mp hreload
  cases hpure
  exact pushReportDetailsVC_editing hpush

theorem submit_editing {details : Held ReportDetailsViewController}
    {shots : Held ShotDetailsViewController} {editor : Editor} {context : SubmitContext}
    (hediting : Editing nav.screen)
    (h : nav.submit dateFormatter details shots editor context = .ok nav')
    : Editing nav'.screen := by
  unfold submit at h
  split at h
  . cases h
    exact hediting
  . obtain ⟨report, -, hrest⟩ := bind_eq_ok.mp h
    obtain ⟨shot, -, hrest'⟩ := bind_eq_ok.mp hrest
    exact showShots_editing hrest'

theorem Handled.editing (hintegral : Integral nav.manager) (hediting : Editing nav.screen)
    (h : Handled typeOf dateFormatter calendar nav e (.ok nav')) : Editing nav'.screen := by
  generalize houtcome : Except.ok nav' = outcome at h
  symm at houtcome
  cases h with
  | background hback hmanager =>
    cases houtcome
    exact hediting
  | addNew htype hnew => exact addNew_editing houtcome
  | «open» hrows => exact pushReportDetailsVC_editing houtcome
  | deleteReport hscreen hrow =>
    obtain ⟨report, -, hpure⟩ := bind_eq_ok.mp houtcome
    cases hpure
    exact hediting
  | editReport hscreen hrow =>
    obtain ⟨report, -, rfl⟩ := map_eq_ok.mp houtcome
    trivial
  | confirmInList hscreen =>
    obtain ⟨report, -, hrest⟩ := bind_eq_ok.mp houtcome
    obtain ⟨sections, -, hpure⟩ := bind_eq_ok.mp hrest
    cases hpure
    trivial
  | confirmInShots hscreen =>
    obtain ⟨report, -, hrest⟩ := bind_eq_ok.mp houtcome
    exact showShots_editing hrest
  | cancelInList hscreen =>
    cases houtcome
    trivial
  | cancelInShots hscreen =>
    cases houtcome
    trivial
  | addShots hscreen => exact pushShotDetailsVC_editing houtcome
  | openEditor hscreen hrow hshot => exact pushCreateNewShotVC_editing hintegral houtcome
  | openAlert hscreen hrow =>
    obtain ⟨report, -, rfl⟩ := map_eq_ok.mp houtcome
    trivial
  | idle hscreen =>
    cases houtcome
    exact hediting
  | deleteRow hscreen hshot =>
    obtain ⟨data, -, hrest⟩ := bind_eq_ok.mp houtcome
    exact showShots_editing hrest
  | editor hscreen hcontroller =>
    cases houtcome
    rw [hscreen] at hediting
    exact (CreateNewShotViewController.step_follows hediting hcontroller).1
  | submit hscreen htype hnew => exact submit_editing hediting houtcome
  | backToList hscreen =>
    cases houtcome
    trivial
  | backToDetails hscreen => exact pushReportDetailsVC_editing houtcome
  | backToShots hscreen => exact showShots_editing houtcome
  | scroll =>
    rw [scroll_eq houtcome]
    exact hediting
  | restore hscreen hdata =>
    cases houtcome
    exact hediting

/-! ### Whole runs -/

theorem Change.integral {manager : DataServiceManager} (hverdicts : nav.manager.verdicts = [])
    (hintegral : Integral nav.manager) (hediting : Editing nav.screen)
    (hclosed : ∀ data, e = .restore data → Closed data) (h : Change typeOf nav e manager)
    : Integral manager := by
  cases h with
  | same => exact hintegral
  | background hback hstep =>
    exact hintegral.of_same (DataServiceManager.background_becomes hback hverdicts hstep)
  | addReport htype hnew =>
    exact hintegral.of_saved_report (DataServiceManager.addObject_becomes hverdicts hnew)
  | editReport title desc hstored =>
    exact hintegral.of_saved_report (DataServiceManager.updateObject_becomes hverdicts _)
  | deleteReport hstored => exact hintegral.of_deleted_report hverdicts _
  | deleteShot hstored => exact hintegral.of_deleted_shot hverdicts _
  | @submit _ details shots editor hscreen report shot context htype hnew hball hreport hshot =>
    rw [hscreen] at hediting
    have hconsistent : Consistent
        { editor.controller with reportData := report, shotResult := shot } :=
      ⟨hediting.ball, hediting.disabled, hediting.result, hediting.selected, hediting.rows⟩
    apply hintegral.of_saved_shot (CreateNewShotViewController.submitted_wellFormed context
      hconsistent hball)
    . cases shot with
      | none =>
        show nav.manager.realm.object .report report.id ≠ none
        rw [hreport]
        simp
      | some stored => exact hintegral.report stored.id stored (hshot stored rfl)
    . apply CreateNewShotViewController.btnSubmitWasTapped_object hverdicts hconsistent _ hball
      cases shot with
      | none => exact hnew
      | some stored => exact hshot stored rfl
  | restore hdata => exact (hclosed _ rfl).restored hverdicts hdata

structure Sound (nav : Navigation) : Prop where
  live : Live nav
  integral : Integral nav.manager
  editing : Editing nav.screen

theorem step_sound {nav' : Navigation} (h : Sound nav)
    (hclosed : ∀ data, e = .restore data → Closed data)
    (hstep : nav.handle typeOf dateFormatter calendar e = some (.ok nav')) : Sound nav' := by
  have hlive := step_live h.live hstep
  obtain ⟨hbefore, hintegral, hediting⟩ := h
  have hhandled := handled hstep
  exact ⟨hlive, hhandled.change.integral hbefore.verdicts hintegral hediting hclosed,
    hhandled.editing hintegral hediting⟩

/--
Whatever the user does, each stored shot belongs to a stored report and can be shown by the editor,
as long as the restored data is closed.
-/
theorem run_integral {manager : DataServiceManager} (hverdicts : manager.verdicts = [])
    (hintegral : Integral manager) {events : List Event}
    (hclosed : ∀ data, Event.restore data ∈ events → Closed data)
    (hrun : (machine typeOf dateFormatter calendar).run (.ok (launched dateFormatter manager))
      events = some (.ok nav))
    : ∀ (id : String) (shot : ShotModel), nav.manager.realm.object .shot id = some (.shot shot) →
        shot.WellFormed
          ∧ ∃ report : ReportModel,
              nav.manager.realm.object .report shot.reportID = some (.report report) := by
  have hsound : Sound nav := by
    refine invariant (C := fun e => ∀ data, e = .restore data → Closed data)
      (fun _ _ _ h hclosed hstep => step_sound h hclosed hstep)
      ⟨launched_live hverdicts, hintegral, trivial⟩ ?_ hrun
    intro e he data hdata
    subst hdata
    exact hclosed data he
  intro id shot hshot
  refine ⟨hsound.integral.wellFormed id shot hshot, ?_⟩
  obtain ⟨data, hdata⟩ := Option.ne_none_iff_exists'.mp (hsound.integral.report id shot hshot)
  obtain ⟨report, -, rfl⟩ := Option.map_eq_some_iff.mp hdata
  exact ⟨report, hdata⟩

open ReportManagerViewController (daysFormatter)
open ShotDetailsViewController (sampleStart)

def sampleTypeOf (id : String) : Kind := if id = "r" then .report else .shot

def sampleVisit : List Event :=
  [.openReport 0 0, .addShots 200, .newShot, .editor (.item 2), .editor (.row 3),
    .submit ⟨"s", 300⟩, .back, .back]

theorem sampleStart_integral : Integral sampleStart where
  report := by
    intro id shot hshot
    cases hshot
  wellFormed := by
    intro id shot hshot
    cases hshot

theorem run_integral_one_shot
    : ∃ nav,
        (machine sampleTypeOf daysFormatter sampleCalendar).run
            (.ok (launched daysFormatter sampleStart)) sampleVisit = some (.ok nav)
          ∧ (nav.manager.realm.object .shot "s").isSome
          ∧ ∀ (id : String) (shot : ShotModel),
              nav.manager.realm.object .shot id = some (.shot shot) →
                shot.WellFormed
                  ∧ ∃ report : ReportModel,
                      nav.manager.realm.object .report shot.reportID = some (.report report) := by
  obtain ⟨nav, hrun, hshot⟩ := exists_of_any
    (p := fun nav => (nav.manager.realm.object .shot "s").isSome) (show (Option.any _
      ((machine sampleTypeOf daysFormatter sampleCalendar).run
        (.ok (launched daysFormatter sampleStart)) sampleVisit)) = true by
          decide +kernel)
  exact ⟨nav, hrun, hshot, run_integral rfl sampleStart_integral (by simp [sampleVisit]) hrun⟩

end Navigation
