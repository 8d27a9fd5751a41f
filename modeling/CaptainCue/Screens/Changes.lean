import CaptainCue.Screens.Safety

/-!
This module contains what one event on the screens does to the manager, and that a run on the
screens is a run of the manager as far as the stored data and the outbox are concerned.
-/

namespace Navigation

open ReportManagerViewController (AddContext)

variable {nav nav' : Navigation} {dateFormatter : DateFormatter} {typeOf : String → Kind}
  {calendar : Calendar} {e : Event}

theorem bind_eq_ok {ε α β : Type} {x : Except ε α} {f : α → Except ε β} {b : β}
    : (x >>= f) = .ok b ↔ ∃ a, x = .ok a ∧ f a = .ok b := by
  cases x with
  | error exception => simp [bind, Except.bind]
  | ok a => simp [bind, Except.bind]

inductive Change (typeOf : String → Kind) (nav : Navigation)
    : Event → DataServiceManager → Prop where
  | same {e : Event} : Change typeOf nav e nav.manager
  | background {e : Event} {back : DataServiceManager.Event} {manager : DataServiceManager}
      (hback : back.IsBackground)
      (hstep : (DataServiceManager.machine typeOf).step nav.manager back = some manager)
      : Change typeOf nav e manager
  | addReport {e : Event} {report : ReportModel} (htype : typeOf report.id = .report)
      (hnew : nav.manager.realm.object .report report.id = none)
      : Change typeOf nav e (nav.manager.addObject (.report report))
  | editReport {e : Event} {report : ReportModel} (title desc : String)
      (hstored : nav.manager.realm.object .report report.id = some (.report report))
      : Change typeOf nav e (nav.manager.updateObject (.report { report with title, desc }))
  | deleteReport {e : Event} {report : ReportModel}
      (hstored : nav.manager.realm.object .report report.id = some (.report report))
      : Change typeOf nav e (nav.manager.deleteObject (.report report))
  | deleteShot {e : Event} {shot : ShotModel}
      (hstored : nav.manager.realm.object .shot shot.id = some (.shot shot))
      : Change typeOf nav e (nav.manager.deleteObject (.shot shot))
  | submit {e : Event} {details : Held ReportDetailsViewController}
      {shots : Held ShotDetailsViewController} {editor : Editor}
      (hscreen : nav.screen = .editor details shots editor) {report : ReportModel}
      {shot : Option ShotModel} {context : SubmitContext}
      (htype : typeOf context.uuidString = .shot)
      (hnew : nav.manager.realm.object .shot context.uuidString = none)
      (hball : editor.controller.lacksBall = false)
      (hreport : nav.manager.realm.object .report report.id = some (.report report))
      (hshot : ∀ stored ∈ shot, nav.manager.realm.object .shot stored.id = some (.shot stored))
      : Change typeOf nav e
          (CreateNewShotViewController.btnSubmitWasTapped
            { editor.controller with reportData := report, shotResult := shot } context nav.manager)
  | restore {data : Kind → List DataServiceObject} (hdata : Distinct data)
      : Change typeOf nav (.restore data) (restored nav.manager data)

/-! ### The handlers -/

theorem stored_of_report {row : Accessor} {report : ReportModel} (h : nav.report row = .ok report)
    : nav.manager.realm.object .report report.id = some (.report report) := by
  obtain ⟨hid, hobject⟩ := object_of_report h
  rw [hid]
  exact hobject

theorem stored_of_shot {row : Accessor} {shot : ShotModel} (h : nav.shot row = .ok shot)
    : nav.manager.realm.object .shot shot.id = some (.shot shot) := by
  obtain ⟨hid, hobject⟩ := object_of_shot h
  rw [hid]
  exact hobject

theorem stored_of_mapM_shot {row : Option Accessor} {shot : Option ShotModel}
    (h : row.mapM nav.shot = .ok shot)
    : ∀ stored ∈ shot, nav.manager.realm.object .shot stored.id = some (.shot stored) := by
  intro stored hstored
  cases row with
  | none =>
    cases h
    cases hstored
  | some row =>
    cases hread : nav.shot row with
    | error exception => simp [hread] at h
    | ok value =>
      simp only [Option.mapM_some, hread, Except.map_ok, Except.ok.injEq] at h
      subst h
      cases hstored
      exact stored_of_shot hread

theorem pushReportDetailsVC_manager {rows : List Accessor}
    (h : nav.pushReportDetailsVC rows = .ok nav') : nav'.manager = nav.manager := by
  obtain ⟨details, -, hpure⟩ := bind_eq_ok.mp h
  cases hpure
  rfl

theorem pushShotDetailsVC_manager {now : Date} {details : Held ReportDetailsViewController}
    (h : nav.pushShotDetailsVC dateFormatter now details = .ok nav')
    : nav'.manager = nav.manager := by
  obtain ⟨reports, -, hrest⟩ := bind_eq_ok.mp h
  obtain ⟨shots, -, hpure⟩ := bind_eq_ok.mp hrest
  cases hpure
  rfl

theorem pushCreateNewShotVC_manager {details : Held ReportDetailsViewController}
    {shots : Held ShotDetailsViewController} {row : Accessor} {shotResult : Option Accessor}
    (h : nav.pushCreateNewShotVC details shots row shotResult = .ok nav')
    : nav'.manager = nav.manager := by
  obtain ⟨report, -, hrest⟩ := bind_eq_ok.mp h
  obtain ⟨shot, -, hpure⟩ := bind_eq_ok.mp hrest
  cases hpure
  rfl

theorem showShots_manager {details : Held ReportDetailsViewController}
    {shots : Held ShotDetailsViewController}
    (h : nav.showShots dateFormatter details shots = .ok nav') : nav'.manager = nav.manager := by
  obtain ⟨shots', -, hpure⟩ := bind_eq_ok.mp h
  cases hpure
  rfl

theorem addNew_change {context : AddContext} (htype : typeOf context.uuidString = .report)
    (hnew : nav.manager.realm.object .report context.uuidString = none)
    (h : nav.addNew dateFormatter calendar context = .ok nav')
    : Change typeOf nav e nav'.manager := by
  obtain ⟨first, -, hrest⟩ := bind_eq_ok.mp h
  obtain ⟨pushed, hpush, hreload⟩ := bind_eq_ok.mp hrest
  obtain ⟨sections, -, hpure⟩ := bind_eq_ok.mp hreload
  cases hpure
  rw [pushReportDetailsVC_manager hpush]
  have hid := @ReportManagerViewController.newReport_id dateFormatter calendar
    { reportData := first } context
  rw [← hid] at htype hnew
  exact .addReport htype hnew

theorem confirmInList_change {row : Accessor} {uuidString title desc : String}
    (h : nav.confirmInList row uuidString title desc = .ok nav')
    : Change typeOf nav e nav'.manager := by
  obtain ⟨report, hreport, hrest⟩ := bind_eq_ok.mp h
  obtain ⟨sections, -, hpure⟩ := bind_eq_ok.mp hrest
  cases hpure
  exact .editReport title desc (stored_of_report hreport)

theorem confirmInShots_change {details : Held ReportDetailsViewController}
    {shots : Held ShotDetailsViewController} {row : Accessor} {uuidString title desc : String}
    (h : nav.confirmInShots dateFormatter details shots row uuidString title desc = .ok nav')
    : Change typeOf nav e nav'.manager := by
  obtain ⟨report, hreport, hrest⟩ := bind_eq_ok.mp h
  rw [showShots_manager hrest]
  exact .editReport title desc (stored_of_report hreport)

theorem deleteReport_change {row : Accessor} (h : nav.deleteReport dateFormatter row = .ok nav')
    : Change typeOf nav e nav'.manager := by
  obtain ⟨report, hreport, hpure⟩ := bind_eq_ok.mp h
  cases hpure
  exact .deleteReport (stored_of_report hreport)

theorem deleteShot_change {details : Held ReportDetailsViewController}
    {shots : Held ShotDetailsViewController} {row : Accessor}
    (h : nav.deleteShot dateFormatter details shots row = .ok nav')
    : Change typeOf nav e nav'.manager := by
  obtain ⟨shot, hshot, hrest⟩ := bind_eq_ok.mp h
  rw [showShots_manager hrest]
  exact .deleteShot (stored_of_shot hshot)

theorem submit_change {details : Held ReportDetailsViewController}
    {shots : Held ShotDetailsViewController} {editor : Editor} {context : SubmitContext}
    (hscreen : nav.screen = .editor details shots editor)
    (htype : typeOf context.uuidString = .shot)
    (hnew : nav.manager.realm.object .shot context.uuidString = none)
    (h : nav.submit dateFormatter details shots editor context = .ok nav')
    : Change typeOf nav e nav'.manager := by
  unfold submit at h
  split at h
  . cases h
    exact .same
  . next hball =>
    obtain ⟨report, hreport, hrest⟩ := bind_eq_ok.mp h
    obtain ⟨shot, hshot, hrest'⟩ := bind_eq_ok.mp hrest
    rw [showShots_manager hrest']
    exact .submit hscreen htype hnew (by simpa using hball) (stored_of_report hreport)
      (stored_of_mapM_shot hshot)

theorem scroll_eq (h : nav.scroll = .ok nav') : nav' = nav := by
  unfold scroll at h
  cases hs : nav.screen with
  | list alert =>
    rw [hs] at h
    obtain ⟨sections, -, hpure⟩ := bind_eq_ok.mp h
    cases hpure
    rfl
  | details details =>
    rw [hs] at h
    obtain ⟨shots, -, hpure⟩ := bind_eq_ok.mp h
    cases hpure
    rfl
  | shots details shots alert =>
    rw [hs] at h
    obtain ⟨reports, -, hrest⟩ := bind_eq_ok.mp h
    obtain ⟨results, -, hpure⟩ := bind_eq_ok.mp hrest
    cases hpure
    rfl
  | editor details shots editor =>
    rw [hs] at h
    cases h
    rfl

theorem map_eq_ok {ε α β : Type} {x : Except ε α} {f : α → β} {b : β}
    : x.map f = .ok b ↔ ∃ a, x = .ok a ∧ f a = b := by
  cases x with
  | error exception => simp [Except.map]
  | ok a => simp [Except.map]

theorem Handled.change (h : Handled typeOf dateFormatter calendar nav e (.ok nav'))
    : Change typeOf nav e nav'.manager := by
  generalize houtcome : Except.ok nav' = outcome at h
  symm at houtcome
  cases h with
  | background hback hmanager =>
    cases houtcome
    exact .background hback hmanager
  | addNew htype hnew => exact addNew_change htype hnew houtcome
  | «open» hrows =>
    rw [pushReportDetailsVC_manager houtcome]
    exact .same
  | deleteReport hscreen hrow => exact deleteReport_change houtcome
  | editReport hscreen hrow =>
    obtain ⟨report, -, rfl⟩ := map_eq_ok.mp houtcome
    exact .same
  | confirmInList hscreen => exact confirmInList_change houtcome
  | confirmInShots hscreen => exact confirmInShots_change houtcome
  | cancelInList hscreen =>
    cases houtcome
    exact .same
  | cancelInShots hscreen =>
    cases houtcome
    exact .same
  | addShots hscreen =>
    rw [pushShotDetailsVC_manager houtcome]
    exact .same
  | openEditor hscreen hrow hshot =>
    rw [pushCreateNewShotVC_manager houtcome]
    exact .same
  | openAlert hscreen hrow =>
    obtain ⟨report, -, rfl⟩ := map_eq_ok.mp houtcome
    exact .same
  | idle hscreen =>
    cases houtcome
    exact .same
  | deleteRow hscreen hshot => exact deleteShot_change houtcome
  | editor hscreen hcontroller =>
    cases houtcome
    exact .same
  | submit hscreen htype hnew => exact submit_change hscreen htype hnew houtcome
  | backToList hscreen =>
    cases houtcome
    exact .same
  | backToDetails hscreen =>
    rw [pushReportDetailsVC_manager houtcome]
    exact .same
  | backToShots hscreen =>
    rw [showShots_manager houtcome]
    exact .same
  | scroll =>
    rw [scroll_eq houtcome]
    exact .same
  | restore hscreen hdata =>
    cases houtcome
    exact .restore hdata

/-! ### The runs of the manager behind the screens -/

theorem Change.follows {manager : DataServiceManager} (h : Change typeOf nav e manager)
    (he : ∀ data, e ≠ .restore data)
    (hobject : ∀ T id data, nav.manager.realm.object T id = some data → typeOf id = T)
    : manager = nav.manager
        ∨ ∃ op, (DataServiceManager.machine typeOf).step nav.manager op = some manager := by
  cases h with
  | same => exact .inl rfl
  | background hback hstep => exact .inr ⟨_, hstep⟩
  | @addReport _ report htype hnew =>
    right
    refine ⟨.addObject (.report report), ?_⟩
    exact if_pos ⟨htype, hnew⟩
  | @editReport _ report title desc hstored =>
    right
    refine ⟨.updateObject (.report { report with title, desc }), ?_⟩
    exact if_pos (hobject .report report.id _ hstored)
  | @deleteReport _ report hstored =>
    right
    refine ⟨.deleteObject (.report report), ?_⟩
    exact if_pos hstored
  | @deleteShot _ shot hstored =>
    right
    refine ⟨.deleteObject (.shot shot), ?_⟩
    exact if_pos hstored
  | @submit _ details shots editor hscreen report shot context htype hnew hball hreport hshot =>
    obtain hsame | ⟨new, hadd, hid⟩ | ⟨stored, new, hupdate, hid, hstored⟩ :=
      btnSubmitWasTapped_cases
        { editor.controller with reportData := report, shotResult := shot } context nav.manager
    . exact .inl hsame
    . right
      refine ⟨.addObject (.shot new), ?_⟩
      rw [hadd]
      rw [← hid] at htype hnew
      exact if_pos ⟨htype, hnew⟩
    . right
      refine ⟨.updateObject (.shot new), ?_⟩
      rw [hupdate]
      have htype := hobject .shot stored.id _ (hshot stored hstored)
      rw [← hid] at htype
      exact if_pos htype
  | restore hdata => exact absurd rfl (he _)

theorem run_error {exception : RLMException} {events : List Event}
    {outcome : Except RLMException Navigation}
    (hrun : (machine typeOf dateFormatter calendar).run (.error exception) events = some outcome)
    : outcome = .error exception := by
  cases events with
  | nil =>
    cases hrun
    rfl
  | cons e events => cases hrun

theorem run_follows {events : List Event} (hno : ∀ data, Event.restore data ∉ events)
    (h : DataServiceManager.Healthy typeOf nav.manager)
    (hrun : (machine typeOf dateFormatter calendar).run (.ok nav) events = some (.ok nav'))
    : ∃ ops, ops.length ≤ events.length
        ∧ (DataServiceManager.machine typeOf).run nav.manager ops = some nav'.manager := by
  induction events generalizing nav with
  | nil =>
    cases hrun
    exact ⟨[], le_rfl, rfl⟩
  | cons e events ih =>
    obtain ⟨outcome, hstep, hrest⟩ := Machine.run_cons_eq_some.mp hrun
    cases outcome with
    | error exception => cases run_error hrest
    | ok mid =>
      have he : ∀ data, e ≠ .restore data := by
        rintro data rfl
        exact hno data List.mem_cons_self
      have hrest' : ∀ data, Event.restore data ∉ events :=
        fun data hmem => hno data (List.mem_cons_of_mem e hmem)
      cases (handled hstep).change.follows he h.object with
      | inl hsame =>
        rw [← hsame] at h
        obtain ⟨ops, hlength, hops⟩ := ih hrest' h hrest
        rw [hsame] at hops
        exact ⟨ops, hlength.trans (Nat.le_succ events.length), hops⟩
      | inr hop =>
        obtain ⟨op, hop⟩ := hop
        have hmid := (DataServiceManager.step_simulates nav.manager.elsewhere nav.manager op
          mid.manager h hop).1
        obtain ⟨ops, hlength, hops⟩ := ih hrest' hmid hrest
        refine ⟨op :: ops, Nat.succ_le_succ hlength, ?_⟩
        exact Machine.run_cons_eq_some.mpr ⟨mid.manager, hop, hops⟩

theorem exists_of_any {result : Option (Except RLMException Navigation)} {p : Navigation → Bool}
    (h : (result.any fun outcome => outcome.toOption.any p) = true)
    : ∃ nav, result = some (.ok nav) ∧ p nav = true := by
  obtain ⟨outcome, rfl, hany⟩ := (Option.any_eq_true _ _).mp h
  obtain ⟨nav, hnav, hp⟩ := (Option.any_eq_true _ _).mp hany
  cases outcome with
  | error exception => cases hnav
  | ok nav' =>
    cases hnav
    exact ⟨nav, rfl, hp⟩

open ReportManagerViewController (daysFormatter)

def sampleTaps : List Event :=
  [.addNew ⟨0, 0, 0, 0, 0, "r"⟩, .background .applied, .background (.completion 0), .back]

end Navigation
