import CaptainCue.Screens.Integrity

/-!
This module contains the `EditReportAlert` over the list. It is the one thing on the screens that
can raise: the restore alert may come up above it, and what is restored need not have its report.
-/

namespace Navigation

variable {typeOf : String → Kind} {dateFormatter : DateFormatter} {calendar : Calendar}
  {nav nav' : Navigation} {e : Event} {row : Accessor}

def Event.KeepsAlert : Event → Prop
  | .background _ => True
  | .scroll => True
  | _ => False

/-! ### The screens without the alert -/

theorem pushReportDetailsVC_screen {rows : List Accessor}
    (h : nav.pushReportDetailsVC rows = .ok nav') : nav'.screen ≠ .list (some row) := by
  obtain ⟨details, -, hpure⟩ := bind_eq_ok.mp h
  cases hpure
  simp

theorem pushShotDetailsVC_screen {now : Date} {details : Held ReportDetailsViewController}
    (h : nav.pushShotDetailsVC dateFormatter now details = .ok nav')
    : nav'.screen ≠ .list (some row) := by
  obtain ⟨reports, -, hrest⟩ := bind_eq_ok.mp h
  obtain ⟨shots, -, hpure⟩ := bind_eq_ok.mp hrest
  cases hpure
  simp

theorem pushCreateNewShotVC_screen {details : Held ReportDetailsViewController}
    {shots : Held ShotDetailsViewController} {reportData : Accessor} {shotResult : Option Accessor}
    (h : nav.pushCreateNewShotVC details shots reportData shotResult = .ok nav')
    : nav'.screen ≠ .list (some row) := by
  obtain ⟨report, -, hrest⟩ := bind_eq_ok.mp h
  obtain ⟨shot, -, hpure⟩ := bind_eq_ok.mp hrest
  cases hpure
  simp

theorem showShots_screen {details : Held ReportDetailsViewController}
    {shots : Held ShotDetailsViewController}
    (h : nav.showShots dateFormatter details shots = .ok nav')
    : nav'.screen ≠ .list (some row) := by
  obtain ⟨shots', -, hpure⟩ := bind_eq_ok.mp h
  cases hpure
  simp

theorem addNew_screen {context : ReportManagerViewController.AddContext}
    (h : nav.addNew dateFormatter calendar context = .ok nav')
    : nav'.screen ≠ .list (some row) := by
  obtain ⟨first, -, hrest⟩ := bind_eq_ok.mp h
  obtain ⟨pushed, hpush, hreload⟩ := bind_eq_ok.mp hrest
  obtain ⟨sections, -, hpure⟩ := bind_eq_ok.mp hreload
  cases hpure
  exact pushReportDetailsVC_screen hpush

theorem submit_screen {details : Held ReportDetailsViewController}
    {shots : Held ShotDetailsViewController} {editor : Editor} {context : SubmitContext}
    (hscreen : nav.screen = .editor details shots editor)
    (h : nav.submit dateFormatter details shots editor context = .ok nav')
    : nav'.screen ≠ .list (some row) := by
  unfold submit at h
  split at h
  . cases h
    rw [hscreen]
    simp
  . obtain ⟨report, -, hrest⟩ := bind_eq_ok.mp h
    obtain ⟨shot, -, hrest'⟩ := bind_eq_ok.mp hrest
    exact showShots_screen hrest'

/-! ### One event -/

/--
If the alert shows a report that is not stored, then it did so before the event, or the event is the
restore that has dropped the report.
-/
theorem Handled.alert (hverdicts : nav.manager.verdicts = [])
    (hscreen' : nav'.screen = .list (some row)) (hgone : ¬ nav'.Stored .report row)
    (h : Handled typeOf dateFormatter calendar nav e (.ok nav'))
    : nav.screen = .list (some row)
        ∧ ((e.KeepsAlert ∧ ¬ nav.Stored .report row)
          ∨ ∃ data, e = .restore data ∧ Distinct data ∧ nav' = nav.restore dateFormatter data) := by
  generalize houtcome : Except.ok nav' = outcome at h
  symm at houtcome
  cases h with
  | background hback hmanager =>
    cases houtcome
    have hbecomes := DataServiceManager.background_becomes hback hverdicts hmanager
    exact ⟨hscreen', .inl ⟨trivial, mt (keeps_of_same hbecomes .report row.primaryKey) hgone⟩⟩
  | addNew htype hnew => exact absurd hscreen' (addNew_screen houtcome)
  | «open» hrows => exact absurd hscreen' (pushReportDetailsVC_screen houtcome)
  | deleteReport hscreen hrow =>
    obtain ⟨report, -, hpure⟩ := bind_eq_ok.mp houtcome
    cases hpure
    cases hscreen.symm.trans hscreen'
  | editReport hscreen hrow =>
    -- the alert opens with what has just been read
    obtain ⟨report, hreport, rfl⟩ := map_eq_ok.mp houtcome
    cases hscreen'
    have herror : nav.report row = .error .invalidated := report_of_not_stored hgone
    rw [hreport] at herror
    cases herror
  | confirmInList hscreen =>
    obtain ⟨report, -, hrest⟩ := bind_eq_ok.mp houtcome
    obtain ⟨sections, -, hpure⟩ := bind_eq_ok.mp hrest
    cases hpure
    cases hscreen'
  | confirmInShots hscreen =>
    obtain ⟨report, -, hrest⟩ := bind_eq_ok.mp houtcome
    exact absurd hscreen' (showShots_screen hrest)
  | cancelInList hscreen =>
    cases houtcome
    cases hscreen'
  | cancelInShots hscreen =>
    cases houtcome
    cases hscreen'
  | addShots hscreen => exact absurd hscreen' (pushShotDetailsVC_screen houtcome)
  | openEditor hscreen hrow hshot => exact absurd hscreen' (pushCreateNewShotVC_screen houtcome)
  | openAlert hscreen hrow =>
    obtain ⟨report, -, rfl⟩ := map_eq_ok.mp houtcome
    cases hscreen'
  | idle hscreen =>
    cases houtcome
    cases hscreen.symm.trans hscreen'
  | deleteRow hscreen hshot =>
    obtain ⟨data, -, hrest⟩ := bind_eq_ok.mp houtcome
    exact absurd hscreen' (showShots_screen hrest)
  | editor hscreen hcontroller =>
    cases houtcome
    cases hscreen'
  | submit hscreen htype hnew => exact absurd hscreen' (submit_screen hscreen houtcome)
  | backToList hscreen =>
    cases houtcome
    cases hscreen'
  | backToDetails hscreen => exact absurd hscreen' (pushReportDetailsVC_screen houtcome)
  | backToShots hscreen => exact absurd hscreen' (showShots_screen houtcome)
  | scroll =>
    rw [scroll_eq houtcome] at hscreen' hgone
    exact ⟨hscreen', .inl ⟨trivial, hgone⟩⟩
  | @restore data alert hscreen hdata =>
    cases houtcome
    exact ⟨hscreen', .inr ⟨data, rfl, hdata, rfl⟩⟩

/-! ### Whole runs -/

section Runs

variable (typeOf dateFormatter calendar)

/--
While the alert shows the report of `row`, a restore has not brought that report back, and the
events after it leave the alert where it is.
-/
def Orphaned (start : Navigation) (row : Accessor) (events : List Event) : Prop :=
  ∃ before data between nav, events = before ++ .restore data :: between
    ∧ (machine typeOf dateFormatter calendar).run (.ok start) before = some (.ok nav)
    ∧ nav.screen = .list (some row)
    ∧ (∀ item ∈ data .report, item.id ≠ row.primaryKey)
    ∧ ∀ e ∈ between, e.KeepsAlert

end Runs

theorem restored_stored_iff (hverdicts : nav.manager.verdicts = [])
    {data : Kind → List DataServiceObject} (hdata : Distinct data)
    : (nav.restore dateFormatter data).Stored .report row
        ↔ ∃ item ∈ data .report, item.id = row.primaryKey := by
  have hobject := restored_object hverdicts hdata .report row.primaryKey
  show (restored nav.manager data).realm.object .report row.primaryKey ≠ none ↔ _
  rw [hobject]
  simp

theorem Orphaned.of_run {manager : DataServiceManager} (hverdicts : manager.verdicts = [])
    {events : List Event}
    (hrun : (machine typeOf dateFormatter calendar).run (.ok (launched dateFormatter manager))
      events = some (.ok nav))
    (hscreen : nav.screen = .list (some row)) (hgone : ¬ nav.Stored .report row)
    : Orphaned typeOf dateFormatter calendar (launched dateFormatter manager) row events := by
  induction events using List.reverseRecOn generalizing nav with
  | nil =>
    cases hrun
    cases hscreen
  | append_singleton events e ih =>
    obtain ⟨outcome, hevents, hlast⟩ := Machine.run_append_eq_some.mp hrun
    obtain ⟨final, hstep, hnil⟩ := Machine.run_cons_eq_some.mp hlast
    cases hnil
    cases outcome with
    | error exception => cases hstep
    | ok mid =>
      have hlive := run_live hverdicts hevents
      obtain ⟨hmid, hcases⟩ := (handled hstep).alert hlive.verdicts hscreen hgone
      cases hcases with
      | inl hkept =>
        obtain ⟨before, data, between, shown, rfl, hbefore, hshown, hlacks, hbetween⟩ :=
          ih hevents hmid hkept.2
        refine ⟨before, data, between ++ [e], shown, by simp, hbefore, hshown, hlacks, ?_⟩
        intro e' he'
        cases List.mem_append.mp he' with
        | inl hmem => exact hbetween e' hmem
        | inr hmem =>
          rw [List.mem_singleton.mp hmem]
          exact hkept.1
      | inr hrestore =>
        obtain ⟨data, rfl, hdata, rfl⟩ := hrestore
        refine ⟨events, data, [], mid, rfl, hevents, hmid, ?_, by simp⟩
        intro item hitem hid
        exact hgone ((restored_stored_iff hlive.verdicts hdata).mpr ⟨item, hitem, hid⟩)

structure Shows (row : Accessor) (nav : Navigation) : Prop where
  live : Live nav
  screen : nav.screen = .list (some row)
  gone : ¬ nav.Stored .report row

theorem Shows.step (h : Shows row nav) (hkeeps : e.KeepsAlert)
    {outcome : Except RLMException Navigation}
    (hstep : nav.handle typeOf dateFormatter calendar e = some outcome)
    : ∃ nav', outcome = .ok nav' ∧ Shows row nav' := by
  cases e with
  | background back =>
    simp only [handle] at hstep
    split at hstep
    . next hback =>
      obtain ⟨manager, hmanager, rfl⟩ := Option.map_eq_some_iff.mp hstep
      have hbecomes := DataServiceManager.background_becomes hback h.live.verdicts hmanager
      refine ⟨_, rfl, background_live h.live hbecomes, h.screen, ?_⟩
      unfold Stored
      rw [hbecomes.object]
      exact h.gone
    . cases hstep
  | scroll =>
    cases hstep
    exact ⟨nav, scroll_ok h.live, h⟩
  | _ => exact hkeeps.elim

theorem Shows.run (h : Shows row nav) {between : List Event}
    (hbetween : ∀ e ∈ between, e.KeepsAlert) {outcome : Except RLMException Navigation}
    (hrun : (machine typeOf dateFormatter calendar).run (.ok nav) between = some outcome)
    : ∃ nav', outcome = .ok nav' ∧ Shows row nav' := by
  refine Machine.invariant_of_meets (I := fun outcome => ∃ nav, outcome = .ok nav ∧ Shows row nav)
    (C := fun _ e => e.KeepsAlert) ?_ ⟨nav, rfl, h⟩
    (Machine.meets_of_forall (fun _ e he => hbetween e he) _) hrun
  rintro outcome e outcome' ⟨nav, rfl, hshows⟩ hkeeps hstep
  exact hshows.step hkeeps hstep

theorem Orphaned.shows {manager : DataServiceManager} (hverdicts : manager.verdicts = [])
    {events : List Event} {outcome : Except RLMException Navigation}
    (h : Orphaned typeOf dateFormatter calendar (launched dateFormatter manager) row events)
    (hrun : (machine typeOf dateFormatter calendar).run (.ok (launched dateFormatter manager))
      events = some outcome)
    : ∃ nav, outcome = .ok nav ∧ Shows row nav := by
  obtain ⟨before, data, between, shown, rfl, hbefore, hscreen, hlacks, hbetween⟩ := h
  obtain ⟨mid, hmid, hrest⟩ := Machine.run_append_eq_some.mp hrun
  rw [hbefore] at hmid
  cases hmid
  obtain ⟨next, hstep, hrest⟩ := Machine.run_cons_eq_some.mp hrest
  have hlive := run_live hverdicts hbefore
  simp only [machine, handle, hscreen] at hstep
  split at hstep
  . next hdata =>
    cases hstep
    have hshows : Shows row (shown.restore dateFormatter data) := by
      refine ⟨restore_live hlive hscreen data, hscreen, ?_⟩
      rw [restored_stored_iff hlive.verdicts hdata]
      rintro ⟨item, hitem, hid⟩
      exact hlacks item hitem hid
    exact hshows.run hbetween hrest
  . cases hstep

open ReportManagerViewController (daysFormatter)
open ShotDetailsViewController (sampleReport)
open DataServiceManager (sampleManager)

def sampleRestored : Kind → List DataServiceObject
  | .report => [.report sampleReport]
  | .shot => []

def alertInList (screen : Screen) : Option Accessor :=
  match screen with
  | .list alert => alert
  | _ => none

theorem screen_of_alertInList {screen : Screen} (h : alertInList screen = some row)
    : screen = .list (some row) := by
  cases screen with
  | list alert => exact congrArg Screen.list h
  | _ => cases h

def sampleAlert : List Event :=
  [.addNew ⟨10, 10, 10, 10, 10, "u"⟩, .back, .editReport 0 0]

-- A restore that brings the report back lets the confirmation go on.
example
    : ((machine (fun _ => .report) daysFormatter sampleCalendar).run
        (.ok (launched daysFormatter sampleManager))
        (sampleAlert ++ [.restore fun
          | .report => [.report { sampleReport with id := "u" }]
          | .shot => [], .confirm "" "t" ""])).all
          (fun outcome => outcome.toOption.isSome) = true := by
  decide +kernel

end Navigation
