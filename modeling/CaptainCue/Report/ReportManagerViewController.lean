import Mathlib.Logic.Equiv.Nat
import CaptainCue.Library.Sections
import CaptainCue.Library.Sorting
import CaptainCue.Manager.DataServiceManager

/-!
This module contains the list of all reports, which one pass over the reports cuts into the sections
of the days, and the creation of a new report with a numbered title.
-/

structure DateComponents where
  year : Int
  month : Int
  day : Int
  deriving DecidableEq, Repr

structure Calendar where
  -- `Calendar.current`, with `dateComponents([.year, .month, .day], from:)` and `date(from:)`.
  dateComponents : Date → DateComponents
  date : DateComponents → Option Date

namespace Date

def day (dateFormatter : DateFormatter) (date : Date) : String :=
  convertToString dateFormatter date "dd/MM/yyyy"

end Date

namespace RealmDataService

def getAllReports (service : RealmDataService) : List ReportModel :=
  service.realm.reports.list service.rank

end RealmDataService

structure ReportManagerViewController where
  reportData : List (List ReportModel) := []
  deriving DecidableEq

namespace ReportManagerViewController

structure Loop where
  reportData : List (List ReportModel)
  tempArr : List ReportModel
  currentDate : Option String

def Loop.body (dateFormatter : DateFormatter) (loop : Loop) (item : ReportModel) : Loop :=
  let itemDate := item.time.day dateFormatter
  if some itemDate = loop.currentDate then
    { loop with tempArr := loop.tempArr ++ [item] }
  else
    { currentDate := some itemDate
      reportData := loop.reportData ++ [loop.tempArr]
      tempArr := [item]
    }

def setupDatas (dateFormatter : DateFormatter) (localDataService : RealmDataService)
    : ReportManagerViewController :=
  let searchResult := sortedByDescending ReportModel.time localDataService.getAllReports
  if searchResult.isEmpty = false then
    let currentDate := searchResult.head?.map fun item => item.time.day dateFormatter
    let loop := searchResult.foldl (Loop.body dateFormatter) ⟨[], [], currentDate⟩
    { reportData := loop.reportData ++ [loop.tempArr] }
  else
    { reportData := [] }

structure AddContext where
  -- What the creation of a report takes from its surroundings: the values of `Date()`, in the order
  -- of the calls, and the `UUID().uuidString` of the report that is added.
  componentDate : Date
  fallbackDate : Date
  titleDate : Date
  firstDate : Date
  secondDate : Date
  uuidString : String

def newReport (controller : ReportManagerViewController) (dateFormatter : DateFormatter)
    (calendar : Calendar) (context : AddContext) : ReportModel :=
  let component := calendar.dateComponents context.componentDate
  let date := (calendar.date component).getD context.fallbackDate
  let dateStr := context.titleDate.convertToString dateFormatter "yyyy_MM_dd"
  let no := ((controller.reportData.head?.map fun reports =>
    (reports.filter fun report => report.time > date).length).getD 0) + 1
  if no < 10 then
    { id := context.uuidString
      title := dateStr ++ "_0" ++ toString no
      time := context.secondDate
    }
  else
    { id := context.uuidString
      title := dateStr ++ "_" ++ toString no
      time := context.firstDate
    }

def btnAddNewWasTapped (controller : ReportManagerViewController) (dateFormatter : DateFormatter)
    (calendar : Calendar) (context : AddContext) (manager : DataServiceManager)
    : DataServiceManager :=
  manager.addObject (.report (controller.newReport dateFormatter calendar context))

/-! ## The sections of the days -/

variable {dateFormatter : DateFormatter} {localDataService : RealmDataService}

def dayOf (dateFormatter : DateFormatter) (report : ReportModel) : String :=
  report.time.day dateFormatter

theorem Loop.body_sectioned {loop : Loop} {reports : List ReportModel}
    (h : Sectioned (dayOf dateFormatter) reports (loop.reportData ++ [loop.tempArr]))
    (hcurrent : ∀ report ∈ loop.tempArr, loop.currentDate = some (dayOf dateFormatter report))
    (item : ReportModel)
    : Sectioned (dayOf dateFormatter) (reports ++ [item])
          ((loop.body dateFormatter item).reportData ++ [(loop.body dateFormatter item).tempArr])
        ∧ ∀ report ∈ (loop.body dateFormatter item).tempArr,
            (loop.body dateFormatter item).currentDate = some (dayOf dateFormatter report) := by
  unfold body
  dsimp only
  split
  . next hsame =>
    refine ⟨h.extend ?_, ?_⟩
    . intro report hreport
      exact Option.some.inj (hsame.trans (hcurrent report hreport))
    . intro report hreport
      cases List.mem_append.mp hreport with
      | inl hreport => exact hcurrent report hreport
      | inr hreport =>
        rw [List.mem_singleton.mp hreport]
        exact hsame.symm
  . next hdiffer =>
    refine ⟨h.start ?_, ?_⟩
    . intro report hreport heq
      rw [hcurrent report hreport] at hdiffer
      exact hdiffer (congrArg some heq.symm)
    . intro report hreport
      rw [List.mem_singleton.mp hreport]
      rfl

theorem foldl_body_sectioned (rest : List ReportModel) {loop : Loop} {reports : List ReportModel}
    (h : Sectioned (dayOf dateFormatter) reports (loop.reportData ++ [loop.tempArr]))
    (hcurrent : ∀ report ∈ loop.tempArr, loop.currentDate = some (dayOf dateFormatter report))
    : Sectioned (dayOf dateFormatter) (reports ++ rest)
        ((rest.foldl (Loop.body dateFormatter) loop).reportData
          ++ [(rest.foldl (Loop.body dateFormatter) loop).tempArr]) := by
  induction rest generalizing loop reports with
  | nil =>
    rw [List.append_nil]
    exact h
  | cons item rest ih =>
    obtain ⟨h', hcurrent'⟩ := Loop.body_sectioned h hcurrent item
    have hrest := ih h' hcurrent'
    rw [List.append_assoc, List.singleton_append] at hrest
    exact hrest

theorem setupDatas_sectioned (dateFormatter : DateFormatter) (localDataService : RealmDataService)
    : Sectioned (dayOf dateFormatter)
        (sortedByDescending ReportModel.time localDataService.getAllReports)
        (setupDatas dateFormatter localDataService).reportData := by
  unfold setupDatas
  cases sortedByDescending ReportModel.time localDataService.getAllReports with
  | nil => exact sectioned_nil _
  | cons first rest =>
    -- the first report starts the first section, as the loop takes its day before the first round
    have hbody : Loop.body dateFormatter ⟨[], [], some (dayOf dateFormatter first)⟩ first
        = ⟨[], [first], some (dayOf dateFormatter first)⟩ :=
      if_pos rfl
    let start : Loop := ⟨[], [first], some (dayOf dateFormatter first)⟩
    have hfirst : Sectioned (dayOf dateFormatter) [first] (start.reportData ++ [start.tempArr]) :=
      sectioned_singleton (dayOf dateFormatter) first
    have hcurrent : ∀ report ∈ start.tempArr,
        start.currentDate = some (dayOf dateFormatter report) := by
      intro report hreport
      rw [List.mem_singleton.mp hreport]
    have hrest := foldl_body_sectioned rest hfirst hcurrent
    rw [show start = Loop.body dateFormatter ⟨[], [], some (dayOf dateFormatter first)⟩ first
      from hbody.symm] at hrest
    exact hrest

def NeverGoesBack (day : Date → String) : Prop :=
  ∀ s t u, s ≤ t → t ≤ u → day s = day u → day t = day s

def Later (day : Date → String) (d d' : String) : Prop :=
  -- the day `d` lies after the day `d'`
  ∀ t t', day t = d → day t' = d' → t' < t

theorem NeverGoesBack.later {day : Date → String} (h : NeverGoesBack day) {t t' : Date}
    (hle : t' ≤ t) (hne : day t ≠ day t') : Later day (day t) (day t') := by
  intro s s' hs hs'
  by_contra hlt
  have hss' : s ≤ s' := not_lt.mp hlt
  -- the two days would overlap, so that one of them comes back after the other
  cases le_total s t' with
  | inl hbefore =>
    have := h s t' t hbefore hle hs
    exact hne (hs.symm.trans this.symm)
  | inr hafter =>
    have := h t' s s' hafter hss' hs'.symm
    exact hne (hs.symm.trans this)

/--
Days of equal length, numbered one after the other, never go back.
-/
theorem neverGoesBack_ediv {ticks : Int} (hticks : 0 < ticks)
    : NeverGoesBack fun date => uuidString (Equiv.intEquivNat (date / ticks)) := by
  intro s t u hst htu heq
  have hsame : s / ticks = u / ticks := Equiv.intEquivNat.injective (uuidString_inj.mp heq)
  have hle : s / ticks ≤ t / ticks := Int.ediv_le_ediv hticks hst
  have hle' : t / ticks ≤ u / ticks := Int.ediv_le_ediv hticks htu
  rw [← hsame] at hle'
  exact congrArg (fun n => uuidString (Equiv.intEquivNat n)) (Int.le_antisymm hle' hle)

theorem mem_getAllReports {report : ReportModel}
    : report ∈ localDataService.getAllReports ↔ report ∈ localDataService.realm.reports.rows :=
  Table.mem_list

theorem mem_sortedReports {report : ReportModel}
    : report ∈ sortedByDescending ReportModel.time localDataService.getAllReports
        ↔ report ∈ localDataService.realm.reports.rows := by
  unfold sortedByDescending
  rw [(sortedBy_perm _ _).mem_iff, mem_getAllReports]

theorem sortedReports_eq {reports : List ReportModel}
    (hperm : localDataService.realm.reports.rows.Perm reports)
    (hsorted : reports.Pairwise fun report report' => report'.time < report.time)
    : sortedByDescending ReportModel.time localDataService.getAllReports = reports := by
  symm
  apply eq_sortedBy
  . exact hperm.symm.trans (Table.list_perm _ _).symm
  . apply hsorted.imp
    intro report report' hlt
    exact OrderDual.toDual_le_toDual.mpr hlt.le
  . intro report hreport report' hreport' heq
    have hdistinct := hsorted.imp fun hlt => hlt.ne'
    have hsymm : Std.Symm fun report report' : ReportModel => report.time ≠ report'.time :=
      ⟨fun _ _ hne => hne.symm⟩
    by_contra hne
    rw [mem_getAllReports, hperm.mem_iff] at hreport hreport'
    exact hdistinct.forall hreport hreport' hne (OrderDual.toDual_inj.mp heq)

theorem sections_pairwise (hback : NeverGoesBack (Date.day dateFormatter))
    : (setupDatas dateFormatter localDataService).reportData.Pairwise
        fun reports reports' => ∀ report ∈ reports, ∀ report' ∈ reports',
          dayOf dateFormatter report ≠ dayOf dateFormatter report'
            ∧ report'.time ≤ report.time := by
  have hsectioned := setupDatas_sectioned dateFormatter localDataService
  have hsorted := pairwise_sortedByDescending ReportModel.time localDataService.getAllReports
  have hne := hsectioned.pairwise_ne hsorted (by
    intro a _ b _ c _ hab hbc hkey
    have := hback c.time b.time a.time hbc hab hkey.symm
    exact this.trans hkey.symm)
  apply (hne.and (hsectioned.pairwise hsorted)).imp
  rintro reports reports' ⟨hdiffer, hle⟩ report hreport report' hreport'
  exact ⟨hdiffer report hreport report' hreport', hle report hreport report' hreport'⟩

theorem mem_section (hback : NeverGoesBack (Date.day dateFormatter)) {reports : List ReportModel}
    (hsection : reports ∈ (setupDatas dateFormatter localDataService).reportData)
    {report report' : ReportModel} (hreport : report ∈ reports)
    : report' ∈ reports
        ↔
      report' ∈ localDataService.realm.reports.rows
        ∧ dayOf dateFormatter report' = dayOf dateFormatter report := by
  have hsectioned := setupDatas_sectioned dateFormatter localDataService
  constructor
  . intro hreport'
    exact ⟨mem_sortedReports.mp (hsectioned.mem_iff.mpr ⟨reports, hsection, hreport'⟩),
      hsectioned.same reports hsection report' hreport' report hreport⟩
  . rintro ⟨hrow, hday⟩
    apply hsectioned.mem_of_key_eq _ hsection hreport (mem_sortedReports.mpr hrow) hday
    apply (sections_pairwise hback).imp
    intro reports reports' h report hreport report' hreport'
    exact (h report hreport report' hreport').1

/--
The sections are the stored reports in descending order, cut where the day changes.
-/
theorem setupDatas_partition (dateFormatter : DateFormatter) (localDataService : RealmDataService)
    : (setupDatas dateFormatter localDataService).reportData.flatten
          = sortedByDescending ReportModel.time localDataService.getAllReports
        ∧ (setupDatas dateFormatter localDataService).reportData.flatten.Perm
            localDataService.realm.reports.rows
        ∧ (setupDatas dateFormatter localDataService).reportData.flatten.Pairwise
            (fun report report' => report'.time ≤ report.time)
        ∧ (∀ reports ∈ (setupDatas dateFormatter localDataService).reportData, reports ≠ [])
        ∧ (∀ reports ∈ (setupDatas dateFormatter localDataService).reportData,
            ∀ report ∈ reports, ∀ report' ∈ reports,
              report.time.day dateFormatter = report'.time.day dateFormatter)
        ∧ (setupDatas dateFormatter localDataService).reportData.IsChain
            (fun reports reports' => ∀ report ∈ reports, ∀ report' ∈ reports',
              report.time.day dateFormatter ≠ report'.time.day dateFormatter)
        ∧ ((setupDatas dateFormatter localDataService).reportData = []
            ↔ localDataService.realm.reports.rows = [])
        ∧ (NeverGoesBack (Date.day dateFormatter) →
            (setupDatas dateFormatter localDataService).reportData.Pairwise
                (fun reports reports' => ∀ report ∈ reports, ∀ report' ∈ reports',
                  Later (Date.day dateFormatter) (report.time.day dateFormatter)
                    (report'.time.day dateFormatter))
              ∧ ∀ reports ∈ (setupDatas dateFormatter localDataService).reportData,
                  ∀ report ∈ reports, ∀ report' ∈ localDataService.realm.reports.rows,
                    report'.time.day dateFormatter = report.time.day dateFormatter →
                      report' ∈ reports) := by
  have hsectioned := setupDatas_sectioned dateFormatter localDataService
  have hperm : (sortedByDescending ReportModel.time localDataService.getAllReports).Perm
      localDataService.realm.reports.rows :=
    (sortedBy_perm _ _).trans (Table.list_perm _ _)
  refine ⟨hsectioned.flatten, ?_, ?_, hsectioned.ne_nil, hsectioned.same, hsectioned.differ, ?_, ?_⟩
  . rw [hsectioned.flatten]
    exact hperm
  . rw [hsectioned.flatten]
    exact pairwise_sortedByDescending _ _
  . rw [hsectioned.eq_nil_iff]
    constructor
    . intro hnil
      rw [hnil] at hperm
      exact hperm.symm.eq_nil
    . intro hnil
      rw [hnil] at hperm
      exact hperm.eq_nil
  . intro hback
    constructor
    . apply (sections_pairwise hback).imp
      intro reports reports' h report hreport report' hreport'
      obtain ⟨hne, hle⟩ := h report hreport report' hreport'
      exact hback.later hle hne
    . intro reports hsection report hreport report' hrow hday
      exact (mem_section hback hsection hreport).mpr ⟨hrow, hday⟩

/-! Days of 86400 ticks, whose numbers are written in unary -/

def daysFormatter : DateFormatter where
  string _ date := uuidString (Equiv.intEquivNat (date / 86400))
  date _ _ := none

end ReportManagerViewController
