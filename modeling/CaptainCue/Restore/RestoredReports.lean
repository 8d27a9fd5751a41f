import CaptainCue.Report.ReportManagerViewController
import CaptainCue.Restore.RoundTrip

/-!
This module contains the way of the reports to the cloud and back: what becomes of the reports, and
of the sections of the days in which they are listed.
-/

namespace ReportModel

theorem initJSON_getJSONData (dateFormatter : DateFormatter) (context : InitContext)
    (report : ReportModel)
    : initJSON dateFormatter context report.getJSONData.stored
        =
      some { report with
        time := (Date.getDateFormatted dateFormatter report.time).getD context.secondMappingDate
      } := rfl

def formatted (dateFormatter : DateFormatter) (report : ReportModel) : ReportModel :=
  { report with time := (Date.getDateFormatted dateFormatter report.time).getD report.time }

end ReportModel

namespace ReportManagerViewController

/--
A report that is parsed again may have moved to another instant with the same clock reading, but not
to another day.
-/
structure FormatsBack (dateFormatter : DateFormatter) : Prop where
  format : ∀ date, ∃ date', Date.getDateFormatted dateFormatter date = some date'
    ∧ Date.convertToString dateFormatter date' = Date.convertToString dateFormatter date
  day : ∀ date date', Date.convertToString dateFormatter date
    = Date.convertToString dateFormatter date' → date.day dateFormatter = date'.day dateFormatter
  neverGoesBack : NeverGoesBack (Date.day dateFormatter)

variable {κ : Type} {dateFormatter : DateFormatter} {context : Nat → InitContext}
  {device target : RealmDataService} {service : FirebaseDataService κ} {completion : κ}

theorem FormatsBack.convertToString_formatted (h : FormatsBack dateFormatter) (report : ReportModel)
    : Date.convertToString dateFormatter (report.formatted dateFormatter).time
        = Date.convertToString dateFormatter report.time := by
  obtain ⟨date, hdate, hformat⟩ := h.format report.time
  unfold ReportModel.formatted
  rw [hdate]
  exact hformat

theorem FormatsBack.dayOf_formatted (h : FormatsBack dateFormatter) (report : ReportModel)
    : dayOf dateFormatter (report.formatted dateFormatter) = dayOf dateFormatter report :=
  h.day _ _ (h.convertToString_formatted report)

theorem restoredReports_find? (h : FormatsBack dateFormatter) (hpending : service.pending = [])
    (hempty : service.db.collection Kind.report.getRemoteCollectionName = ∅)
    (hverdicts : target.verdicts = []) (id : String)
    : (restored dateFormatter context device target service completion .report).realm.reports.find? id
        = (device.realm.reports.find? id).map (ReportModel.formatted dateFormatter) := by
  cases hreport : device.realm.reports.find? id with
  | none =>
    have hobject : device.realm.object .report id = none := by
      rw [Realm.object_report, hreport, Option.map_none]
    have hnone : ((restored dateFormatter context device target service completion
          .report).realm.reports.find? id).map DataServiceObject.report = none :=
      restored_object_none hpending hempty hverdicts hobject
    exact Option.map_eq_none_iff.mp hnone
  | some report =>
    have hid : report.id = id := Table.key_of_find? hreport
    subst hid
    have hobject : device.realm.object .report report.id = some (.report report) := by
      rw [Realm.object_report, hreport, Option.map_some]
    obtain ⟨i, hi⟩ : ∃ i : Nat,
        (device.getAllDatas .report).reverse[i]? = some (DataServiceObject.report report) :=
      exists_getElem?_reverse hobject
    obtain ⟨date, hdate, -⟩ := h.format report.time
    have hround : DataServiceObject.initJSON dateFormatter (context i)
          (DataServiceObject.report report).getJSONData.stored .report
        = some (.report (report.formatted dateFormatter)) := by
      have hdecoded := ReportModel.initJSON_getJSONData dateFormatter (context i) report
      unfold ReportModel.formatted
      rw [hdate] at hdecoded ⊢
      exact congrArg (Option.map DataServiceObject.report) hdecoded
    have hrestored : ((restored dateFormatter context device target service completion
          .report).realm.reports.find? report.id).map DataServiceObject.report = _ :=
      restored_object_of_getElem? hpending hempty hverdicts hi
    rw [hround, ← Option.map_some] at hrestored
    exact Option.map_injective (fun _ _ h => DataServiceObject.report.inj h) hrestored

theorem mem_restoredReports (h : FormatsBack dateFormatter) (hpending : service.pending = [])
    (hempty : service.db.collection Kind.report.getRemoteCollectionName = ∅)
    (hverdicts : target.verdicts = []) {report : ReportModel}
    : (report ∈ (restored dateFormatter context device target service completion
          .report).realm.reports.rows)
        ↔ ∃ report' ∈ device.realm.reports.rows, report'.formatted dateFormatter = report := by
  have hperm : (restored dateFormatter context device target service completion
        .report).realm.reports.rows.Perm
      (device.realm.reports.rows.map (ReportModel.formatted dateFormatter)) := by
    apply Table.rows_perm_map _ (restoredReports_find? h hpending hempty hverdicts)
    intro report
    rfl
  rw [hperm.mem_iff, List.mem_map]

theorem nodup_section {localDataService : RealmDataService} {reports : List ReportModel}
    (hsection : reports ∈ (setupDatas dateFormatter localDataService).reportData)
    : (reports.map ReportModel.id).Nodup := by
  have hflatten := (setupDatas_sectioned dateFormatter localDataService).flatten
  have hperm : (setupDatas dateFormatter localDataService).reportData.flatten.Perm
      localDataService.realm.reports.rows := by
    rw [hflatten]
    exact (sortedBy_perm _ _).trans (Table.list_perm _ _)
  have hnodup := (hperm.map ReportModel.id).nodup_iff.mpr
    localDataService.realm.reports.nodup_rows_map_key
  exact ((List.sublist_flatten_of_mem hsection).map ReportModel.id).nodup hnodup

/--
The sections of the restored reports are those of the device, day by day.
-/
theorem restoredReports_sections (h : FormatsBack dateFormatter) (hpending : service.pending = [])
    (hempty : service.db.collection Kind.report.getRemoteCollectionName = ∅)
    (hverdicts : target.verdicts = [])
    : List.Forall₂
        (fun reports reports' =>
          (∀ report ∈ reports, ∀ report' ∈ reports',
            dayOf dateFormatter report = dayOf dateFormatter report')
          ∧ reports'.Perm (reports.map (ReportModel.formatted dateFormatter)))
        (setupDatas dateFormatter device).reportData
        (setupDatas dateFormatter
          (restored dateFormatter context device target service completion .report)).reportData := by
  let localDataService := restored dateFormatter context device target service completion .report
  have hmem {report : ReportModel} : report ∈ localDataService.realm.reports.rows
      ↔ ∃ report' ∈ device.realm.reports.rows, report'.formatted dateFormatter = report :=
    mem_restoredReports h hpending hempty hverdicts
  have hsections := setupDatas_sectioned dateFormatter device
  have hsections' := setupDatas_sectioned dateFormatter localDataService
  have hlater (localDataService : RealmDataService)
      : (setupDatas dateFormatter localDataService).reportData.Pairwise
          fun reports reports' => ∀ report ∈ reports, ∀ report' ∈ reports',
            Later (Date.day dateFormatter) (dayOf dateFormatter report)
              (dayOf dateFormatter report') := by
    apply (sections_pairwise h.neverGoesBack).imp
    intro reports reports' hpair report hreport report' hreport'
    obtain ⟨hne, hle⟩ := hpair report hreport report' hreport'
    exact h.neverGoesBack.later hle hne
  have hkeys (day : String)
      : (∃ report ∈ sortedByDescending ReportModel.time device.getAllReports,
            dayOf dateFormatter report = day)
          ↔ ∃ report ∈ sortedByDescending ReportModel.time localDataService.getAllReports,
            dayOf dateFormatter report = day := by
    simp only [mem_sortedReports, hmem]
    constructor
    . rintro ⟨report, hreport, hday⟩
      exact ⟨_, ⟨report, hreport, rfl⟩, (h.dayOf_formatted report).trans hday⟩
    . rintro ⟨_, ⟨report, hreport, rfl⟩, hday⟩
      exact ⟨report, hreport, (h.dayOf_formatted report).symm.trans hday⟩
  have hboth := hsections.forall₂ hsections' (hlater device) (hlater localDataService)
    (fun report _ report' _ hbefore hbefore' =>
      lt_asymm (hbefore report.time report'.time rfl rfl)
        (hbefore' report'.time report.time rfl rfl))
    hkeys
  apply hboth.imp
  rintro reports reports' ⟨hsection, hsection', hday⟩
  refine ⟨hday, ?_⟩
  have hnodup : (reports.map (ReportModel.formatted dateFormatter)).Nodup := by
    apply List.Nodup.of_map ReportModel.id
    rw [List.map_map]
    exact nodup_section hsection
  apply (List.perm_ext_iff_of_nodup (nodup_section hsection').of_map hnodup).mpr
  intro report'
  obtain ⟨first, hfirst⟩ := List.exists_mem_of_ne_nil reports (hsections.ne_nil reports hsection)
  obtain ⟨first', hfirst'⟩ :=
    List.exists_mem_of_ne_nil reports' (hsections'.ne_nil reports' hsection')
  have hsame : dayOf dateFormatter first' = dayOf dateFormatter first :=
    (hday first hfirst first' hfirst').symm
  rw [mem_section h.neverGoesBack hsection' hfirst', hmem, hsame, List.mem_map]
  constructor
  . rintro ⟨⟨report, hrow, rfl⟩, hreport⟩
    rw [h.dayOf_formatted] at hreport
    exact ⟨report, (mem_section h.neverGoesBack hsection hfirst).mpr ⟨hrow, hreport⟩, rfl⟩
  . rintro ⟨report, hreport, rfl⟩
    obtain ⟨hrow, hreport⟩ := (mem_section h.neverGoesBack hsection hfirst).mp hreport
    exact ⟨⟨report, hrow, rfl⟩, (h.dayOf_formatted report).trans hreport⟩

/--
What the list of the reports shows is the same after a backup and a restore.
-/
theorem restoredReports_preserved (h : FormatsBack dateFormatter) (hpending : service.pending = [])
    (hempty : service.db.collection Kind.report.getRemoteCollectionName = ∅)
    (hverdicts : target.verdicts = [])
    : let localDataService :=
        restored dateFormatter context device target service completion .report
      (∀ id : String,
        (localDataService.realm.reports.find? id).map (fun report =>
            (report.id, report.title, report.desc,
              Date.convertToString dateFormatter report.time))
          = (device.realm.reports.find? id).map (fun report =>
              (report.id, report.title, report.desc,
                Date.convertToString dateFormatter report.time)))
        ∧ List.Forall₂
            (fun reports reports' =>
              (∀ report ∈ reports, ∀ report' ∈ reports',
                report.time.day dateFormatter = report'.time.day dateFormatter)
              ∧ (reports'.map ReportModel.id).Perm (reports.map ReportModel.id))
            (setupDatas dateFormatter device).reportData
            (setupDatas dateFormatter localDataService).reportData := by
  intro localDataService
  constructor
  . intro id
    rw [restoredReports_find? h hpending hempty hverdicts, Option.map_map]
    congr 1
    funext report
    dsimp only [Function.comp]
    rw [h.convertToString_formatted report]
    rfl
  . apply (restoredReports_sections h hpending hempty hverdicts).imp
    rintro reports reports' ⟨hday, hperm⟩
    refine ⟨hday, ?_⟩
    have hmap := hperm.map ReportModel.id
    rw [List.map_map] at hmap
    exact hmap

theorem secondsFormatter_formatsBack : FormatsBack secondsFormatter where
  format := by
    intro date
    refine ⟨_, secondsFormatter_truncates date, ?_⟩
    unfold Date.convertToString secondsFormatter Date.truncated
    dsimp only
    rw [Int.mul_ediv_cancel _ (by decide)]
  day := fun _ _ heq => heq
  neverGoesBack := neverGoesBack_ediv (by decide)

def sampleReportDevice : RealmDataService where
  realm := (Realm.empty.addModified (.object (.report { id := "r", title := "0", time := 25 })))
    |>.addModified (.object (.report { id := "s", title := "1", time := 97 }))
  rank := fun _ => 0
  verdicts := []

theorem restoredReports_preserved_two_days
    : let localDataService :=
        restored secondsFormatter (fun _ => ⟨"", 0, 0, 200⟩) sampleReportDevice sampleTarget
          sampleService () .report
      (∀ id : String,
        (localDataService.realm.reports.find? id).map (fun report =>
            (report.id, report.title, report.desc,
              Date.convertToString secondsFormatter report.time))
          = (sampleReportDevice.realm.reports.find? id).map (fun report =>
              (report.id, report.title, report.desc,
                Date.convertToString secondsFormatter report.time)))
        ∧ List.Forall₂
            (fun reports reports' =>
              (∀ report ∈ reports, ∀ report' ∈ reports',
                report.time.day secondsFormatter = report'.time.day secondsFormatter)
              ∧ (reports'.map ReportModel.id).Perm (reports.map ReportModel.id))
            (setupDatas secondsFormatter sampleReportDevice).reportData
            (setupDatas secondsFormatter localDataService).reportData :=
  restoredReports_preserved secondsFormatter_formatsBack rfl rfl rfl

end ReportManagerViewController
