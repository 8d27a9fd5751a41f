import Mathlib.Algebra.BigOperators.Ring.Finset
import CaptainCue.Report.Statistics

/-!
This module contains how the numbers for all reports of a day relate to the numbers for each report
alone. The shots of the day are the shots of its reports, merged by their times.
-/

namespace ReportDetailsViewController

variable {localDataService : RealmDataService} {reports : List ReportModel}

def view (localDataService : RealmDataService) (reportDatas : List ReportModel)
    : ReportDetailsViewController :=
  -- the screen that `pushReportDetailsVC` opens for `reportDatas`
  ReportDetailsViewController.setupDatas { reportDatas := reportDatas } localDataService

def shotCount (controller : ReportDetailsViewController) : Int :=
  (controller.shotResult.map List.length).getD 0

def Apart (localDataService : RealmDataService) (report report' : ReportModel) : Prop :=
  (∀ shot ∈ localDataService.getShotData report.id,
      ∀ shot' ∈ localDataService.getShotData report'.id, shot.time < shot'.time)
    ∨ ∀ shot ∈ localDataService.getShotData report.id,
        ∀ shot' ∈ localDataService.getShotData report'.id, shot'.time < shot.time

/-! ### The shots of one report among those of the day -/

theorem Regular.filter_shotsInOrder (h : Regular localDataService) {report : ReportModel}
    (hreport : report ∈ reports)
    : (shotsInOrder localDataService reports).filter (fun shot => shot.reportID = report.id)
        = shotsInOrder localDataService [report] := by
  unfold shotsInOrder
  rw [sortedBy_filter _ (h.getShotDatas _)]
  congr 1
  unfold RealmDataService.getShotDatas
  rw [List.filter_filter]
  apply List.filter_congr
  intro shot _
  by_cases hid : shot.reportID = report.id
  . have hmem : report.id ∈ reports.map ReportModel.id := List.mem_map_of_mem hreport
    simp [hid, hmem]
  . simp [hid]

theorem mem_reportIDs {shot : ShotModel} (hshot : shot ∈ shotsInOrder localDataService reports)
    : shot.reportID ∈ reports.map ReportModel.id := by
  obtain ⟨report, hreport, hid⟩ := (mem_shotsInOrder.mp hshot).2
  rw [hid]
  exact List.mem_map_of_mem hreport

theorem Regular.sum_countP (h : Regular localDataService)
    (hids : (reports.map ReportModel.id).Nodup) (p : ShotModel → Bool)
    : (reports.map fun report => ((shotsInOrder localDataService [report]).countP p : Int)).sum
        = (shotsInOrder localDataService reports).countP p := by
  have hparts : ∀ report ∈ reports,
      ((shotsInOrder localDataService [report]).countP p : Int)
        = ((fun k => ((shotsInOrder localDataService reports).filter
            fun shot => shot.reportID = k).countP p) report.id : Nat) := by
    intro report hreport
    rw [← h.filter_shotsInOrder hreport]
  rw [← sum_countP_parts ShotModel.reportID p hids fun shot => mem_reportIDs, List.map_map, Nat.cast_list_sum,
    List.map_map]
  exact congrArg List.sum (List.map_congr_left hparts)

theorem Regular.longest_le_sum (h : Regular localDataService)
    (hids : (reports.map ReportModel.id).Nodup) {p : ShotModel → Bool} {longest : Int}
    {longestOf : ReportModel → Int}
    (hday : ∃ n : Nat, longest = n ∧ IsLongestBlock p (shotsInOrder localDataService reports) n)
    (hreport : ∀ report, ∃ n : Nat, longestOf report = n
      ∧ IsLongestBlock p (shotsInOrder localDataService [report]) n)
    : longest ≤ (reports.map longestOf).sum := by
  choose lengthOf hlength hlongest using hreport
  obtain ⟨n, rfl, hn⟩ := hday
  have hparts : ∀ report ∈ reports, IsLongestBlock p
      ((shotsInOrder localDataService reports).filter fun shot => shot.reportID = report.id)
      (lengthOf report) := by
    intro report hmem
    rw [h.filter_shotsInOrder hmem]
    exact hlongest report
  have hle := hn.le_sum_parts ShotModel.reportID hids (fun shot => mem_reportIDs) hparts
  have hsum : (reports.map longestOf).sum = ((reports.map lengthOf).sum : Nat) := by
    rw [Nat.cast_list_sum, List.map_map]
    exact congrArg List.sum (List.map_congr_left fun report _ => hlength report)
  rw [hsum]
  exact Int.ofNat_le.mpr hle

theorem Regular.shotsInOrder_within (h : Regular localDataService) {report : ReportModel}
    (hreport : report ∈ reports)
    (hapart : ∀ report' ∈ reports, report' ≠ report → Apart localDataService report report')
    : shotsInOrder localDataService [report] <:+: shotsInOrder localDataService reports := by
  have hmem : ∀ {report : ReportModel} {shot : ShotModel},
      shot ∈ shotsInOrder localDataService reports → shot.reportID = report.id
        → shot ∈ localDataService.getShotData report.id := by
    intro report shot hshot hid
    unfold RealmDataService.getShotData
    exact List.mem_filter.mpr
      ⟨Table.mem_list.mpr (mem_shotsInOrder.mp hshot).1, decide_eq_true hid⟩
  rw [← h.filter_shotsInOrder hreport]
  apply filter_infix_of_convex (h.pairwise reports)
  intro a ha b hb c hc hab hbc hqa hqc
  rw [decide_eq_true_eq] at hqa hqc ⊢
  obtain ⟨report', hreport', hid'⟩ := (mem_shotsInOrder.mp hb).2
  by_cases heq : report' = report
  . rw [hid', heq]
  . -- a shot of another report would be both after `a` and before `c`
    exfalso
    cases hapart report' hreport' heq with
    | inl hbefore => exact lt_asymm hbc (hbefore c (hmem hc hqc) b (hmem hb hid'))
    | inr hafter => exact lt_asymm hab (hafter a (hmem ha hqa) b (hmem hb hid'))

theorem Regular.longest_le (h : Regular localDataService) {report : ReportModel}
    (hreport : report ∈ reports)
    (hapart : ∀ report' ∈ reports, report' ≠ report → Apart localDataService report report')
    {p : ShotModel → Bool} {longest longestOf : Int}
    (hday : ∃ n : Nat, longest = n ∧ IsLongestBlock p (shotsInOrder localDataService reports) n)
    (hone : ∃ n : Nat, longestOf = n ∧ IsLongestBlock p (shotsInOrder localDataService [report]) n)
    : longestOf ≤ longest := by
  obtain ⟨n, rfl, hn⟩ := hday
  obtain ⟨m, rfl, hm⟩ := hone
  exact Int.ofNat_le.mpr (hn.le_of_within hm (h.shotsInOrder_within hreport hapart))

/-! ### The screens -/

theorem Regular.view_computes (h : Regular localDataService) (reports : List ReportModel)
    : (view localDataService reports).Computes (shotsInOrder localDataService reports) :=
  h.computes { reportDatas := reports }

theorem shotCount_view (localDataService : RealmDataService) (reports : List ReportModel)
    : (view localDataService reports).shotCount
        = (shotsInOrder localDataService reports).countP fun _ => true := by
  unfold view
  rw [setupDatas_eq, List.countP_true]
  rfl

theorem view_section (h : Regular localDataService) (hids : (reports.map ReportModel.id).Nodup)
    : (view localDataService reports).holdCount
          = (reports.map fun report => (view localDataService [report]).holdCount).sum
        ∧ (view localDataService reports).technicallyCount
          = (reports.map fun report => (view localDataService [report]).technicallyCount).sum
        ∧ (view localDataService reports).missSingleColorCount
          = (reports.map fun report => (view localDataService [report]).missSingleColorCount).sum
        ∧ (view localDataService reports).missMixColorCount
          = (reports.map fun report => (view localDataService [report]).missMixColorCount).sum
        ∧ (view localDataService reports).leftMissCount
          = (reports.map fun report => (view localDataService [report]).leftMissCount).sum
        ∧ (view localDataService reports).rightMissCount
          = (reports.map fun report => (view localDataService [report]).rightMissCount).sum
        ∧ (view localDataService reports).shotCount
          = (reports.map fun report => (view localDataService [report]).shotCount).sum
        ∧ (view localDataService reports).longestHold
          ≤ (reports.map fun report => (view localDataService [report]).longestHold).sum
        ∧ (view localDataService reports).longestMiss
          ≤ (reports.map fun report => (view localDataService [report]).longestMiss).sum
        ∧ ((∀ report ∈ reports, ∀ report' ∈ reports, report' ≠ report →
              Apart localDataService report report') →
            ∀ report ∈ reports,
              (view localDataService [report]).longestHold
                  ≤ (view localDataService reports).longestHold
                ∧ (view localDataService [report]).longestMiss
                  ≤ (view localDataService reports).longestMiss) := by
  have hday := h.view_computes reports
  have hone := fun report => h.view_computes [report]
  have hsum : ∀ {count : ReportDetailsViewController → Int} {p : ShotModel → Bool},
      (∀ reports, count (view localDataService reports)
          = (shotsInOrder localDataService reports).countP p) →
        count (view localDataService reports)
          = (reports.map fun report => count (view localDataService [report])).sum := by
    intro count p hcount
    rw [hcount, ← h.sum_countP hids p]
    exact congrArg List.sum (List.map_congr_left fun report _ => (hcount [report]).symm)
  refine ⟨hsum fun reports => (h.view_computes reports).holdCount,
    hsum fun reports => (h.view_computes reports).technicallyCount,
    hsum fun reports => (h.view_computes reports).missSingleColorCount,
    hsum fun reports => (h.view_computes reports).missMixColorCount,
    hsum fun reports => (h.view_computes reports).leftMissCount,
    hsum fun reports => (h.view_computes reports).rightMissCount,
    hsum (shotCount_view localDataService),
    h.longest_le_sum hids hday.longestHold fun report => (hone report).longestHold,
    h.longest_le_sum hids hday.longestMiss fun report => (hone report).longestMiss, ?_⟩
  intro hapart report hreport
  exact ⟨h.longest_le hreport (hapart report hreport) hday.longestHold (hone report).longestHold,
    h.longest_le hreport (hapart report hreport) hday.longestMiss (hone report).longestMiss⟩

def sampleShot (id : String) (result : Int) (time : Date) (reportID : String) : ShotModel :=
  { id, ballNumber := 3, result, technicallyShot := 0, time, reportID }

def sampleDay : RealmDataService where
  realm :=
    [sampleShot "a" 2 10 "r", sampleShot "b" 4 20 "r", sampleShot "c" 2 30 "q",
      sampleShot "d" 2 40 "q"].foldl (fun realm shot => realm.addModified (.object (.shot shot)))
        .empty
  rank := fun _ => 0
  verdicts := []

theorem sampleDay_regular : Regular sampleDay where
  inRange := by
    have hrows : ∀ shot ∈ sampleDay.realm.shots.rows,
        shot.ballNumber = 3 ∧ 0 ≤ shot.result ∧ shot.result ≤ 4 := by
      decide
    intro shot hshot
    obtain ⟨hball, hresult⟩ := hrows shot hshot
    exact ⟨by omega, hresult⟩
  distinct := by
    have hrows : ∀ shot ∈ sampleDay.realm.shots.rows, ∀ shot' ∈ sampleDay.realm.shots.rows,
        shot.time = shot'.time → shot.id = shot'.id := by
      decide
    intro shot hshot shot' hshot' htime
    exact Table.eq_of_mem_rows hshot hshot' (hrows shot hshot shot' hshot' htime)

theorem view_section_two_reports
    : (view sampleDay [{ id := "r", time := 0 }, { id := "q", time := 5 }]).holdCount
          = (view sampleDay [{ id := "r", time := 0 }]).holdCount
            + (view sampleDay [{ id := "q", time := 5 }]).holdCount
        ∧ (view sampleDay [{ id := "q", time := 5 }]).longestHold
          ≤ (view sampleDay [{ id := "r", time := 0 }, { id := "q", time := 5 }]).longestHold := by
  have hbefore : ∀ shot ∈ sampleDay.getShotData "r", ∀ shot' ∈ sampleDay.getShotData "q",
      shot.time < shot'.time := by
    decide
  obtain ⟨hhold, -, -, -, -, -, -, -, -, hlongest⟩ :=
    @view_section sampleDay [{ id := "r", time := 0 }, { id := "q", time := 5 }]
      sampleDay_regular (by decide)
  refine ⟨by simpa using hhold, (hlongest ?_ _ (List.mem_cons_of_mem _ List.mem_cons_self)).1⟩
  intro report hreport report' hreport' hne
  simp only [List.mem_cons, List.not_mem_nil, or_false] at hreport hreport'
  cases hreport with
  | inl h =>
    cases hreport' with
    | inl h' => exact absurd (h'.trans h.symm) hne
    | inr h' =>
      subst h h'
      exact .inl hbefore
  | inr h =>
    cases hreport' with
    | inl h' =>
      subst h h'
      exact .inr fun shot hshot shot' hshot' => hbefore shot' hshot' shot hshot
    | inr h' => exact absurd (h'.trans h.symm) hne

end ReportDetailsViewController
