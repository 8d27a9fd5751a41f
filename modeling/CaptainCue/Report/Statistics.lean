import CaptainCue.Library.Blocks
import CaptainCue.Report.ReportDetailsViewController

/-!
This module contains what the numbers of the report screen say about the shots: the accumulators of
the loop are counts of shots and lengths of longest blocks.
-/

namespace ShotModel

def isHold (shot : ShotModel) : Bool := shot.result = ResultType.hold.rawValue

def isMiss (shot : ShotModel) : Bool := !shot.isHold

def isTechnical (shot : ShotModel) : Bool :=
  shot.isHold && shot.technicallyShot = TechnicallyShotType.technicallyShot.rawValue

def isLeftMiss (shot : ShotModel) : Bool := shot.result = 0 ∨ shot.result = 1

def isRightMiss (shot : ShotModel) : Bool := shot.result = 3 ∨ shot.result = 4

def isSingleColorMiss (shot : ShotModel) : Bool :=
  shot.isMiss && (1 ≤ shot.ballNumber ∧ shot.ballNumber ≤ 8 : Bool)

def isMixColorMiss (shot : ShotModel) : Bool :=
  shot.isMiss && (9 ≤ shot.ballNumber ∧ shot.ballNumber ≤ 15 : Bool)

structure InRange (shot : ShotModel) : Prop where
  ballNumber : 1 ≤ shot.ballNumber ∧ shot.ballNumber ≤ 15
  result : 0 ≤ shot.result ∧ shot.result ≤ 4

theorem isHold_iff {shot : ShotModel} : shot.isHold ↔ shot.result = 2 := by
  unfold isHold
  exact decide_eq_true_iff

theorem isMiss_iff {shot : ShotModel} : shot.isMiss ↔ shot.result ≠ 2 := by
  unfold isMiss
  rw [Bool.not_eq_true', ← Bool.not_eq_true, isHold_iff]

theorem isLeftMiss_iff {shot : ShotModel}
    : shot.isLeftMiss ↔ shot.result = 0 ∨ shot.result = 1 := by
  unfold isLeftMiss
  exact decide_eq_true_iff

theorem isRightMiss_iff {shot : ShotModel}
    : shot.isRightMiss ↔ shot.result = 3 ∨ shot.result = 4 := by
  unfold isRightMiss
  exact decide_eq_true_iff

theorem isSingleColorMiss_iff {shot : ShotModel}
    : shot.isSingleColorMiss ↔ shot.result ≠ 2 ∧ 1 ≤ shot.ballNumber ∧ shot.ballNumber ≤ 8 := by
  unfold isSingleColorMiss
  rw [Bool.and_eq_true, isMiss_iff, decide_eq_true_iff]

theorem isMixColorMiss_iff {shot : ShotModel}
    : shot.isMixColorMiss ↔ shot.result ≠ 2 ∧ 9 ≤ shot.ballNumber ∧ shot.ballNumber ≤ 15 := by
  unfold isMixColorMiss
  rw [Bool.and_eq_true, isMiss_iff, decide_eq_true_iff]

theorem InRange.cases {shot : ShotModel} (h : shot.InRange)
    : shot.isHold ∨ shot.isLeftMiss ∨ shot.isRightMiss := by
  have := h.result
  rw [isHold_iff, isLeftMiss_iff, isRightMiss_iff]
  omega

end ShotModel

namespace ReportDetailsViewController

/-! ## The body of the loop, one class of shots at a time -/

namespace Loop

theorem body_of_isHold {item : ShotModel} (h : item.isHold) (loop : Loop)
    : loop.body item = loop.countHold item := by
  have hresult := ShotModel.isHold_iff.mp h
  simp [body, countColor, ResultType.rawValue, hresult]

theorem countColor_of_isMiss {item : ShotModel} (h : item.isMiss) (hrange : item.InRange)
    (loop : Loop)
    : loop.countColor item
        =
      { loop with
        tempLongestHold := 0
        controller := { loop.controller with
          missSingleColorCount :=
            loop.controller.missSingleColorCount + if item.isSingleColorMiss then 1 else 0
          missMixColorCount :=
            loop.controller.missMixColorCount + if item.isMixColorMiss then 1 else 0
        }
      } := by
  have hresult : item.result ≠ ResultType.hold.rawValue := ShotModel.isMiss_iff.mp h
  have hball := hrange.ballNumber
  unfold countColor ShotModel.isSingleColorMiss ShotModel.isMixColorMiss
  rw [if_pos hresult, h]
  by_cases hsingle : item.ballNumber ≤ 8
  . have hmix : ¬ 9 ≤ item.ballNumber := by omega
    have hpos : item.ballNumber > 0 := by omega
    simp [hsingle, hmix, hpos, hball.1]
  . have hmix : 9 ≤ item.ballNumber := by omega
    simp [hsingle, hmix, hball.2]

theorem body_of_isMiss {item : ShotModel} (h : item.isMiss) (hrange : item.InRange) (loop : Loop)
    : loop.body item
        =
      { controller := { loop.controller with
          longestMiss := max loop.controller.longestMiss (loop.tempLongestMiss + 1)
          missSingleColorCount :=
            loop.controller.missSingleColorCount + if item.isSingleColorMiss then 1 else 0
          missMixColorCount :=
            loop.controller.missMixColorCount + if item.isMixColorMiss then 1 else 0
          leftMissCount := loop.controller.leftMissCount + if item.isLeftMiss then 1 else 0
          rightMissCount := loop.controller.rightMissCount + if item.isRightMiss then 1 else 0
        }
        tempLongestHold := 0
        tempLongestMiss := loop.tempLongestMiss + 1
      } := by
  have hcolor := countColor_of_isMiss h hrange loop
  have hresult := ShotModel.isMiss_iff.mp h
  unfold body
  dsimp only
  cases hrange.cases with
  | inl hhold => exact absurd (ShotModel.isHold_iff.mp hhold) hresult
  | inr hside =>
    cases hside with
    | inl hleft =>
      have hright : ¬ item.isRightMiss := by
        rw [ShotModel.isLeftMiss_iff] at hleft
        rw [ShotModel.isRightMiss_iff]
        omega
      have hbody : item.result = ResultType.left.rawValue
          ∨ item.result = ResultType.leftHold.rawValue := ShotModel.isLeftMiss_iff.mp hleft
      rw [if_pos hleft, if_neg hright, hcolor]
      cases hbody with
      | inl hbody => simp [hbody, ResultType.rawValue, countLeftMiss, countMiss]
      | inr hbody => simp [hbody, ResultType.rawValue, countLeftMiss, countMiss]
    | inr hright =>
      have hleft : ¬ item.isLeftMiss := by
        rw [ShotModel.isRightMiss_iff] at hright
        rw [ShotModel.isLeftMiss_iff]
        omega
      have hbody : item.result = ResultType.righHold.rawValue
          ∨ item.result = ResultType.right.rawValue := ShotModel.isRightMiss_iff.mp hright
      rw [if_pos hright, if_neg hleft, hcolor]
      cases hbody with
      | inl hbody => simp [hbody, ResultType.rawValue, countRightMiss, countMiss]
      | inr hbody => simp [hbody, ResultType.rawValue, countRightMiss, countMiss]

end Loop

/-! ## The invariant of the loop -/

structure Computes (controller : ReportDetailsViewController) (shots : List ShotModel) : Prop where
  holdCount : controller.holdCount = shots.countP ShotModel.isHold
  longestHold : ∃ n : Nat, controller.longestHold = n ∧ IsLongestBlock ShotModel.isHold shots n
  longestMiss : ∃ n : Nat, controller.longestMiss = n ∧ IsLongestBlock ShotModel.isMiss shots n
  technicallyCount : controller.technicallyCount = shots.countP ShotModel.isTechnical
  missSingleColorCount : controller.missSingleColorCount = shots.countP ShotModel.isSingleColorMiss
  missMixColorCount : controller.missMixColorCount = shots.countP ShotModel.isMixColorMiss
  leftMissCount : controller.leftMissCount = shots.countP ShotModel.isLeftMiss
  rightMissCount : controller.rightMissCount = shots.countP ShotModel.isRightMiss

namespace Loop

structure Counts (loop : Loop) (shots : List ShotModel) : Prop extends
    Computes loop.controller shots where
  tempLongestHold : loop.tempLongestHold = trailing ShotModel.isHold shots
  tempLongestMiss : loop.tempLongestMiss = trailing ShotModel.isMiss shots

theorem countP_concat (p : ShotModel → Bool) (shots : List ShotModel) (item : ShotModel)
    : ((shots ++ [item]).countP p : Int) = shots.countP p + if p item then 1 else 0 := by
  rw [List.countP_append, List.countP_singleton]
  split
  . rfl
  . rfl

theorem Counts.hold {loop : Loop} {shots : List ShotModel} (h : loop.Counts shots)
    {item : ShotModel} (hitem : item.isHold) : (loop.body item).Counts (shots ++ [item]) := by
  have hresult := ShotModel.isHold_iff.mp hitem
  have hmiss : ¬ item.isMiss := by
    rw [ShotModel.isMiss_iff, hresult]
    simp
  have hleft : ¬ item.isLeftMiss := by
    rw [ShotModel.isLeftMiss_iff, hresult]
    simp
  have hright : ¬ item.isRightMiss := by
    rw [ShotModel.isRightMiss_iff, hresult]
    simp
  have hsingle : ¬ item.isSingleColorMiss := fun hs => hmiss (Bool.and_elim_left hs)
  have hmix : ¬ item.isMixColorMiss := fun hs => hmiss (Bool.and_elim_left hs)
  have htechnical : item.isTechnical
      ↔ item.technicallyShot = TechnicallyShotType.technicallyShot.rawValue := by
    unfold ShotModel.isTechnical
    rw [hitem, Bool.true_and]
    exact decide_eq_true_iff
  obtain ⟨n, hn, hhold⟩ := h.longestHold
  obtain ⟨m, hm, hlongestMiss⟩ := h.longestMiss
  rw [body_of_isHold hitem]
  refine { holdCount := ?_, longestHold := ⟨_, ?_, hhold.concat_pos hitem⟩,
           longestMiss := ⟨m, hm, hlongestMiss.concat_neg hmiss⟩, technicallyCount := ?_,
           missSingleColorCount := ?_, missMixColorCount := ?_, leftMissCount := ?_,
           rightMissCount := ?_, tempLongestHold := ?_, tempLongestMiss := ?_ }
  . rw [countP_concat, if_pos hitem, ← h.holdCount]
    rfl
  . show max loop.controller.longestHold (loop.tempLongestHold + 1) = _
    rw [hn, h.tempLongestHold]
    omega
  . rw [countP_concat, ← h.technicallyCount]
    show (if _ then _ else _) = _
    by_cases hitem' : item.isTechnical
    . rw [if_pos (htechnical.mp hitem'), if_pos hitem']
    . rw [if_neg (mt htechnical.mpr hitem'), if_neg hitem', Int.add_zero]
  . rw [countP_concat, if_neg hsingle, Int.add_zero, ← h.missSingleColorCount]
    rfl
  . rw [countP_concat, if_neg hmix, Int.add_zero, ← h.missMixColorCount]
    rfl
  . rw [countP_concat, if_neg hleft, Int.add_zero, ← h.leftMissCount]
    rfl
  . rw [countP_concat, if_neg hright, Int.add_zero, ← h.rightMissCount]
    rfl
  . show loop.tempLongestHold + 1 = _
    rw [h.tempLongestHold, trailing_concat_pos hitem]
    rfl
  . rw [trailing_concat_neg hmiss]
    rfl

theorem Counts.miss {loop : Loop} {shots : List ShotModel} (h : loop.Counts shots)
    {item : ShotModel} (hitem : item.isMiss) (hrange : item.InRange)
    : (loop.body item).Counts (shots ++ [item]) := by
  have hhold : ¬ item.isHold := by
    rw [ShotModel.isHold_iff]
    exact ShotModel.isMiss_iff.mp hitem
  have htechnical : ¬ item.isTechnical := fun hs => hhold (Bool.and_elim_left hs)
  obtain ⟨n, hn, hlongestHold⟩ := h.longestHold
  obtain ⟨m, hm, hlongestMiss⟩ := h.longestMiss
  rw [body_of_isMiss hitem hrange]
  refine { holdCount := ?_, longestHold := ⟨n, hn, hlongestHold.concat_neg hhold⟩,
           longestMiss := ⟨_, ?_, hlongestMiss.concat_pos hitem⟩, technicallyCount := ?_,
           missSingleColorCount := ?_, missMixColorCount := ?_, leftMissCount := ?_,
           rightMissCount := ?_, tempLongestHold := ?_, tempLongestMiss := ?_ }
  . rw [countP_concat, if_neg hhold, Int.add_zero, ← h.holdCount]
  . show max loop.controller.longestMiss (loop.tempLongestMiss + 1) = _
    rw [hm, h.tempLongestMiss]
    omega
  . rw [countP_concat, if_neg htechnical, Int.add_zero, ← h.technicallyCount]
  . rw [countP_concat, ← h.missSingleColorCount]
  . rw [countP_concat, ← h.missMixColorCount]
  . rw [countP_concat, ← h.leftMissCount]
  . rw [countP_concat, ← h.rightMissCount]
  . rw [trailing_concat_neg hhold]
    rfl
  . show loop.tempLongestMiss + 1 = _
    rw [h.tempLongestMiss, trailing_concat_pos hitem]
    rfl

theorem Counts.body {loop : Loop} {shots : List ShotModel} (h : loop.Counts shots)
    {item : ShotModel} (hrange : item.InRange) : (loop.body item).Counts (shots ++ [item]) := by
  by_cases hhold : item.isHold
  . exact h.hold hhold
  . apply h.miss _ hrange
    rw [ShotModel.isMiss_iff]
    exact mt ShotModel.isHold_iff.mpr hhold

end Loop

theorem computes_statistics (reportDatas : List ReportModel) {shots : List ShotModel}
    (hrange : ∀ shot ∈ shots, shot.InRange) : (statistics reportDatas shots).Computes shots := by
  have hcounts : (shots.foldl Loop.body ⟨{ reportDatas := reportDatas }, 0, 0⟩).Counts shots := by
    induction shots using List.reverseRecOn with
    | nil =>
      have hempty := fun p : ShotModel → Bool => isLongestBlock_nil p
      constructor
      . exact ⟨rfl, ⟨0, rfl, hempty _⟩, ⟨0, rfl, hempty _⟩, rfl, rfl, rfl, rfl, rfl⟩
      . rw [trailing_nil]
        rfl
      . rw [trailing_nil]
        rfl
    | append_singleton shots item ih =>
      rw [List.foldl_append]
      apply Loop.Counts.body
      . exact ih fun shot hshot => hrange shot (List.mem_append_left _ hshot)
      . exact hrange item (by simp)
  exact hcounts.toComputes

/-! ## The screen as a whole -/

theorem Loop.body_reportDatas (loop : Loop) (item : ShotModel)
    : (loop.body item).controller.reportDatas = loop.controller.reportDatas := by
  unfold body countColor
  split_ifs <;> rfl

theorem statistics_reportDatas (reportDatas : List ReportModel) (shots : List ShotModel)
    : (statistics reportDatas shots).reportDatas = reportDatas := by
  unfold statistics
  induction shots using List.reverseRecOn with
  | nil => rfl
  | append_singleton shots item ih =>
    rw [List.foldl_append]
    exact (Loop.body_reportDatas _ item).trans ih

theorem setupDatas_reportDatas (controller : ReportDetailsViewController)
    (localDataService : RealmDataService)
    : (controller.setupDatas localDataService).reportDatas = controller.reportDatas := by
  rw [setupDatas_eq]
  exact statistics_reportDatas controller.reportDatas _

theorem setupDatas_congr {controller controller' : ReportDetailsViewController}
    (h : controller'.reportDatas = controller.reportDatas) (localDataService : RealmDataService)
    : controller'.setupDatas localDataService = controller.setupDatas localDataService := by
  rw [setupDatas_eq, setupDatas_eq, h]

theorem Computes.count {controller : ReportDetailsViewController} {shots : List ShotModel}
    (h : controller.Computes shots) (hrange : ∀ shot ∈ shots, shot.InRange)
    : controller.holdCount + controller.leftMissCount + controller.rightMissCount = shots.length
        ∧ controller.missSingleColorCount + controller.missMixColorCount
          = controller.leftMissCount + controller.rightMissCount := by
  rw [h.holdCount, h.leftMissCount, h.rightMissCount, h.missSingleColorCount, h.missMixColorCount]
  clear h
  induction shots with
  | nil => exact ⟨rfl, rfl⟩
  | cons shot shots ih =>
    obtain ⟨hlength, hmisses⟩ := ih fun shot' hshot' => hrange shot' (List.mem_cons_of_mem _ hshot')
    have hshot := hrange shot List.mem_cons_self
    have hball := hshot.ballNumber
    have hresult := hshot.result
    simp only [List.countP_cons, List.length_cons]
    simp only [ShotModel.isHold_iff, ShotModel.isLeftMiss_iff, ShotModel.isRightMiss_iff,
      ShotModel.isSingleColorMiss_iff, ShotModel.isMixColorMiss_iff]
    constructor <;> split_ifs <;> omega

/-! ### The marks in the last row -/

def mark (shot : ShotModel) : Char := if shot.isHold then 'o' else 'x'

theorem resultText_marks (shots : List ShotModel)
    : (resultText shots).toList.filter (fun c => c ≠ ' ')
        = "Kếtquả:".toList ++ shots.map mark := by
  unfold resultText
  induction shots using List.reverseRecOn with
  | nil => decide
  | append_singleton shots item ih =>
    rw [List.foldl_append, List.foldl_cons, List.foldl_nil, List.map_append, ← List.append_assoc,
      ← ih]
    split
    . next hresult =>
      have hmark : mark item = 'o' := if_pos (ShotModel.isHold_iff.mpr hresult)
      rw [List.map_singleton, hmark, String.toList_append, List.filter_append]
      rfl
    . next hresult =>
      have hmark : mark item = 'x' := if_neg (mt ShotModel.isHold_iff.mp hresult)
      rw [List.map_singleton, hmark, String.toList_append, List.filter_append]
      rfl

theorem resultText_longestBlock {shots : List ShotModel} {n : Nat}
    (h : IsLongestBlock ShotModel.isHold shots n)
    : IsLongestBlock (fun c => c = 'o') ((resultText shots).toList.filter fun c => c ≠ ' ') n := by
  rw [resultText_marks]
  apply IsLongestBlock.append_left
  . apply h.map
    intro shot
    unfold mark
    cases shot.isHold <;> rfl
  . simp

/-! ### The whole screen -/

structure Regular (localDataService : RealmDataService) : Prop where
  inRange : ∀ shot ∈ localDataService.realm.shots.rows, shot.InRange
  distinct : ∀ shot ∈ localDataService.realm.shots.rows,
    ∀ shot' ∈ localDataService.realm.shots.rows, shot.time = shot'.time → shot = shot'

variable {localDataService : RealmDataService}

def shotsInOrder (localDataService : RealmDataService) (reportDatas : List ReportModel)
    : List ShotModel :=
  sortedBy ShotModel.time (localDataService.getShotDatas (reportDatas.map ReportModel.id))

theorem mem_shotsInOrder {reportDatas : List ReportModel} {shot : ShotModel}
    : shot ∈ shotsInOrder localDataService reportDatas
        ↔
      shot ∈ localDataService.realm.shots.rows
        ∧ ∃ report ∈ reportDatas, shot.reportID = report.id := by
  unfold shotsInOrder
  rw [(sortedBy_perm _ _).mem_iff, RealmDataService.mem_getShotDatas, List.mem_map]
  simp only [eq_comm]

theorem Regular.getShotDatas (h : Regular localDataService) (reportIDs : List String)
    : ∀ shot ∈ localDataService.getShotDatas reportIDs,
        ∀ shot' ∈ localDataService.getShotDatas reportIDs, shot.time = shot'.time → shot = shot' := by
  intro shot hshot shot' hshot'
  exact h.distinct shot (RealmDataService.mem_getShotDatas.mp hshot).1 shot'
    (RealmDataService.mem_getShotDatas.mp hshot').1

theorem Regular.pairwise (h : Regular localDataService) (reportDatas : List ReportModel)
    : (shotsInOrder localDataService reportDatas).Pairwise
        fun shot shot' => shot.time < shot'.time :=
  pairwise_lt_sortedBy (localDataService.nodup_getShotDatas _) (h.getShotDatas _)

theorem Regular.computes (h : Regular localDataService)
    (controller : ReportDetailsViewController)
    : (controller.setupDatas localDataService).Computes
        (shotsInOrder localDataService controller.reportDatas) := by
  have hcomputes : (statistics controller.reportDatas
      (shotsInOrder localDataService controller.reportDatas)).Computes
        (shotsInOrder localDataService controller.reportDatas) := by
    apply computes_statistics
    intro shot hshot
    exact h.inRange shot (mem_shotsInOrder.mp hshot).1
  rw [setupDatas_eq]
  exact { hcomputes with }

theorem Regular.setupDatas_rank (h : Regular localDataService)
    (controller : ReportDetailsViewController) (rank : String → Nat)
    : controller.setupDatas { localDataService with rank := rank }
        = controller.setupDatas localDataService := by
  have hshots : shotsInOrder { localDataService with rank := rank } controller.reportDatas
      = shotsInOrder localDataService controller.reportDatas := by
    apply eq_sortedBy _ (pairwise_sortedBy _ _) (h.getShotDatas _)
    apply (sortedBy_perm _ _).trans
    unfold RealmDataService.getShotDatas
    apply List.Perm.filter
    exact (Table.list_perm _ rank).trans (Table.list_perm _ localDataService.rank).symm
  rw [setupDatas_eq, setupDatas_eq]
  unfold shotsInOrder at hshots
  simp only [hshots]

/--
The screen shows the selected shots in the order of their times, and numbers that agree with them.
-/
theorem setupDatas_statistics {controller : ReportDetailsViewController}
    (h : Regular localDataService)
    : ∃ shots : List ShotModel,
        (controller.setupDatas localDataService).shotResult = some shots
          ∧ shots.Pairwise (fun shot shot' => shot.time < shot'.time)
          ∧ (∀ shot, shot ∈ shots
              ↔
            shot ∈ localDataService.realm.shots.rows
              ∧ ∃ report ∈ controller.reportDatas, shot.reportID = report.id)
          ∧ (controller.setupDatas localDataService).Computes shots
          ∧ (controller.setupDatas localDataService).holdCount
              + (controller.setupDatas localDataService).leftMissCount
              + (controller.setupDatas localDataService).rightMissCount = shots.length
          ∧ (controller.setupDatas localDataService).missSingleColorCount
              + (controller.setupDatas localDataService).missMixColorCount
            = (controller.setupDatas localDataService).leftMissCount
              + (controller.setupDatas localDataService).rightMissCount
          ∧ (∀ percent, ∃ n : Nat, (controller.setupDatas localDataService).longestHold = n
              ∧ IsLongestBlock (fun c => c = 'o')
                (((controller.setupDatas localDataService).cellForRowAt percent 6).toList.filter
                  fun c => c ≠ ' ') n)
          ∧ (controller.setupDatas localDataService).setupDatas localDataService
            = controller.setupDatas localDataService
          ∧ ∀ rank, controller.setupDatas { localDataService with rank := rank }
            = controller.setupDatas localDataService := by
  have hshots : (controller.setupDatas localDataService).shotResult
      = some (shotsInOrder localDataService controller.reportDatas) := by
    rw [setupDatas_eq]
    rfl
  have hcomputes := h.computes controller
  have hcount := hcomputes.count fun shot hshot => h.inRange shot (mem_shotsInOrder.mp hshot).1
  refine ⟨_, hshots, h.pairwise _, fun shot => mem_shotsInOrder, hcomputes, hcount.1, hcount.2, ?_,
    setupDatas_congr (setupDatas_reportDatas controller localDataService) localDataService,
    h.setupDatas_rank controller⟩
  intro percent
  obtain ⟨n, hn, hlongest⟩ := hcomputes.longestHold
  refine ⟨n, hn, ?_⟩
  unfold cellForRowAt
  rw [hshots]
  exact resultText_longestBlock hlongest

def sampleService : RealmDataService where
  realm :=
    (Realm.empty.addModified (.object (.shot
        { id := "a", ballNumber := 3, result := 2, technicallyShot := 1, time := 20,
          reportID := "r" }))).addModified
      (.object (.shot
        { id := "b", ballNumber := 9, result := 4, technicallyShot := 0, time := 10,
          reportID := "r" }))
  rank := fun _ => 0
  verdicts := []

theorem sampleService_regular : Regular sampleService := by
  have hrows : ∀ shot ∈ sampleService.realm.shots.rows,
      (shot.id = "a" ∧ shot.ballNumber = 3 ∧ shot.result = 2 ∧ shot.time = 20)
        ∨ (shot.id = "b" ∧ shot.ballNumber = 9 ∧ shot.result = 4 ∧ shot.time = 10) := by
    decide
  constructor
  . intro shot hshot
    have := hrows shot hshot
    constructor <;> omega
  . intro shot hshot shot' hshot' htime
    apply Table.eq_of_mem_rows hshot hshot'
    cases hrows shot hshot with
    | inl h =>
      cases hrows shot' hshot' with
      | inl h' => rw [h.1, h'.1]
      | inr h' =>
        rw [h.2.2.2, h'.2.2.2] at htime
        cases htime
    | inr h =>
      cases hrows shot' hshot' with
      | inl h' =>
        rw [h.2.2.2, h'.2.2.2] at htime
        cases htime
      | inr h' => rw [h.1, h'.1]

theorem setupDatas_statistics_two_shots
    : ∃ shots : List ShotModel,
        (ReportDetailsViewController.setupDatas { reportDatas := [{ id := "r", time := 0 }] }
            sampleService).shotResult = some shots
          ∧ (ReportDetailsViewController.setupDatas { reportDatas := [{ id := "r", time := 0 }] }
            sampleService).Computes shots
          ∧ ∃ shot ∈ shots, shot.isHold := by
  obtain ⟨shots, hshots, -, hmem, hcomputes, -⟩ :=
    @setupDatas_statistics sampleService { reportDatas := [{ id := "r", time := 0 }] }
      sampleService_regular
  have hstored : ∃ shot ∈ sampleService.realm.shots.rows, shot.reportID = "r" ∧ shot.isHold := by
    decide
  obtain ⟨shot, hrow, hreport, hhold⟩ := hstored
  exact ⟨shots, hshots, hcomputes, shot,
    (hmem shot).mpr ⟨hrow, _, List.mem_singleton_self _, hreport⟩, hhold⟩

end ReportDetailsViewController
