import Mathlib.Tactic.SplitIfs
import CaptainCue.Library.Sorting
import CaptainCue.Service.RealmDataService

/-!
This module contains the statistics of the report screen, which one loop over the shots of the
reports computes in the order of their times.
-/

structure ReportDetailsViewController where
  reportDatas : List ReportModel
  shotResult : Option (List ShotModel) := none
  holdCount : Int := 0
  longestHold : Int := 0
  longestMiss : Int := 0
  technicallyCount : Int := 0
  missSingleColorCount : Int := 0
  missMixColorCount : Int := 0
  leftMissCount : Int := 0
  rightMissCount : Int := 0
  deriving DecidableEq

namespace ReportDetailsViewController

structure Loop where
  controller : ReportDetailsViewController
  tempLongestHold : Int
  tempLongestMiss : Int

namespace Loop

def countColor (loop : Loop) (item : ShotModel) : Loop :=
  if item.result ≠ ResultType.hold.rawValue then
    let loop := { loop with tempLongestHold := 0 }
    if item.ballNumber ≤ 8 ∧ item.ballNumber > 0 then
      { loop with
        controller.missSingleColorCount := loop.controller.missSingleColorCount + 1
      }
    else if item.ballNumber ≤ 15 then
      { loop with
        controller.missMixColorCount := loop.controller.missMixColorCount + 1
      }
    else
      loop
  else
    loop

def countMiss (loop : Loop) : Loop :=
  let tempLongestMiss := loop.tempLongestMiss + 1
  { loop with
    tempLongestMiss := tempLongestMiss
    controller.longestMiss := max loop.controller.longestMiss tempLongestMiss
  }

def countLeftMiss (loop : Loop) : Loop :=
  let loop := loop.countMiss
  { loop with controller.leftMissCount := loop.controller.leftMissCount + 1 }

def countRightMiss (loop : Loop) : Loop :=
  let loop := loop.countMiss
  { loop with controller.rightMissCount := loop.controller.rightMissCount + 1 }

def countHold (loop : Loop) (item : ShotModel) : Loop :=
  let tempLongestHold := loop.tempLongestHold + 1
  { loop with
    controller := { loop.controller with
      holdCount := loop.controller.holdCount + 1
      longestHold := max loop.controller.longestHold tempLongestHold
      technicallyCount :=
        if item.technicallyShot = TechnicallyShotType.technicallyShot.rawValue then
          loop.controller.technicallyCount + 1
        else
          loop.controller.technicallyCount
    }
    tempLongestHold := tempLongestHold
    tempLongestMiss := 0
  }

def body (loop : Loop) (item : ShotModel) : Loop :=
  let loop := loop.countColor item
  if item.result = ResultType.left.rawValue then
    loop.countLeftMiss
  else if item.result = ResultType.leftHold.rawValue then
    loop.countLeftMiss
  else if item.result = ResultType.hold.rawValue then
    loop.countHold item
  else if item.result = ResultType.righHold.rawValue then
    loop.countRightMiss
  else if item.result = ResultType.right.rawValue then
    loop.countRightMiss
  else
    loop

end Loop

def setupDatas (controller : ReportDetailsViewController) (localDataService : RealmDataService)
    : ReportDetailsViewController :=
  let idList := controller.reportDatas.map ReportModel.id
  let shotResult := sortedBy ShotModel.time (localDataService.getShotDatas idList)
  let start : ReportDetailsViewController :=
    { reportDatas := controller.reportDatas, shotResult := some shotResult }
  (shotResult.foldl Loop.body ⟨start, 0, 0⟩).controller

def resultText (shotResult : List ShotModel) : String :=
  shotResult.foldl
    (fun text item => if item.result = ResultType.hold.rawValue then text ++ "o " else text ++ "x ")
    "Kết quả: "

def cellForRowAt (controller : ReportDetailsViewController) (percent : Int → Nat → String)
    (item : Nat) : String :=
  -- The text of the cell. `percent` is the quotient in floating point, times 100, without the
  -- zeros at its end.
  match item with
  | 0 =>
    let text := "Tỷ lệ trúng: " ++ toString controller.holdCount ++ "/"
      ++ toString ((controller.shotResult.map List.length).getD 0)
    if controller.holdCount > 0 then
      text ++ " = "
        ++ percent controller.holdCount ((controller.shotResult.map List.length).getD 1) ++ "%"
    else
      text
  | 1 => "Chuỗi trúng: " ++ toString controller.longestHold
  | 2 => "Chuỗi trượt: " ++ toString controller.longestMiss
  | 3 => "Trúng đúng kỹ thuật: " ++ toString controller.technicallyCount
  | 4 =>
    "Trượt (Khoang/Màu): " ++ toString controller.missMixColorCount ++ "/"
      ++ toString controller.missSingleColorCount
  | 5 =>
    "Tỷ lệ trượt (Trái/Phải): " ++ toString controller.leftMissCount ++ "/"
      ++ toString controller.rightMissCount
  | 6 =>
    match controller.shotResult with
    | some shotResult => resultText shotResult
    | none => "Kết quả: "
  | _ => ""

/-! ## What the loop reads and writes -/

def statistics (reportDatas : List ReportModel) (shots : List ShotModel)
    : ReportDetailsViewController :=
  (shots.foldl Loop.body ⟨{ reportDatas := reportDatas }, 0, 0⟩).controller

namespace Loop

def withShotResult (loop : Loop) (shotResult : Option (List ShotModel)) : Loop :=
  { loop with controller.shotResult := shotResult }

theorem body_withShotResult (loop : Loop) (item : ShotModel) (shotResult : Option (List ShotModel))
    : (loop.withShotResult shotResult).body item = (loop.body item).withShotResult shotResult := by
  unfold body countColor
  split_ifs <;> rfl

theorem foldl_withShotResult (shots : List ShotModel) (loop : Loop)
    (shotResult : Option (List ShotModel))
    : shots.foldl body (loop.withShotResult shotResult)
        = (shots.foldl body loop).withShotResult shotResult := by
  induction shots generalizing loop with
  | nil => rfl
  | cons item shots ih => rw [List.foldl_cons, body_withShotResult, ih, List.foldl_cons]

theorem body_congr {item item' : ShotModel} (hball : item'.ballNumber = item.ballNumber)
    (hresult : item'.result = item.result)
    (htechnically : item'.technicallyShot = item.technicallyShot) (loop : Loop)
    : loop.body item' = loop.body item := by
  simp only [body, countColor, countHold, hball, hresult, htechnically]

end Loop

theorem setupDatas_eq (controller : ReportDetailsViewController)
    (localDataService : RealmDataService)
    : controller.setupDatas localDataService
        =
      let shotResult := sortedBy ShotModel.time
        (localDataService.getShotDatas (controller.reportDatas.map ReportModel.id))
      { statistics controller.reportDatas shotResult with shotResult := some shotResult } := by
  unfold setupDatas statistics
  dsimp only
  generalize sortedBy ShotModel.time
    (localDataService.getShotDatas (controller.reportDatas.map ReportModel.id)) = shots
  have hfold := Loop.foldl_withShotResult shots ⟨{ reportDatas := controller.reportDatas }, 0, 0⟩
    (some shots)
  exact congrArg Loop.controller hfold

theorem statistics_map {f : ShotModel → ShotModel}
    (hball : ∀ shot, (f shot).ballNumber = shot.ballNumber)
    (hresult : ∀ shot, (f shot).result = shot.result)
    (htechnically : ∀ shot, (f shot).technicallyShot = shot.technicallyShot)
    (reportDatas : List ReportModel) (shots : List ShotModel)
    : statistics reportDatas (shots.map f) = statistics reportDatas shots := by
  unfold statistics
  rw [List.foldl_map]
  congr 2
  funext loop item
  exact Loop.body_congr (hball item) (hresult item) (htechnically item) loop

end ReportDetailsViewController
