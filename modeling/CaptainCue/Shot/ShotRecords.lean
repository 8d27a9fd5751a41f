import CaptainCue.Report.Statistics
import CaptainCue.Shot.ShotDetailsViewController

/-!
This module contains the rows of the list of shots, and how what they say agrees with the numbers of
the report screen, whatever is stored.
-/

def Constants.resultList : List String := ["Trái", "Lắc trái", "Trúng", "Lắc phải", "Phải"]

def ShotModel.getStringResult (shot : ShotModel) : String :=
  if shot.result < 0 ∨ shot.result ≥ Constants.resultList.length then
    ""
  else
    Constants.resultList.getD shot.result.toNat ""

structure ShotRecordTableViewCell where
  -- the name of `imvBall.image`, `lbResult.text` and `lbTime.text`
  image : String
  result : String
  time : String
  deriving DecidableEq

def ShotRecordTableViewCell.configView (dateFormatter : DateFormatter) (data : ShotModel)
    : ShotRecordTableViewCell where
  image := s!"Ball{data.ballNumber}"
  result := data.getStringResult
  time := data.time.convertToString dateFormatter "HH:mm:ss"

namespace ShotDetailsViewController

inductive Cell where
  -- the text of the description, and a shot
  | desc (text : String)
  | record (cell : ShotRecordTableViewCell)
  deriving DecidableEq

def numberOfRows (controller : ShotDetailsViewController) : Nat :=
  if controller.reportDatas.length = 1 then
    (controller.shotResult.map List.length).getD 0 + 1
  else
    (controller.shotResult.map List.length).getD 0

def cellForRowAt (controller : ShotDetailsViewController) (dateFormatter : DateFormatter)
    (item : Nat) : Option Cell :=
  -- `none` stands for the traps: `fatalError()` and an index that is out of range.
  if controller.reportDatas.length > 1 then do
    let shotResult ← controller.shotResult
    let data ← shotResult[item]?
    some (.record (.configView dateFormatter data))
  else
    match controller.reportDatas.head?, item with
    | some data, 0 =>
      let desc := if data.desc.isEmpty then "\"Trống\"" else data.desc
      some (.desc ("Mô tả: " ++ desc))
    | none, 0 => none
    | _, item + 1 => do
      let shotResult ← controller.shotResult
      let data ← shotResult[item]?
      some (.record (.configView dateFormatter data))

def cells (controller : ShotDetailsViewController) (dateFormatter : DateFormatter)
    : List (Option Cell) :=
  (List.range controller.numberOfRows).map (controller.cellForRowAt dateFormatter)

def header (reportDatas : List ReportModel) : List Cell :=
  match reportDatas with
  | [data] => [.desc ("Mô tả: " ++ if data.desc.isEmpty then "\"Trống\"" else data.desc)]
  | _ => []

/-! ## The rows of the list -/

variable {dateFormatter : DateFormatter} {localDataService : RealmDataService}

theorem map_range_getElem? {α β : Type} (f : α → β) (l : List α)
    : ((List.range l.length).map fun item => l[item]?.map f) = (l.map f).map some := by
  apply List.ext_getElem
  . simp
  . intro index hindex _
    have hlt : index < l.length := by simpa using hindex
    simp [List.getElem?_eq_getElem hlt]

def records (dateFormatter : DateFormatter) (localDataService : RealmDataService)
    (reportDatas : List ReportModel) : List ShotRecordTableViewCell :=
  (ReportDetailsViewController.shotsInOrder localDataService reportDatas).map
    (ShotRecordTableViewCell.configView dateFormatter)

theorem cells_eq {controller : ShotDetailsViewController} {shots : List ShotModel}
    (h : controller.shotResult = some shots) (hnil : controller.reportDatas = [] → shots = [])
    : controller.cells dateFormatter
        = (header controller.reportDatas
            ++ (shots.map (ShotRecordTableViewCell.configView dateFormatter)).map
              Cell.record).map some := by
  have hrecords := map_range_getElem?
    (fun data => Cell.record (.configView dateFormatter data)) shots
  have hmap : (shots.map (ShotRecordTableViewCell.configView dateFormatter)).map Cell.record
      = shots.map fun data => Cell.record (.configView dateFormatter data) := List.map_map
  unfold cells numberOfRows
  rw [hmap, List.map_append, ← hrecords, h]
  match hreports : controller.reportDatas with
  | [] =>
    rw [hnil hreports]
    rfl
  | [data] =>
    rw [if_pos List.length_singleton, Option.map_some, Option.getD_some, List.range_succ_eq_map, List.map_cons,
      List.map_map]
    congr 1
    . unfold cellForRowAt
      rw [hreports]
      rfl
    . apply List.map_congr_left
      intro item _
      unfold cellForRowAt
      rw [Function.comp_apply, hreports, h, Option.map_eq_bind]
      rfl
  | _ :: _ :: rest =>
    have hlength : ¬ rest.length + 1 + 1 = 1 := by omega
    rw [List.length_cons, List.length_cons, if_neg hlength]
    apply List.map_congr_left
    intro item _
    unfold cellForRowAt
    rw [hreports, h, List.length_cons, List.length_cons, if_pos (by omega), Option.map_eq_bind]
    rfl

theorem cells_setupDatas (controller : ShotDetailsViewController) (dateFormatter : DateFormatter)
    (localDataService : RealmDataService)
    : (controller.setupDatas dateFormatter localDataService).cells dateFormatter
        = (header controller.reportDatas
            ++ (records dateFormatter localDataService controller.reportDatas).map
              Cell.record).map some := by
  have hshots : (controller.setupDatas dateFormatter localDataService).shotResult
      = some (ReportDetailsViewController.shotsInOrder localDataService controller.reportDatas) := by
    unfold setupDatas
    dsimp only
    split <;> rfl
  have hcells := @cells_eq dateFormatter _ _ hshots
  rw [setupDatas_reportDatas] at hcells
  apply hcells
  intro hnil
  rw [hnil, List.eq_nil_iff_forall_not_mem]
  intro shot hshot
  obtain ⟨-, report, hreport, -⟩ := ReportDetailsViewController.mem_shotsInOrder.mp hshot
  cases hreport

end ShotDetailsViewController

/-! ## The labels and the numbers -/

namespace ShotModel

theorem getStringResult_eq (shot : ShotModel)
    : (shot.getStringResult = "Trúng" ↔ shot.isHold)
        ∧ (shot.getStringResult = "Trái" ∨ shot.getStringResult = "Lắc trái" ↔ shot.isLeftMiss)
        ∧ (shot.getStringResult = "Phải" ∨ shot.getStringResult = "Lắc phải"
            ↔ shot.isRightMiss) := by
  rw [isHold_iff, isLeftMiss_iff, isRightMiss_iff]
  unfold getStringResult
  have hlength : (Constants.resultList.length : Int) = 5 := rfl
  rw [hlength]
  split
  . next hout =>
    refine ⟨iff_of_false (by decide) ?_, iff_of_false (by decide) ?_,
      iff_of_false (by decide) ?_⟩ <;> omega
  . next hin =>
    have hcases : shot.result = 0 ∨ shot.result = 1 ∨ shot.result = 2 ∨ shot.result = 3
        ∨ shot.result = 4 := by
      omega
    rcases hcases with h | h | h | h | h <;> rw [h] <;> decide

end ShotModel

namespace ReportDetailsViewController

theorem foldl_count {α β : Type} {f : α → β → α} {count : α → Int} {p : β → Bool}
    (h : ∀ a b, count (f a b) = count a + if p b then 1 else 0) (l : List β) (a : α)
    : count (l.foldl f a) = count a + l.countP p := by
  induction l generalizing a with
  | nil => simp
  | cons b l ih =>
    rw [List.foldl_cons, ih, h, List.countP_cons]
    split <;> simp [Int.add_comm, Int.add_left_comm]

structure Counters where
  hold : Int
  leftMiss : Int
  rightMiss : Int

def Loop.counters (loop : Loop) : Counters where
  hold := loop.controller.holdCount
  leftMiss := loop.controller.leftMissCount
  rightMiss := loop.controller.rightMissCount

theorem Loop.countColor_counters (loop : Loop) (item : ShotModel)
    : (loop.countColor item).counters = loop.counters := by
  unfold countColor
  split_ifs <;> rfl

theorem Loop.countLeftMiss_counters (loop : Loop)
    : loop.countLeftMiss.counters
        = { loop.counters with leftMiss := loop.counters.leftMiss + 1 } := rfl

theorem Loop.countRightMiss_counters (loop : Loop)
    : loop.countRightMiss.counters
        = { loop.counters with rightMiss := loop.counters.rightMiss + 1 } := rfl

theorem Loop.countHold_counters (loop : Loop) (item : ShotModel)
    : (loop.countHold item).counters = { loop.counters with hold := loop.counters.hold + 1 } := rfl

theorem Loop.body_counters (loop : Loop) (item : ShotModel)
    : (loop.body item).counters
        =
      { hold := loop.counters.hold + if item.isHold then 1 else 0
        leftMiss := loop.counters.leftMiss + if item.isLeftMiss then 1 else 0
        rightMiss := loop.counters.rightMiss + if item.isRightMiss then 1 else 0
      } := by
  simp only [ShotModel.isHold_iff, ShotModel.isLeftMiss_iff, ShotModel.isRightMiss_iff,
    ← loop.countColor_counters item]
  unfold body
  dsimp only
  split
  . next h => simp [h, ResultType.rawValue, countLeftMiss_counters]
  . split
    . next h => simp [h, ResultType.rawValue, countLeftMiss_counters]
    . split
      . next h => simp [h, ResultType.rawValue, countHold_counters]
      . split
        . next h => simp [h, ResultType.rawValue, countRightMiss_counters]
        . split
          . next h => simp [h, ResultType.rawValue, countRightMiss_counters]
          . simp_all [ResultType.rawValue]

theorem counters_statistics (reportDatas : List ReportModel) (shots : List ShotModel)
    : (statistics reportDatas shots).holdCount = shots.countP ShotModel.isHold
        ∧ (statistics reportDatas shots).leftMissCount = shots.countP ShotModel.isLeftMiss
        ∧ (statistics reportDatas shots).rightMissCount = shots.countP ShotModel.isRightMiss := by
  refine ⟨?_, ?_, ?_⟩
  . have hcount := @foldl_count Loop ShotModel Loop.body (fun loop => loop.counters.hold) _
      (fun loop item => congrArg Counters.hold (loop.body_counters item)) shots
    exact (hcount _).trans (Int.zero_add _)
  . have hcount := @foldl_count Loop ShotModel Loop.body (fun loop => loop.counters.leftMiss) _
      (fun loop item => congrArg Counters.leftMiss (loop.body_counters item)) shots
    exact (hcount _).trans (Int.zero_add _)
  . have hcount := @foldl_count Loop ShotModel Loop.body (fun loop => loop.counters.rightMiss) _
      (fun loop item => congrArg Counters.rightMiss (loop.body_counters item)) shots
    exact (hcount _).trans (Int.zero_add _)

theorem countP_records {dateFormatter : DateFormatter} {p : ShotRecordTableViewCell → Bool}
    {q : ShotModel → Bool} {shots : List ShotModel}
    (h : ∀ shot, p (ShotRecordTableViewCell.configView dateFormatter shot) ↔ q shot)
    : (shots.map (ShotRecordTableViewCell.configView dateFormatter)).countP p
        = shots.countP q := by
  rw [List.countP_map]
  apply List.countP_congr
  intro shot _
  exact h shot

open ShotDetailsViewController (header Cell)

/--
What the list says about its shots is what the report screen has counted, whatever the numbers of
the shots are.
-/
theorem setupDatas_agree (details : ReportDetailsViewController)
    (controller : ShotDetailsViewController) (dateFormatter : DateFormatter)
    (localDataService : RealmDataService) (percent : Int → Nat → String)
    : ∃ records : List ShotRecordTableViewCell,
        ({ controller with reportDatas := details.reportDatas }.setupDatas dateFormatter
            localDataService).cells dateFormatter
            = (header details.reportDatas ++ records.map Cell.record).map some
          ∧ (details.setupDatas localDataService).shotResult.map List.length
            = some records.length
          ∧ (details.setupDatas localDataService).holdCount
            = records.countP (fun cell => cell.result = "Trúng")
          ∧ (details.setupDatas localDataService).leftMissCount
            = records.countP (fun cell => cell.result = "Trái" ∨ cell.result = "Lắc trái")
          ∧ (details.setupDatas localDataService).rightMissCount
            = records.countP (fun cell => cell.result = "Phải" ∨ cell.result = "Lắc phải")
          ∧ (details.setupDatas localDataService).cellForRowAt percent 6
            = records.foldl
                (fun text cell => if cell.result = "Trúng" then text ++ "o " else text ++ "x ")
                "Kết quả: " := by
  obtain ⟨hhold, hleft, hright⟩ := counters_statistics details.reportDatas
    (shotsInOrder localDataService details.reportDatas)
  refine ⟨ShotDetailsViewController.records dateFormatter localDataService details.reportDatas,
    ShotDetailsViewController.cells_setupDatas _ _ _, ?_⟩
  rw [setupDatas_eq]
  unfold ShotDetailsViewController.records
  refine ⟨?_, ?_, ?_, ?_, ?_⟩
  . rw [List.length_map]
    rfl
  . rw [countP_records (q := ShotModel.isHold)]
    . exact hhold
    . intro shot
      exact decide_eq_true_iff.trans shot.getStringResult_eq.1
  . rw [countP_records (q := ShotModel.isLeftMiss)]
    . exact hleft
    . intro shot
      exact decide_eq_true_iff.trans shot.getStringResult_eq.2.1
  . rw [countP_records (q := ShotModel.isRightMiss)]
    . exact hright
    . intro shot
      exact decide_eq_true_iff.trans shot.getStringResult_eq.2.2
  . rw [List.foldl_map]
    have hmark (text : String) (shot : ShotModel)
        : (if shot.result = ResultType.hold.rawValue then text ++ "o " else text ++ "x ")
            =
          if (ShotRecordTableViewCell.configView dateFormatter shot).result = "Trúng" then
            text ++ "o "
          else
            text ++ "x " := by
      have hlabel := shot.getStringResult_eq.1.trans ShotModel.isHold_iff
      exact if_congr hlabel.symm rfl rfl
    exact congrFun (congrArg (fun mark => List.foldl mark "Kết quả: ")
      (funext fun text => funext fun shot => hmark text shot)) _

end ReportDetailsViewController
