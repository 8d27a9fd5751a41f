import Mathlib.Data.List.AList
import CaptainCue.Library.Machine
import CaptainCue.Library.Sorting
import CaptainCue.Manager.DataServiceManager

/-!
This module contains the shot editor: the screen on which a new shot is entered or a stored one is
changed.
-/

namespace Constants.CreateNewShotVC

def clsvNumberOfItems : Int := 15

end Constants.CreateNewShotVC

inductive MistakeType where
  | no1 | no2 | no3 | no4 | no5 | no6 | no7 | no8
  deriving DecidableEq

def MistakeType.allCases : List MistakeType := [no1, no2, no3, no4, no5, no6, no7, no8]

namespace ShotModel

def init (uuidString : String) (ballNumber result technicallyShot : Int) (mistakes : List Int)
    (time : Date) (reportID : String) : ShotModel :=
  { id := uuidString, ballNumber, result, technicallyShot, time, reportID, mistakes }

def copy (shot : ShotModel) (uuidString : String) : ShotModel :=
  -- The copy shares the list of mistakes with the original until it gets a list of its own, and
  -- nothing is appended to it before.
  let newObj := init uuidString shot.ballNumber shot.result shot.technicallyShot shot.mistakes
    shot.time shot.reportID
  { newObj with id := shot.id }

end ShotModel

structure CreateNewShotViewController where
  selectedIndex : Int := -1
  reportData : ReportModel
  shotResult : Option ShotModel := none
  mistakeDict : AList fun _ : Int => Bool := ∅
  isMistakeDisabled : Bool := false
  -- `sgmcResult.selectedSegmentIndex` and `swIsTechnically.isOn`, as the storyboard has them
  selectedSegmentIndex : Int := 0
  isOn : Bool := false

structure SubmitContext where
  -- What a submit takes from its surroundings: the `UUID().uuidString` of the shot it makes, and
  -- the value of `Date()`.
  uuidString : String
  date : Date

namespace CreateNewShotViewController

open Constants.CreateNewShotVC

def opened (reportData : ReportModel) (shotResult : Option ShotModel)
    : CreateNewShotViewController :=
  -- what `pushCreateNewShotVC` sets before the screen is shown
  { reportData, shotResult }

def setupViews (controller : CreateNewShotViewController) : CreateNewShotViewController :=
  { controller with selectedSegmentIndex := ResultType.hold.rawValue }

def setupDatas (controller : CreateNewShotViewController) : CreateNewShotViewController :=
  match controller.shotResult with
  | some shotResult =>
    let isOn := decide (shotResult.technicallyShot = 1)
    { controller with
      selectedIndex := shotResult.ballNumber - 1
      mistakeDict := shotResult.mistakes.foldl (fun mistakeDict item => mistakeDict.insert item true) ∅
      selectedSegmentIndex := shotResult.result
      isOn := isOn
      isMistakeDisabled := isOn
    }
  | none => controller

def viewDidLoad (controller : CreateNewShotViewController) : CreateNewShotViewController :=
  controller.setupViews.setupDatas

def lacksBall (controller : CreateNewShotViewController) : Bool :=
  controller.selectedIndex < 0 ∨ controller.selectedIndex > clsvNumberOfItems - 1

def btnSubmitWasTapped (controller : CreateNewShotViewController) (context : SubmitContext)
    (manager : DataServiceManager) : DataServiceManager :=
  if controller.lacksBall then
    manager
  else
    let ballNumber := controller.selectedIndex + 1
    let result := controller.selectedSegmentIndex
    let technicallyShot :=
      if controller.isOn then
        TechnicallyShotType.technicallyShot.rawValue
      else
        TechnicallyShotType.none.rawValue
    let mistakes := if controller.isOn = false then sortedBy id controller.mistakeDict.keys else []
    match controller.shotResult with
    | some shotResult =>
      let newShot := shotResult.copy context.uuidString
      let newShot := { newShot with ballNumber, result, technicallyShot, mistakes }
      manager.updateObject (.shot newShot)
    | none =>
      let shot := ShotModel.init context.uuidString ballNumber result technicallyShot mistakes
        context.date controller.reportData.id
      manager.addObject (.shot shot)

def swTechnicallyShotChangedValue (controller : CreateNewShotViewController) (isOn : Bool)
    : CreateNewShotViewController :=
  { controller with isMistakeDisabled := isOn }

def didSelectItemAt (controller : CreateNewShotViewController) (item : Nat)
    : CreateNewShotViewController :=
  { controller with selectedIndex := item }

def numberOfRows : Nat := MistakeType.allCases.length - 1

def shouldHighlightRowAt (controller : CreateNewShotViewController) : Bool :=
  if controller.isMistakeDisabled then
    false
  else
    true

def didSelectRowAt (controller : CreateNewShotViewController) (item : Nat)
    : CreateNewShotViewController :=
  let isSelected := controller.mistakeDict.lookup (item : Int)
  if isSelected = some true then
    { controller with mistakeDict := controller.mistakeDict.erase item }
  else
    { controller with mistakeDict := controller.mistakeDict.insert item true }

inductive Event where
  -- a ball, a segment of the result, a position of the switch, and a row of the mistakes
  | item (item : Nat)
  | segment (segment : Nat)
  | switch (isOn : Bool)
  | row (row : Nat)
  deriving DecidableEq

def numberOfSegments : Nat := 5

def step (controller : CreateNewShotViewController) : Event → Option CreateNewShotViewController
  | .item item =>
    if (item : Int) < clsvNumberOfItems then
      some (controller.didSelectItemAt item)
    else
      none
  | .segment segment =>
    if segment < numberOfSegments then
      some { controller with selectedSegmentIndex := segment }
    else
      none
  | .switch isOn => some ({ controller with isOn }.swTechnicallyShotChangedValue isOn)
  | .row row =>
    if row < numberOfRows ∧ controller.shouldHighlightRowAt then
      some (controller.didSelectRowAt row)
    else
      none

def machine : Machine CreateNewShotViewController Event where
  step := step

end CreateNewShotViewController
