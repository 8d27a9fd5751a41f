import Mathlib.Logic.Function.Basic
import CaptainCue.Shot.Editing

/-!
This module contains the cells of the shot editor: the rows of the mistakes with their checkboxes
and the balls, of which those on the screen are configured, reused and toggled one by one.
-/

def MistakeType.rawValue : MistakeType → String
  | no1 => "Không tĩnh"
  | no2 => "Ngọn ngắn"
  | no3 => "Ngọn dài"
  | no4 => "Ngắm sai"
  | no5 => "Ra lệch"
  | no6 => "Rút lệch"
  | no7 => "Không dừng"
  | no8 => "Không xác định"

namespace M13Checkbox

inductive CheckState where
  | unchecked | checked | mixed
  deriving DecidableEq

end M13Checkbox

inductive UIColor where
  -- those that the cells use
  | clear | white | lightGray | systemBlue
  deriving DecidableEq

structure MistakeTableViewCell where
  -- `lbMistake.text`, and `checkState` and `tintColor` of `ckbMistake`
  text : String
  checkState : M13Checkbox.CheckState
  tintColor : UIColor
  deriving DecidableEq

namespace MistakeTableViewCell

def configView (cell : MistakeTableViewCell) (index : Fin MistakeType.allCases.length)
    (isSelected : Bool) : MistakeTableViewCell :=
  let cell := { cell with text := (MistakeType.allCases.get index).rawValue }
  let cell := { cell with checkState := if isSelected then .checked else .unchecked }
  { cell with tintColor := .systemBlue }

def configDisabledView (cell : MistakeTableViewCell) (index : Fin MistakeType.allCases.length)
    : MistakeTableViewCell :=
  let cell := { cell with text := (MistakeType.allCases.get index).rawValue }
  { cell with checkState := .mixed, tintColor := .lightGray }

def cellWasTapped (cell : MistakeTableViewCell) : MistakeTableViewCell :=
  match cell.checkState with
  | .unchecked => { cell with checkState := .checked }
  | .checked => { cell with checkState := .unchecked }
  | .mixed => cell

end MistakeTableViewCell

structure BallCollectionViewCell where
  -- the name of `imvBall.image`, and `backgroundColor` and `alpha` of `imvFaded`
  image : Option String
  backgroundColor : UIColor
  alpha : Rat
  deriving DecidableEq

namespace BallCollectionViewCell

def fromNib : BallCollectionViewCell where
  image := some "Ball1"
  backgroundColor := .clear
  alpha := 1

def configViewsSelected (cell : BallCollectionViewCell) (ballNumber : Int) (isSelected : Bool)
    : BallCollectionViewCell :=
  -- `configViews(ballNumber:isSelected:)`
  let cell := if isSelected then { cell with backgroundColor := .clear } else cell
  { cell with image := some s!"Ball{ballNumber}" }

def configViewsNotSelected (cell : BallCollectionViewCell) (ballNumber : Int)
    (isNotSelected : Bool) : BallCollectionViewCell :=
  -- `configViews(ballNumber:isNotSelected:)`
  let cell :=
    if isNotSelected then { cell with backgroundColor := .white, alpha := 7 / 10 } else cell
  { cell with image := some s!"Ball{ballNumber}" }

def prepareForReuse (cell : BallCollectionViewCell) : BallCollectionViewCell :=
  { cell with image := none, backgroundColor := .clear }

def dequeue (reused : Option BallCollectionViewCell) : BallCollectionViewCell :=
  -- A cell from the queue is prepared first. There may be none, and then a new one is made.
  match reused with
  | some cell => cell.prepareForReuse
  | none => fromNib

def IsFaded (cell : BallCollectionViewCell) : Prop :=
  cell.backgroundColor = .white ∧ cell.alpha = 7 / 10
  deriving Decidable

end BallCollectionViewCell

namespace CreateNewShotViewController

theorem numberOfRows_lt : numberOfRows < MistakeType.allCases.length := by
  decide

def cellForRowAt (controller : CreateNewShotViewController) (row : Fin numberOfRows)
    (cell : MistakeTableViewCell) : MistakeTableViewCell :=
  let index := row.castLE numberOfRows_lt.le
  if controller.isMistakeDisabled then
    cell.configDisabledView index
  else if controller.mistakeDict.lookup (row : Int) = some true then
    cell.configView index true
  else
    cell.configView index false

def cellForItemAt (controller : CreateNewShotViewController) (item : Nat)
    (cell : BallCollectionViewCell) : BallCollectionViewCell :=
  let isSelected := decide ((item : Int) = controller.selectedIndex)
  if isSelected then
    cell.configViewsSelected (item + 1) isSelected
  else if controller.selectedIndex ≥ 0 then
    cell.configViewsNotSelected (item + 1) true
  else
    cell.configViewsSelected (item + 1) isSelected

end CreateNewShotViewController

structure CreateNewShotView where
  controller : CreateNewShotViewController
  -- `tbvMistakes.cellForRow(at:)` and `clsvBall.cellForItem(at:)`: the cells on the screen
  mistakeCells : Fin CreateNewShotViewController.numberOfRows → Option MistakeTableViewCell
  ballCells : Nat → Option BallCollectionViewCell

namespace CreateNewShotView

open Constants.CreateNewShotVC CreateNewShotViewController

def opened (reportData : ReportModel) (shotResult : Option ShotModel) : CreateNewShotView where
  controller := (CreateNewShotViewController.opened reportData shotResult).viewDidLoad
  mistakeCells := fun _ => none
  ballCells := fun _ => none

structure Dequeued where
  -- What `dequeueReusableCell` finds for the rows and the items that are made again: any cells.
  mistake : Fin numberOfRows → MistakeTableViewCell
  ball : Nat → Option BallCollectionViewCell

def reloadMistakes (view : CreateNewShotView) (dequeued : Dequeued) : CreateNewShotView :=
  -- `tbvMistakes.reloadData()`, which makes the cells on the screen again
  { view with
    mistakeCells := fun row =>
      (view.mistakeCells row).map fun _ => view.controller.cellForRowAt row (dequeued.mistake row)
  }

def reloadBalls (view : CreateNewShotView) (dequeued : Dequeued) : CreateNewShotView :=
  -- `clsvBall.reloadData()`
  { view with
    ballCells := fun item =>
      (view.ballCells item).map fun _ =>
        view.controller.cellForItemAt item (.dequeue (dequeued.ball item))
  }

def cellWasTapped (view : CreateNewShotView) (item : Nat) : CreateNewShotView :=
  { view with
    mistakeCells := fun row =>
      if row = item then
        (view.mistakeCells row).map MistakeTableViewCell.cellWasTapped
      else
        view.mistakeCells row
  }

def handled (view : CreateNewShotView) (dequeued : Dequeued)
    : CreateNewShotViewController.Event → CreateNewShotView
  -- What the handlers do to the cells, after they have changed the controller.
  | .item _ => view.reloadBalls dequeued
  | .segment _ => view
  | .switch _ => view.reloadMistakes dequeued
  | .row row => view.cellWasTapped row

inductive Event where
  | tap (event : CreateNewShotViewController.Event) (dequeued : Dequeued)
  -- rows and items come onto the screen, with the cells that are dequeued, and leave it
  | displayRow (row : Fin numberOfRows) (cell : MistakeTableViewCell)
  | endDisplayingRow (row : Fin numberOfRows)
  | displayItem (item : Nat) (reused : Option BallCollectionViewCell)
  | endDisplayingItem (item : Nat)

def step (view : CreateNewShotView) : Event → Option CreateNewShotView
  | .tap event dequeued =>
    (CreateNewShotViewController.machine.step view.controller event).map fun controller =>
      { view with controller }.handled dequeued event
  | .displayRow row cell =>
    some { view with
      mistakeCells :=
        Function.update view.mistakeCells row (some (view.controller.cellForRowAt row cell))
    }
  | .endDisplayingRow row =>
    some { view with mistakeCells := Function.update view.mistakeCells row none }
  | .displayItem item reused =>
    if (item : Int) < clsvNumberOfItems then
      some { view with
        ballCells :=
          Function.update view.ballCells item
            (some (view.controller.cellForItemAt item (.dequeue reused)))
      }
    else
      none
  | .endDisplayingItem item =>
    some { view with ballCells := Function.update view.ballCells item none }

def machine : Machine CreateNewShotView Event where
  step := step

end CreateNewShotView

/-! ## Configuring a cell -/

theorem MistakeTableViewCell.configView_cellWasTapped (cell : MistakeTableViewCell)
    (index : Fin MistakeType.allCases.length) (isSelected : Bool)
    : (cell.configView index isSelected).cellWasTapped = cell.configView index (!isSelected) := by
  cases isSelected <;> rfl

theorem BallCollectionViewCell.dequeue_backgroundColor (reused : Option BallCollectionViewCell)
    : (dequeue reused).backgroundColor = .clear := by
  cases reused <;> rfl

namespace CreateNewShotViewController

variable {controller : CreateNewShotViewController}

/--
The row that a dequeued cell has shown before and its state then do not matter.
-/
theorem cellForRowAt_congr (controller : CreateNewShotViewController) (row : Fin numberOfRows)
    (cell cell' : MistakeTableViewCell)
    : controller.cellForRowAt row cell = controller.cellForRowAt row cell' := by
  unfold cellForRowAt
  dsimp only
  split
  . rfl
  . split <;> rfl

theorem cellForRowAt_text (controller : CreateNewShotViewController) (row : Fin numberOfRows)
    (cell : MistakeTableViewCell)
    : (controller.cellForRowAt row cell).text
        = (MistakeType.allCases.get (row.castLE numberOfRows_lt.le)).rawValue := by
  unfold cellForRowAt
  dsimp only
  split
  . rfl
  . split <;> rfl

theorem cellForRowAt_checkState (controller : CreateNewShotViewController)
    (row : Fin numberOfRows) (cell : MistakeTableViewCell)
    : (controller.cellForRowAt row cell).checkState
        =
      if controller.isMistakeDisabled then
        .mixed
      else if controller.mistakeDict.lookup ((row : Nat) : Int) = some true then
        .checked
      else
        .unchecked := by
  unfold cellForRowAt
  dsimp only
  split
  . rfl
  . split <;> rfl

theorem cellForItemAt_image (controller : CreateNewShotViewController) (item : Nat)
    (cell : BallCollectionViewCell)
    : (controller.cellForItemAt item cell).image = some s!"Ball{(item : Int) + 1}" := by
  unfold cellForItemAt
  dsimp only
  split
  . rfl
  . split <;> rfl

theorem cellForItemAt_isFaded_iff (controller : CreateNewShotViewController) (item : Nat)
    (reused : Option BallCollectionViewCell)
    : (controller.cellForItemAt item (.dequeue reused)).IsFaded
        ↔ 0 ≤ controller.selectedIndex ∧ (item : Int) ≠ controller.selectedIndex := by
  have hclear := BallCollectionViewCell.dequeue_backgroundColor reused
  unfold cellForItemAt
  dsimp only
  by_cases hselected : (item : Int) = controller.selectedIndex
  . rw [if_pos (decide_eq_true hselected), BallCollectionViewCell.configViewsSelected,
      if_pos (decide_eq_true hselected)]
    constructor
    . intro h
      cases h.1
    . intro h
      exact absurd hselected h.2
  . rw [if_neg (by simp [hselected])]
    by_cases hchosen : controller.selectedIndex ≥ 0
    . rw [if_pos hchosen]
      exact iff_of_true ⟨rfl, rfl⟩ ⟨hchosen, hselected⟩
    . rw [if_neg hchosen]
      constructor
      . intro h
        have hwhite : (BallCollectionViewCell.dequeue reused).backgroundColor = .white := by
          have hwhite := h.1
          simp only [BallCollectionViewCell.configViewsSelected, hselected, decide_false,
            Bool.false_eq_true, if_false] at hwhite
          exact hwhite
        rw [hclear] at hwhite
        cases hwhite
      . intro h
        exact absurd h.1 hchosen

theorem lookup_didSelectRowAt_iff (controller : CreateNewShotViewController) (row : Nat)
    (item : Int)
    : (controller.didSelectRowAt row).mistakeDict.lookup item = some true
        ↔ if item = row then
            ¬ controller.mistakeDict.lookup item = some true
          else
            controller.mistakeDict.lookup item = some true := by
  unfold didSelectRowAt
  dsimp only
  split
  . next hselected =>
    by_cases heq : item = row
    . cases heq
      rw [if_pos rfl, AList.lookup_erase]
      simp [hselected]
    . rw [AList.lookup_erase_ne heq, if_neg heq]
  . next hselected =>
    by_cases heq : item = row
    . cases heq
      rw [if_pos rfl, AList.lookup_insert]
      simp [hselected]
    . rw [AList.lookup_insert_ne heq, if_neg heq]

theorem step_shotResult {controller' : CreateNewShotViewController} {event : Event}
    (hstep : machine.step controller event = some controller')
    : controller'.shotResult = controller.shotResult := by
  have hstep : step controller event = some controller' := hstep
  cases event with
  | item item =>
    obtain ⟨-, heq⟩ := Option.ite_none_right_eq_some.mp hstep
    cases heq
    rfl
  | segment segment =>
    obtain ⟨-, heq⟩ := Option.ite_none_right_eq_some.mp hstep
    cases heq
    rfl
  | switch isOn =>
    cases hstep
    rfl
  | row row =>
    obtain ⟨-, heq⟩ := Option.ite_none_right_eq_some.mp hstep
    cases heq
    rw [didSelectRowAt_eq]

theorem selected_didSelectRowAt
    (h : ∀ item ∈ controller.mistakeDict, controller.mistakeDict.lookup item = some true)
    {row : Nat} {item : Int} (hitem : item ∈ (controller.didSelectRowAt row).mistakeDict)
    : (controller.didSelectRowAt row).mistakeDict.lookup item = some true := by
  rw [lookup_didSelectRowAt_iff]
  unfold didSelectRowAt at hitem
  dsimp only at hitem
  split at hitem
  . obtain ⟨hne, hmem⟩ := AList.mem_erase.mp hitem
    rw [if_neg hne]
    exact h item hmem
  . next hselected =>
    split
    . next heq =>
      rw [heq]
      exact hselected
    . next hne => exact h item (((AList.mem_insert _).mp hitem).resolve_left hne)

theorem cellForRowAt_didSelectRowAt (h : controller.isMistakeDisabled = false)
    (row row' : Fin numberOfRows) (cell : MistakeTableViewCell)
    : (controller.didSelectRowAt row).cellForRowAt row' cell
        =
      if row' = row then
        (controller.cellForRowAt row' cell).cellWasTapped
      else
        controller.cellForRowAt row' cell := by
  have hdisabled : (controller.didSelectRowAt row).isMistakeDisabled = false := by
    unfold didSelectRowAt
    dsimp only
    split <;> exact h
  have hlookup := lookup_didSelectRowAt_iff controller row row'
  have hcast : ((row' : Nat) : Int) = (row : Nat) ↔ row' = row := by
    rw [Int.natCast_inj, Fin.val_inj]
  unfold cellForRowAt
  dsimp only
  rw [hdisabled, h, if_neg Bool.false_ne_true, if_neg Bool.false_ne_true]
  by_cases heq : row' = row
  . rw [if_pos (hcast.mpr heq)] at hlookup
    rw [if_pos heq]
    by_cases hselected : controller.mistakeDict.lookup ((row' : Nat) : Int) = some true
    . rw [if_pos hselected, if_neg (fun htrue => hlookup.mp htrue hselected)]
      rw [MistakeTableViewCell.configView_cellWasTapped]
      rfl
    . rw [if_neg hselected, if_pos (hlookup.mpr hselected)]
      rw [MistakeTableViewCell.configView_cellWasTapped]
      rfl
  . rw [if_neg (fun hcasted => heq (hcast.mp hcasted))] at hlookup
    rw [if_neg heq]
    simp only [hlookup]

end CreateNewShotViewController

/-! ## What the screen shows -/

namespace CreateNewShotView

open Constants.CreateNewShotVC CreateNewShotViewController

variable {view view' : CreateNewShotView}

/--
Every cell on the screen is as it would be if it were configured now.
-/
structure Shown (view : CreateNewShotView) : Prop where
  disabled : view.controller.isMistakeDisabled = view.controller.isOn
  selected : ∀ item ∈ view.controller.mistakeDict,
    view.controller.mistakeDict.lookup item = some true
  mistakes : ∀ row cell, view.mistakeCells row = some cell →
    cell = view.controller.cellForRowAt row cell
  balls : ∀ item cell, view.ballCells item = some cell →
    (item : Int) < clsvNumberOfItems
      ∧ ∃ reused, cell = view.controller.cellForItemAt item (.dequeue reused)

theorem eq_some_of_update {α β : Type} [DecidableEq α] {cells : α → Option β} {index index' : α}
    {shown : Option β} {cell : β} (h : Function.update cells index shown index' = some cell)
    : (index' = index ∧ shown = some cell) ∨ cells index' = some cell := by
  by_cases heq : index' = index
  . rw [heq, Function.update_self] at h
    exact .inl ⟨heq, h⟩
  . rw [Function.update_of_ne heq] at h
    exact .inr h

theorem handled_shown (h : Shown view) {event : CreateNewShotViewController.Event}
    {controller : CreateNewShotViewController} (dequeued : Dequeued)
    (hstep : CreateNewShotViewController.machine.step view.controller event = some controller)
    : Shown ({ view with controller }.handled dequeued event) := by
  have hstep : CreateNewShotViewController.step view.controller event = some controller := hstep
  cases event with
  | item item =>
    obtain ⟨-, heq⟩ := Option.ite_none_right_eq_some.mp hstep
    cases heq
    refine ⟨h.disabled, h.selected, h.mistakes, ?_⟩
    intro item cell hcell
    obtain ⟨before, hbefore, rfl⟩ := Option.map_eq_some_iff.mp hcell
    exact ⟨(h.balls item before hbefore).1, _, rfl⟩
  | segment segment =>
    obtain ⟨-, heq⟩ := Option.ite_none_right_eq_some.mp hstep
    cases heq
    exact ⟨h.disabled, h.selected, h.mistakes, h.balls⟩
  | switch isOn =>
    cases hstep
    refine ⟨rfl, h.selected, ?_, h.balls⟩
    intro row cell hcell
    obtain ⟨_, -, rfl⟩ := Option.map_eq_some_iff.mp hcell
    exact cellForRowAt_congr _ row _ _
  | row row =>
    obtain ⟨⟨hrow, hhighlight⟩, heq⟩ := Option.ite_none_right_eq_some.mp hstep
    cases heq
    have henabled : view.controller.isMistakeDisabled = false := by
      unfold shouldHighlightRowAt at hhighlight
      simpa using hhighlight
    have hfields := didSelectRowAt_eq view.controller row
    refine ⟨?_, fun item hitem => selected_didSelectRowAt h.selected hitem, ?_, ?_⟩
    . unfold handled cellWasTapped
      dsimp only
      rw [hfields]
      exact h.disabled
    . intro row' cell hcell
      have hconfigured := cellForRowAt_didSelectRowAt henabled ⟨row, hrow⟩ row'
      unfold handled cellWasTapped at hcell ⊢
      dsimp only at hcell hconfigured ⊢
      rw [hconfigured]
      split at hcell
      . next heq =>
        obtain ⟨before, hbefore, rfl⟩ := Option.map_eq_some_iff.mp hcell
        rw [if_pos (Fin.ext heq), cellForRowAt_congr _ row' _ before,
          ← h.mistakes row' before hbefore]
      . next hne =>
        rw [if_neg (fun heq => hne (congrArg Fin.val heq))]
        exact h.mistakes row' cell hcell
    . intro item cell hcell
      obtain ⟨hitem, reused, rfl⟩ := h.balls item cell hcell
      refine ⟨hitem, reused, ?_⟩
      unfold handled cellWasTapped
      dsimp only
      rw [hfields]
      rfl

theorem step_shown (h : Shown view) {event : Event}
    (hstep : machine.step view event = some view') : Shown view' := by
  have hstep : step view event = some view' := hstep
  cases event with
  | tap event dequeued =>
    obtain ⟨controller, hcontroller, rfl⟩ := Option.map_eq_some_iff.mp hstep
    exact handled_shown h dequeued hcontroller
  | displayRow row cell =>
    cases hstep
    refine ⟨h.disabled, h.selected, ?_, h.balls⟩
    intro row' cell' hcell
    cases eq_some_of_update hcell with
    | inl hnew =>
      obtain ⟨rfl, hnew⟩ := hnew
      cases hnew
      exact cellForRowAt_congr _ row' _ _
    | inr hold => exact h.mistakes row' cell' hold
  | endDisplayingRow row =>
    cases hstep
    refine ⟨h.disabled, h.selected, ?_, h.balls⟩
    intro row' cell' hcell
    cases eq_some_of_update hcell with
    | inl hnew => cases hnew.2
    | inr hold => exact h.mistakes row' cell' hold
  | displayItem item reused =>
    obtain ⟨hitem, heq⟩ := Option.ite_none_right_eq_some.mp hstep
    cases heq
    refine ⟨h.disabled, h.selected, h.mistakes, ?_⟩
    intro item' cell' hcell
    cases eq_some_of_update hcell with
    | inl hnew =>
      obtain ⟨rfl, hnew⟩ := hnew
      cases hnew
      exact ⟨hitem, reused, rfl⟩
    | inr hold => exact h.balls item' cell' hold
  | endDisplayingItem item =>
    cases hstep
    refine ⟨h.disabled, h.selected, h.mistakes, ?_⟩
    intro item' cell' hcell
    cases eq_some_of_update hcell with
    | inl hnew => cases hnew.2
    | inr hold => exact h.balls item' cell' hold

theorem opened_shown (reportData : ReportModel) (shotResult : Option ShotModel)
    : Shown (opened reportData shotResult) where
  disabled := by
    cases shotResult <;> rfl
  selected := by
    have hempty : ∀ item ∈ (∅ : AList fun _ : Int => Bool),
        (∅ : AList fun _ : Int => Bool).lookup item = some true := by
      intro item hitem
      exact absurd hitem (AList.notMem_empty item)
    cases shotResult with
    | none => exact hempty
    | some shot => exact lookup_foldl_insert hempty
  mistakes := by
    intro row cell hcell
    cases hcell
  balls := by
    intro item cell hcell
    cases hcell

theorem run_shown (h : Shown view) {events : List Event}
    (hrun : machine.run view events = some view') : Shown view' :=
  Machine.invariant (fun _ _ _ hshown hstep => step_shown hshown hstep) h hrun

theorem handled_controller (view : CreateNewShotView) (dequeued : Dequeued)
    (event : CreateNewShotViewController.Event)
    : (view.handled dequeued event).controller = view.controller := by
  cases event <;> rfl

theorem step_shotResult {event : Event} (hstep : machine.step view event = some view')
    : view'.controller.shotResult = view.controller.shotResult := by
  have hstep : step view event = some view' := hstep
  cases event with
  | tap event dequeued =>
    obtain ⟨controller, hcontroller, rfl⟩ := Option.map_eq_some_iff.mp hstep
    rw [handled_controller]
    exact CreateNewShotViewController.step_shotResult hcontroller
  | displayRow row cell =>
    cases hstep
    rfl
  | endDisplayingRow row =>
    cases hstep
    rfl
  | displayItem item reused =>
    obtain ⟨-, heq⟩ := Option.ite_none_right_eq_some.mp hstep
    cases heq
    rfl
  | endDisplayingItem item =>
    cases hstep
    rfl

theorem run_shotResult {events : List Event} (hrun : machine.run view events = some view')
    : view'.controller.shotResult = view.controller.shotResult := by
  apply Machine.invariant (I := fun now => now.controller.shotResult = view.controller.shotResult)
    _ rfl hrun
  intro now event now' hnow hstep
  exact (step_shotResult hstep).trans hnow

theorem mem_mistakes_iff (h : Shown view) (item : Int)
    : item ∈ sortedBy id view.controller.mistakeDict.keys
        ↔ view.controller.mistakeDict.lookup item = some true := by
  rw [(sortedBy_perm _ _).mem_iff, ← AList.mem_keys]
  constructor
  . exact h.selected item
  . intro hlookup
    rw [← AList.lookup_isSome, hlookup]
    rfl

def submittedMistakes (view : CreateNewShotView) : List Int :=
  if view.controller.isOn = false then sortedBy id view.controller.mistakeDict.keys else []

theorem Shown.mistakeCell (h : Shown view) {row : Fin numberOfRows} {cell : MistakeTableViewCell}
    (hcell : view.mistakeCells row = some cell)
    : cell.text = (MistakeType.allCases.get (row.castLE numberOfRows_lt.le)).rawValue
        ∧ (cell.checkState = .checked ↔ ((row : Nat) : Int) ∈ view.submittedMistakes)
        ∧ (cell.checkState = .mixed ↔ view.controller.isOn = true) := by
  rw [h.mistakes row cell hcell, cellForRowAt_text, cellForRowAt_checkState, h.disabled]
  unfold submittedMistakes
  refine ⟨rfl, ?_⟩
  cases hisOn : view.controller.isOn with
  | true => simp
  | false =>
    rw [if_neg Bool.false_ne_true, if_pos rfl, mem_mistakes_iff h]
    split
    . next hselected => simp [hselected]
    . next hselected => simp [hselected]

theorem Shown.ballCell (h : Shown view) {item : Nat} {cell : BallCollectionViewCell}
    (hcell : view.ballCells item = some cell)
    : (item : Int) < clsvNumberOfItems
        ∧ cell.image = some s!"Ball{(item : Int) + 1}"
        ∧ (cell.IsFaded
            ↔ 0 ≤ view.controller.selectedIndex
                ∧ (item : Int) ≠ view.controller.selectedIndex) := by
  obtain ⟨hitem, reused, rfl⟩ := h.balls item cell hcell
  exact ⟨hitem, cellForItemAt_image _ _ _, cellForItemAt_isFaded_iff _ _ _⟩

/--
What a submit stores is what the screen shows then, and if it stores nothing no ball stands out.
-/
theorem run_submits {reportData : ReportModel} {shotResult : Option ShotModel}
    {events : List Event} (context : SubmitContext)
    (hrun : machine.run (opened reportData shotResult) events = some view)
    : (view.controller.lacksBall = false →
        ∃ shot : ShotModel,
          (∀ manager, view.controller.btnSubmitWasTapped context manager
              =
            match shotResult with
            | some _ => manager.updateObject (.shot shot)
            | none => manager.addObject (.shot shot))
            ∧ shot.result = view.controller.selectedSegmentIndex
            ∧ (∀ row cell, view.mistakeCells row = some cell →
                cell.text = (MistakeType.allCases.get (row.castLE numberOfRows_lt.le)).rawValue
                  ∧ (cell.checkState = .checked ↔ ((row : Nat) : Int) ∈ shot.mistakes)
                  ∧ (cell.checkState = .mixed ↔ shot.technicallyShot = 1))
            ∧ ∀ item cell, view.ballCells item = some cell →
                cell.image = some s!"Ball{(item : Int) + 1}"
                  ∧ (cell.IsFaded ↔ shot.ballNumber ≠ item + 1))
        ∧ (view.controller.lacksBall = true →
            (∀ manager, view.controller.btnSubmitWasTapped context manager = manager)
              ∧ ((∀ item cell, view.ballCells item = some cell → ¬ cell.IsFaded)
                ∨ ∀ item cell, view.ballCells item = some cell → cell.IsFaded)) := by
  have hshown := run_shown (opened_shown reportData shotResult) hrun
  have hshotResult : view.controller.shotResult = shotResult := by
    rw [run_shotResult hrun]
    cases shotResult <;> rfl
  have hlacks : view.controller.lacksBall = true
      ↔ view.controller.selectedIndex < 0 ∨ view.controller.selectedIndex > clsvNumberOfItems - 1 :=
    decide_eq_true_iff
  refine ⟨?_, ?_⟩
  . intro hball
    have hmistakes : ∀ row cell, view.mistakeCells row = some cell →
        cell.text = (MistakeType.allCases.get (row.castLE numberOfRows_lt.le)).rawValue
          ∧ (cell.checkState = .checked ↔ ((row : Nat) : Int) ∈ view.submittedMistakes)
          ∧ (cell.checkState = .mixed ↔ (if view.controller.isOn then 1 else 0 : Int) = 1) := by
      intro row cell hcell
      obtain ⟨htext, hchecked, hmixed⟩ := hshown.mistakeCell hcell
      refine ⟨htext, hchecked, hmixed.trans ?_⟩
      cases view.controller.isOn <;> simp
    have hballs : ∀ item cell, view.ballCells item = some cell →
        cell.image = some s!"Ball{(item : Int) + 1}"
          ∧ (cell.IsFaded ↔ view.controller.selectedIndex + 1 ≠ item + 1) := by
      intro item cell hcell
      obtain ⟨-, himage, hfaded⟩ := hshown.ballCell hcell
      rw [← Bool.not_eq_true, hlacks, not_or] at hball
      refine ⟨himage, hfaded.trans ?_⟩
      omega
    cases shotResult with
    | some old =>
      refine ⟨{ old.copy context.uuidString with
        ballNumber := view.controller.selectedIndex + 1
        result := view.controller.selectedSegmentIndex
        technicallyShot := if view.controller.isOn then 1 else 0
        mistakes := view.submittedMistakes }, ?_, rfl, hmistakes, hballs⟩
      intro manager
      unfold btnSubmitWasTapped
      rw [if_neg (by simp [hball]), hshotResult]
      rfl
    | none =>
      refine ⟨.init context.uuidString (view.controller.selectedIndex + 1)
        view.controller.selectedSegmentIndex (if view.controller.isOn then 1 else 0)
        view.submittedMistakes context.date view.controller.reportData.id, ?_, rfl, hmistakes,
        hballs⟩
      intro manager
      unfold btnSubmitWasTapped
      rw [if_neg (by simp [hball]), hshotResult]
      rfl
  . intro hball
    refine ⟨?_, ?_⟩
    . intro manager
      unfold btnSubmitWasTapped
      rw [if_pos hball]
    . cases hlacks.mp hball with
      | inl hnone =>
        left
        intro item cell hcell hfaded
        have := (hshown.ballCell hcell).2.2.mp hfaded
        omega
      | inr hbeyond =>
        right
        intro item cell hcell
        obtain ⟨hitem, -, hfaded⟩ := hshown.ballCell hcell
        rw [hfaded]
        unfold clsvNumberOfItems at hitem hbeyond
        omega

def sampleEvents : List Event :=
  let used : MistakeTableViewCell := ⟨"Ra lệch", .mixed, .lightGray⟩
  let faded : BallCollectionViewCell := ⟨some "Ball9", .white, 7 / 10⟩
  let dequeued : Dequeued := ⟨fun _ => used, fun _ => some faded⟩
  [.displayRow ⟨2, by decide⟩ used, .displayItem 5 none, .displayItem 7 (some faded),
    .tap (.row 2) dequeued, .tap (.switch true) dequeued, .tap (.switch false) dequeued,
    .tap (.item 5) dequeued]

theorem run_submits_reused_cells
    : ∃ view row faded clear,
        machine.run (opened ⟨"r", "", "", 0⟩ (some sampleEditedShot)) sampleEvents = some view
          ∧ view.mistakeCells ⟨2, by decide⟩ = some row
          ∧ row.checkState = .unchecked
          ∧ view.ballCells 7 = some faded
          ∧ faded.IsFaded
          ∧ view.ballCells 5 = some clear
          ∧ ¬ clear.IsFaded
          ∧ ∃ shot : ShotModel,
              (∀ manager, view.controller.btnSubmitWasTapped ⟨"t", 90⟩ manager
                = manager.updateObject (.shot shot))
                ∧ ¬ 2 ∈ shot.mistakes
                ∧ shot.ballNumber = 6 := by
  have hrun : machine.run (opened ⟨"r", "", "", 0⟩ (some sampleEditedShot)) sampleEvents = some _ :=
    rfl
  obtain ⟨shot, hsubmit, -, hmistakes, hballs⟩ := (run_submits ⟨"t", 90⟩ hrun).1 rfl
  have hball : shot.ballNumber = 6 := by
    have hclear := (hballs 5 _ rfl).2
    by_contra hne
    have hfaded := hclear.mpr hne
    cases hfaded.1
  have hmistake : ¬ 2 ∈ shot.mistakes := by
    intro hmem
    cases (hmistakes ⟨2, by decide⟩ _ rfl).2.1.mpr hmem
  refine ⟨_, _, _, _, hrun, rfl, rfl, rfl, ⟨rfl, rfl⟩, rfl, ?_, shot, hsubmit, hmistake, hball⟩
  intro hfaded
  cases hfaded.1

end CreateNewShotView
