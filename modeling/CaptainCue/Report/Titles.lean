import CaptainCue.Library.Machine
import CaptainCue.Manager.Convergence
import CaptainCue.Report.ReportManagerViewController

/-!
This module contains the titles of the reports that a user creates and deletes: when the number at
the end of a new title has been given away before.
-/

/-! ## Titles and their numbers -/

def numberedTitle (dateStr : String) (no : Nat) : String :=
  if no < 10 then
    dateStr ++ "_0" ++ toString no
  else
    dateStr ++ "_" ++ toString no

def numberSuffix (no : Nat) : List Char :=
  if no < 10 then
    '0' :: Nat.toDigits 10 no
  else
    Nat.toDigits 10 no

theorem toList_numberedTitle (dateStr : String) (no : Nat)
    : (numberedTitle dateStr no).toList = dateStr.toList ++ '_' :: numberSuffix no := by
  unfold numberedTitle numberSuffix
  split <;> simp [String.toList_append]

theorem underscore_not_mem_numberSuffix (no : Nat) : '_' ∉ numberSuffix no := by
  unfold numberSuffix
  split <;> simp

theorem ofDigitChars_numberSuffix (no : Nat) : Nat.ofDigitChars 10 (numberSuffix no) 0 = no := by
  unfold numberSuffix
  split
  . rw [Nat.ofDigitChars_cons]
    exact Nat.ofDigitChars_ten_toDigits
  . exact Nat.ofDigitChars_ten_toDigits

theorem numberSuffix_injective {no no' : Nat} (h : numberSuffix no = numberSuffix no')
    : no = no' := by
  rw [← ofDigitChars_numberSuffix no, h, ofDigitChars_numberSuffix]

theorem eq_nil_of_append_cons {α : Type} {sep : α} {ys ys' zs : List α} (hys : sep ∉ ys)
    (h : sep :: ys = zs ++ sep :: ys') : zs = [] := by
  cases zs with
  | nil => rfl
  | cons c zs =>
    have htail : ys = zs ++ sep :: ys' := List.tail_eq_of_cons_eq h
    exact absurd (htail ▸ List.mem_append_right zs List.mem_cons_self) hys

theorem append_cons_inj {α : Type} {sep : α} {xs ys xs' ys' : List α} (hys : sep ∉ ys)
    (hys' : sep ∉ ys') (h : xs ++ sep :: ys = xs' ++ sep :: ys') : xs = xs' ∧ ys = ys' := by
  cases List.append_eq_append_iff.mp h with
  | inl hfirst =>
    obtain ⟨zs, rfl, hzs⟩ := hfirst
    cases eq_nil_of_append_cons hys hzs
    exact ⟨(List.append_nil xs).symm, List.tail_eq_of_cons_eq hzs⟩
  | inr hsecond =>
    obtain ⟨zs, rfl, hzs⟩ := hsecond
    cases eq_nil_of_append_cons hys' hzs
    exact ⟨List.append_nil xs', (List.tail_eq_of_cons_eq hzs).symm⟩

/--
The last underscore of a title separates the date from the number, whatever the date looks like.
-/
theorem numberedTitle_inj {dateStr dateStr' : String} {no no' : Nat}
    : numberedTitle dateStr no = numberedTitle dateStr' no' ↔ dateStr = dateStr' ∧ no = no' := by
  constructor
  . intro h
    have hlist := congrArg String.toList h
    rw [toList_numberedTitle, toList_numberedTitle] at hlist
    obtain ⟨hdate, hsuffix⟩ := append_cons_inj (underscore_not_mem_numberSuffix no)
      (underscore_not_mem_numberSuffix no') hlist
    exact ⟨String.toList_inj.mp hdate, numberSuffix_injective hsuffix⟩
  . rintro ⟨rfl, rfl⟩
    rfl

namespace ReportManagerViewController

/-! ## Runs of creations and deletions -/

structure Creation where
  report : ReportModel
  -- the date in the title, and the reports of the day that were stored when it was given
  dateStr : String
  ofTheDay : List ReportModel

structure Session where
  manager : DataServiceManager
  clock : Date
  -- what has been created so far, which nothing in the program reads
  creations : List Creation

inductive Event where
  -- a tap on the button of a new report, and a confirmed delete of the report in a row
  | addNew (context : AddContext)
  | delete (inSection item : Nat)

structure InOrder (clock : Date) (context : AddContext) : Prop where
  componentDate : clock ≤ context.componentDate
  fallbackDate : context.componentDate ≤ context.fallbackDate
  titleDate : context.fallbackDate ≤ context.titleDate
  firstDate : context.titleDate ≤ context.firstDate
  secondDate : context.firstDate ≤ context.secondDate

instance (clock : Date) (context : AddContext) : Decidable (InOrder clock context) :=
  decidable_of_iff
    (clock ≤ context.componentDate ∧ context.componentDate ≤ context.fallbackDate
      ∧ context.fallbackDate ≤ context.titleDate ∧ context.titleDate ≤ context.firstDate
      ∧ context.firstDate ≤ context.secondDate)
    ⟨fun ⟨h₁, h₂, h₃, h₄, h₅⟩ => ⟨h₁, h₂, h₃, h₄, h₅⟩,
      fun ⟨h₁, h₂, h₃, h₄, h₅⟩ => ⟨h₁, h₂, h₃, h₄, h₅⟩⟩

variable (dateFormatter : DateFormatter) (calendar : Calendar)

def reportsOfTheDay (manager : DataServiceManager) (date : Date) : List ReportModel :=
  -- the stored reports that are later than the midnight before `date`
  let midnight := (calendar.date (calendar.dateComponents date)).getD date
  manager.realm.reports.rows.filter fun report => report.time > midnight

def Session.step (session : Session) : Event → Option Session
  | .addNew context =>
    let controller := setupDatas dateFormatter session.manager.localDataService
    if InOrder session.clock context
        ∧ context.uuidString ∉ session.creations.map fun creation => creation.report.id then
      some {
        manager := controller.btnAddNewWasTapped dateFormatter calendar context session.manager
        clock := context.secondDate
        creations := session.creations ++ [{
          report := controller.newReport dateFormatter calendar context
          dateStr := context.titleDate.convertToString dateFormatter "yyyy_MM_dd"
          ofTheDay := reportsOfTheDay calendar session.manager context.componentDate
        }]
      }
    else
      none
  | .delete inSection item =>
    let controller := setupDatas dateFormatter session.manager.localDataService
    (controller.reportData[inSection]?.bind fun reports => reports[item]?).map fun data =>
      { session with manager := session.manager.deleteObject (.report data) }

def machine : Machine Session Event where
  step := Session.step dateFormatter calendar

def Unique (session : Session) : Event → Prop
  | .addNew context =>
    let controller := setupDatas dateFormatter session.manager.localDataService
    ∀ report ∈ session.manager.realm.reports.rows,
      report.title ≠ (controller.newReport dateFormatter calendar context).title
  | .delete _ _ => True

/--
Of the reports of the day that were stored when a report with the same date was created, not exactly
as many have gone as there are newer ones.
-/
def NotBalanced (session : Session) : Event → Prop
  | .addNew context =>
    let stored := reportsOfTheDay calendar session.manager context.componentDate
    ∀ creation ∈ session.creations,
      creation.report ∈ session.manager.realm.reports.rows →
        creation.dateStr = context.titleDate.convertToString dateFormatter "yyyy_MM_dd" →
          (creation.ofTheDay.filter fun report => report ∉ stored).length
            ≠ (stored.filter fun report => report ∉ creation.ofTheDay).length
  | .delete _ _ => True

def StartOfDay : Prop :=
  ∀ now, ∃ midnight, calendar.date (calendar.dateComponents now) = some midnight
    ∧ midnight ≤ now ∧ midnight.day dateFormatter = now.day dateFormatter

/-! ## The number of a new report -/

variable {dateFormatter calendar} {manager : DataServiceManager} {session session' : Session}

theorem length_filter_head? {localDataService : RealmDataService} {p : ReportModel → Bool}
    (hback : NeverGoesBack (Date.day dateFormatter))
    (hday : ∀ report ∈ localDataService.realm.reports.rows,
      ∀ report' ∈ localDataService.realm.reports.rows, p report → report.time ≤ report'.time →
        dayOf dateFormatter report' = dayOf dateFormatter report)
    : ((setupDatas dateFormatter localDataService).reportData.head?.map fun reports =>
          (reports.filter p).length).getD 0
        = (localDataService.realm.reports.rows.filter p).length := by
  have hsectioned := setupDatas_sectioned dateFormatter localDataService
  have hpairwise := @sections_pairwise dateFormatter localDataService hback
  have hperm : (setupDatas dateFormatter localDataService).reportData.flatten.Perm
      localDataService.realm.reports.rows := by
    rw [hsectioned.flatten]
    exact (sortedBy_perm _ _).trans (Table.list_perm _ _)
  have hnonempty := hsectioned.ne_nil
  rw [← (hperm.filter p).length_eq]
  cases hdata : (setupDatas dateFormatter localDataService).reportData with
  | nil => rfl
  | cons first rest =>
    rw [hdata] at hpairwise hperm hnonempty
    -- whatever is counted lies on the day of the newest report, and so in the first section
    have hrest : rest.flatten.filter p = [] := by
      apply List.filter_eq_nil_iff.mpr
      intro report hreport hp
      obtain ⟨reports, hreports, hmem⟩ := List.mem_flatten.mp hreport
      obtain ⟨newest, hnewest⟩ := List.exists_mem_of_ne_nil first (hnonempty first (by simp))
      obtain ⟨hdiffer, hle⟩ := (List.pairwise_cons.mp hpairwise).1 reports hreports newest hnewest
        report hmem
      have hrow : report ∈ localDataService.realm.reports.rows := by
        rw [← hperm.mem_iff, List.flatten_cons]
        exact List.mem_append_right _ hreport
      have hrow' : newest ∈ localDataService.realm.reports.rows := by
        rw [← hperm.mem_iff, List.flatten_cons]
        exact List.mem_append_left _ hnewest
      exact hdiffer (hday report hrow newest hrow' hp hle)
    rw [List.flatten_cons, List.filter_append, hrest, List.append_nil]
    rfl

theorem newReport_title (hstart : StartOfDay dateFormatter calendar)
    (hback : NeverGoesBack (Date.day dateFormatter)) {context : AddContext}
    (hpast : ∀ report ∈ manager.realm.reports.rows, report.time ≤ context.componentDate)
    : ((setupDatas dateFormatter manager.localDataService).newReport dateFormatter calendar
          context).title
        = numberedTitle (context.titleDate.convertToString dateFormatter "yyyy_MM_dd")
            ((reportsOfTheDay calendar manager context.componentDate).length + 1) := by
  obtain ⟨midnight, hmidnight, hle, hday⟩ := hstart context.componentDate
  have hcount : ((setupDatas dateFormatter manager.localDataService).reportData.head?.map
        fun reports => (reports.filter fun report => report.time > midnight).length).getD 0
      = (reportsOfTheDay calendar manager context.componentDate).length := by
    unfold reportsOfTheDay
    rw [hmidnight]
    apply length_filter_head? hback
    intro report hreport report' hreport' hlater hbefore
    have hlater := of_decide_eq_true hlater
    have hsame {report : ReportModel} (hreport : report ∈ manager.realm.reports.rows)
        (hlater : midnight ≤ report.time) : dayOf dateFormatter report = midnight.day dateFormatter :=
      hback midnight report.time context.componentDate hlater (hpast report hreport) hday
    rw [hsame hreport (le_of_lt hlater), hsame hreport' (le_trans (le_of_lt hlater) hbefore)]
  unfold newReport numberedTitle
  dsimp only
  rw [hmidnight, Option.getD_some, hcount]
  split <;> rfl

/-! ## When a number comes back -/

theorem length_filter_not_mem_eq_iff {α : Type} [DecidableEq α] {l l' : List α} (hl : l.Nodup)
    (hl' : l'.Nodup)
    : (l.filter fun a => a ∉ l').length = (l'.filter fun a => a ∉ l).length
        ↔ l.length = l'.length := by
  have hcommon : (l.filter fun a => a ∈ l').Perm (l'.filter fun a => a ∈ l) := by
    apply (List.perm_ext_iff_of_nodup (hl.filter _) (hl'.filter _)).mpr
    intro a
    simp [and_comm]
  have hlength := l.length_eq_length_filter_add fun a => a ∈ l'
  have hlength' := l'.length_eq_length_filter_add fun a => a ∈ l
  have hcommon := hcommon.length_eq
  simp only [decide_not] at hlength hlength' ⊢
  omega

structure Session.Inv (dateFormatter : DateFormatter) (session : Session) : Prop where
  verdicts : session.manager.verdicts = []
  past : ∀ report ∈ session.manager.realm.reports.rows, report.time ≤ session.clock
  created : ∀ report ∈ session.manager.realm.reports.rows,
    ∃ creation ∈ session.creations, creation.report = report
  titles : ∀ creation ∈ session.creations,
    creation.report.title = numberedTitle creation.dateStr (creation.ofTheDay.length + 1)
  nodup : ∀ creation ∈ session.creations, creation.ofTheDay.Nodup

theorem mem_reports {report : ReportModel}
    : report ∈ manager.realm.reports.rows
        ↔ manager.realm.object .report report.id = some (.report report) := by
  rw [Table.mem_rows, Realm.object_report, Option.map_eq_some_iff]
  simp

theorem rows_addObject_perm (hverdicts : manager.verdicts = []) {report : ReportModel}
    (hnew : ∀ report' ∈ manager.realm.reports.rows, report'.id ≠ report.id)
    : (manager.addObject (.report report)).realm.reports.rows.Perm
        (report :: manager.realm.reports.rows) := by
  have hnone : manager.realm.object .report report.id = none := by
    rw [Realm.object_report, Option.map_eq_none_iff]
    by_contra hfind
    obtain ⟨report', hfind⟩ := Option.ne_none_iff_exists'.mp hfind
    have hid : report'.id = report.id := Table.key_of_find? hfind
    rw [← hid] at hfind
    exact hnew report' (Table.mem_rows.mpr hfind) hid
  have hcons : (report :: manager.realm.reports.rows).Nodup :=
    List.nodup_cons.mpr ⟨fun hmem => hnew report hmem rfl, Table.nodup_rows _⟩
  apply (List.perm_ext_iff_of_nodup (Table.nodup_rows _) hcons).mpr
  intro report'
  rw [List.mem_cons, mem_reports, mem_reports, DataServiceManager.addObject_eq hnone,
    DataServiceManager.saveObject_object hverdicts]
  split
  . next hsame =>
    have hid : report'.id = report.id := hsame.2
    rw [hid, hnone]
    simp [eq_comm]
  . next hother =>
    have hne : report' ≠ report := by
      rintro rfl
      exact hother ⟨rfl, rfl⟩
    simp [hne]

theorem rows_deleteObject_perm (hverdicts : manager.verdicts = []) (report : ReportModel)
    : (manager.deleteObject (.report report)).realm.reports.rows.Perm
        (manager.realm.reports.rows.filter fun report' => report'.id ≠ report.id) := by
  apply (List.perm_ext_iff_of_nodup (Table.nodup_rows _) ((Table.nodup_rows _).filter _)).mpr
  intro report'
  rw [List.mem_filter, mem_reports, mem_reports, DataServiceManager.deleteObject_eq,
    DataServiceManager.deleteAll_object hverdicts, decide_eq_true_iff]
  have hcascade : (∃ item ∈ manager.cascade (.report report),
        (Kind.report, report'.id) = (item.kind, item.id))
      ↔ report'.id = report.id := by
    constructor
    . rintro ⟨item, hitem, heq⟩
      obtain ⟨hkind, hid⟩ := Prod.mk.inj heq
      cases List.mem_append.mp hitem with
      | inl hshot =>
        obtain ⟨shot, -, rfl⟩ := List.mem_map.mp hshot
        cases hkind
      | inr hreport =>
        rw [List.mem_singleton.mp hreport] at hid
        exact hid
    . intro hid
      exact ⟨.report report, List.mem_append_right _ List.mem_cons_self, by rw [hid]; rfl⟩
  split
  . next hgone => simp [hcascade.mp hgone]
  . next hkept => simp [mt hcascade.mpr hkept]

theorem step_addNew {context : AddContext}
    (hstep : (machine dateFormatter calendar).step session (.addNew context) = some session')
    : InOrder session.clock context
        ∧ (∀ creation ∈ session.creations, creation.report.id ≠ context.uuidString)
        ∧ session' = {
            manager := (setupDatas dateFormatter session.manager.localDataService).btnAddNewWasTapped
              dateFormatter calendar context session.manager
            clock := context.secondDate
            creations := session.creations ++ [{
              report := (setupDatas dateFormatter session.manager.localDataService).newReport
                dateFormatter calendar context
              dateStr := context.titleDate.convertToString dateFormatter "yyyy_MM_dd"
              ofTheDay := reportsOfTheDay calendar session.manager context.componentDate
            }]
          } := by
  obtain ⟨⟨horder, huuid⟩, heq⟩ := Option.ite_none_right_eq_some.mp hstep
  refine ⟨horder, ?_, (Option.some.inj heq).symm⟩
  intro creation hcreation hid
  exact huuid (hid ▸ List.mem_map_of_mem hcreation)

theorem step_delete {inSection item : Nat}
    (hstep : (machine dateFormatter calendar).step session (.delete inSection item) = some session')
    : ∃ data, session' = { session with manager := session.manager.deleteObject (.report data) } := by
  obtain ⟨data, -, heq⟩ := Option.map_eq_some_iff.mp hstep
  exact ⟨data, heq.symm⟩

theorem InOrder.clock_le {clock : Date} {context : AddContext} (h : InOrder clock context)
    : clock ≤ context.secondDate :=
  calc
    clock ≤ context.componentDate := h.componentDate
    _ ≤ context.fallbackDate := h.fallbackDate
    _ ≤ context.titleDate := h.titleDate
    _ ≤ context.firstDate := h.firstDate
    _ ≤ context.secondDate := h.secondDate

theorem newReport_time_le {controller : ReportManagerViewController} {clock : Date}
    {context : AddContext} (h : InOrder clock context)
    : (controller.newReport dateFormatter calendar context).time ≤ context.secondDate := by
  unfold newReport
  dsimp only
  split
  . exact le_rfl
  . exact h.secondDate

theorem newReport_id (controller : ReportManagerViewController) (context : AddContext)
    : (controller.newReport dateFormatter calendar context).id = context.uuidString := by
  unfold newReport
  dsimp only
  split <;> rfl

theorem Session.Inv.addNew (hstart : StartOfDay dateFormatter calendar)
    (hback : NeverGoesBack (Date.day dateFormatter)) (h : session.Inv dateFormatter)
    {context : AddContext}
    (hstep : (machine dateFormatter calendar).step session (.addNew context) = some session')
    : session'.Inv dateFormatter := by
  obtain ⟨horder, huuid, rfl⟩ := step_addNew hstep
  let newReport :=
    (setupDatas dateFormatter session.manager.localDataService).newReport dateFormatter calendar context
  have hnew : ∀ report ∈ session.manager.realm.reports.rows, report.id ≠ newReport.id := by
    intro report hreport
    obtain ⟨creation, hcreation, rfl⟩ := h.created report hreport
    rw [newReport_id]
    exact huuid creation hcreation
  have hrows {report : ReportModel} (hreport : report ∈ ((setupDatas dateFormatter
      session.manager.localDataService).btnAddNewWasTapped dateFormatter calendar context
        session.manager).realm.reports.rows)
      : report = newReport ∨ report ∈ session.manager.realm.reports.rows :=
    List.mem_cons.mp ((rows_addObject_perm h.verdicts hnew).mem_iff.mp hreport)
  have hpast : ∀ report ∈ session.manager.realm.reports.rows,
      report.time ≤ context.componentDate := by
    intro report hreport
    exact le_trans (h.past report hreport) horder.componentDate
  refine ⟨?_, ?_, ?_, ?_, ?_⟩
  . exact DataServiceManager.addObject_verdicts h.verdicts _
  . intro report hreport
    cases hrows hreport with
    | inl hreport =>
      rw [hreport]
      exact newReport_time_le horder
    | inr hreport => exact le_trans (h.past report hreport) horder.clock_le
  . intro report hreport
    cases hrows hreport with
    | inl hreport => exact ⟨_, List.mem_append_right _ List.mem_cons_self, hreport.symm⟩
    | inr hreport =>
      obtain ⟨creation, hcreation, heq⟩ := h.created report hreport
      exact ⟨creation, List.mem_append_left _ hcreation, heq⟩
  . intro creation hcreation
    cases List.mem_append.mp hcreation with
    | inl hcreation => exact h.titles creation hcreation
    | inr hcreation =>
      rw [List.mem_singleton.mp hcreation]
      exact newReport_title hstart hback hpast
  . intro creation hcreation
    cases List.mem_append.mp hcreation with
    | inl hcreation => exact h.nodup creation hcreation
    | inr hcreation =>
      rw [List.mem_singleton.mp hcreation]
      exact (Table.nodup_rows _).filter _

theorem Session.Inv.delete (h : session.Inv dateFormatter) {inSection item : Nat}
    (hstep : (machine dateFormatter calendar).step session (.delete inSection item) = some session')
    : session'.Inv dateFormatter := by
  obtain ⟨data, rfl⟩ := step_delete hstep
  have hrows {report : ReportModel}
      (hreport : report ∈ (session.manager.deleteObject (.report data)).realm.reports.rows)
      : report ∈ session.manager.realm.reports.rows :=
    List.mem_of_mem_filter ((rows_deleteObject_perm h.verdicts data).mem_iff.mp hreport)
  refine ⟨?_, ?_, ?_, h.titles, h.nodup⟩
  . exact DataServiceManager.deleteObject_verdicts h.verdicts _
  . intro report hreport
    exact h.past report (hrows hreport)
  . intro report hreport
    exact h.created report (hrows hreport)

theorem Session.Inv.step (hstart : StartOfDay dateFormatter calendar)
    (hback : NeverGoesBack (Date.day dateFormatter)) (h : session.Inv dateFormatter)
    {event : Event} (hstep : (machine dateFormatter calendar).step session event = some session')
    : session'.Inv dateFormatter := by
  cases event with
  | addNew context => exact h.addNew hstart hback hstep
  | delete inSection item => exact h.delete hstep

theorem Session.Inv.unique_iff (hstart : StartOfDay dateFormatter calendar)
    (hback : NeverGoesBack (Date.day dateFormatter)) (h : session.Inv dateFormatter)
    {event : Event} (hstep : (machine dateFormatter calendar).step session event = some session')
    : Unique dateFormatter calendar session event
        ↔ NotBalanced dateFormatter calendar session event := by
  cases event with
  | delete inSection item => exact Iff.rfl
  | addNew context =>
    obtain ⟨horder, -, -⟩ := step_addNew hstep
    have hpast : ∀ report ∈ session.manager.realm.reports.rows,
        report.time ≤ context.componentDate := by
      intro report hreport
      exact le_trans (h.past report hreport) horder.componentDate
    have htitle := newReport_title hstart hback hpast
    have hstored : (reportsOfTheDay calendar session.manager context.componentDate).Nodup :=
      (Table.nodup_rows _).filter _
    unfold Unique NotBalanced
    dsimp only
    rw [htitle]
    constructor
    . intro hunique creation hcreation hrow hdate hbalanced
      apply hunique creation.report hrow
      rw [h.titles creation hcreation, numberedTitle_inj]
      have hlength :=
        (length_filter_not_mem_eq_iff (h.nodup creation hcreation) hstored).mp hbalanced
      exact ⟨hdate, congrArg (· + 1) hlength⟩
    . intro hbalanced report hrow heq
      obtain ⟨creation, hcreation, rfl⟩ := h.created report hrow
      rw [h.titles creation hcreation, numberedTitle_inj] at heq
      apply hbalanced creation hcreation hrow heq.1
      apply (length_filter_not_mem_eq_iff (h.nodup creation hcreation) hstored).mpr
      exact Nat.succ_inj.mp heq.2

/--
No title is given twice as long as deletions and creations do not balance.
-/
theorem unique_iff_notBalanced (hstart : StartOfDay dateFormatter calendar)
    (hback : NeverGoesBack (Date.day dateFormatter)) (hverdicts : manager.verdicts = [])
    (hempty : manager.realm.reports.rows = []) {clock : Date} {events : List Event}
    (hrun : (machine dateFormatter calendar).run ⟨manager, clock, []⟩ events = some session)
    : (machine dateFormatter calendar).Meets (Unique dateFormatter calendar) ⟨manager, clock, []⟩
          events
        ↔
      (machine dateFormatter calendar).Meets (NotBalanced dateFormatter calendar)
        ⟨manager, clock, []⟩ events := by
  have hinv : Session.Inv dateFormatter ⟨manager, clock, []⟩ := by
    refine ⟨hverdicts, ?_, ?_, ?_, ?_⟩
    . rw [hempty]
      intro report hreport
      cases hreport
    . rw [hempty]
      intro report hreport
      cases hreport
    . intro creation hcreation
      cases hcreation
    . intro creation hcreation
      cases hcreation
  apply Machine.meets_congr _ _ hinv hrun
  . intro session event session' h hstep
    exact h.step hstart hback hstep
  . intro session event session' h hstep
    exact h.unique_iff hstart hback hstep

/-! Creations and deletions on the first day -/

def daysCalendar : Calendar where
  dateComponents date := ⟨0, 0, date / 86400⟩
  date component := some (component.day * 86400)

theorem daysCalendar_startOfDay : StartOfDay daysFormatter daysCalendar := by
  intro now
  refine ⟨now / 86400 * 86400, rfl, Int.ediv_mul_le now (by decide), ?_⟩
  unfold Date.day Date.convertToString daysFormatter
  dsimp only
  rw [Int.mul_ediv_cancel _ (by decide)]

def tapAt (date : Date) (uuidString : String) : AddContext :=
  ⟨date, date, date, date, date, uuidString⟩

def firstReport : ReportModel := { id := "a", title := "_01", time := 100 }

def secondReport : ReportModel := { id := "b", title := "_02", time := 200 }

def withFirst : DataServiceManager :=
  DataServiceManager.sampleManager.addObject (.report firstReport)

def withBoth : DataServiceManager := withFirst.addObject (.report secondReport)

def withSecond : DataServiceManager := withBoth.deleteObject (.report firstReport)

theorem withFirst_rows : withFirst.realm.reports.rows.Perm [firstReport] :=
  rows_addObject_perm rfl (by intro report hreport; cases hreport)

theorem withFirst_verdicts : withFirst.verdicts = [] :=
  DataServiceManager.addObject_verdicts rfl _

theorem withBoth_rows : withBoth.realm.reports.rows.Perm [secondReport, firstReport] := by
  apply (rows_addObject_perm withFirst_verdicts _).trans (withFirst_rows.cons secondReport)
  intro report hreport
  rw [withFirst_rows.mem_iff, List.mem_singleton] at hreport
  rw [hreport]
  decide

theorem withSecond_rows : withSecond.realm.reports.rows.Perm [secondReport] :=
  (rows_deleteObject_perm (DataServiceManager.addObject_verdicts withFirst_verdicts _)
    firstReport).trans (withBoth_rows.filter _)

theorem setupDatas_withFirst : setupDatas daysFormatter withFirst.localDataService
    = ⟨[[firstReport]]⟩ := by
  unfold setupDatas
  rw [sortedReports_eq withFirst_rows (by decide)]
  rfl

theorem setupDatas_withBoth : setupDatas daysFormatter withBoth.localDataService
    = ⟨[[secondReport, firstReport]]⟩ := by
  unfold setupDatas
  rw [sortedReports_eq withBoth_rows (by decide)]
  rfl

theorem setupDatas_withSecond : setupDatas daysFormatter withSecond.localDataService
    = ⟨[[secondReport]]⟩ := by
  unfold setupDatas
  rw [sortedReports_eq withSecond_rows (by decide)]
  rfl

theorem setupDatas_sampleManager
    : setupDatas daysFormatter DataServiceManager.sampleManager.localDataService = ⟨[]⟩ := by
  unfold setupDatas
  rw [@sortedReports_eq DataServiceManager.sampleManager.localDataService [] .nil .nil]
  rfl

def repeatingEvents : List Event :=
  [.addNew (tapAt 100 "a"), .addNew (tapAt 200 "b"), .delete 0 1, .addNew (tapAt 300 "c")]

theorem step_addNew_eq {context : AddContext} {newReport : ReportModel}
    {controller : ReportManagerViewController}
    (horder : InOrder session.clock context)
    (huuid : context.uuidString ∉ session.creations.map fun creation => creation.report.id)
    (hsetup : setupDatas dateFormatter session.manager.localDataService = controller)
    (hnew : controller.newReport dateFormatter calendar context = newReport)
    : (machine dateFormatter calendar).step session (.addNew context)
        = some {
            manager := session.manager.addObject (.report newReport)
            clock := context.secondDate
            creations := session.creations ++ [{
              report := newReport
              dateStr := context.titleDate.convertToString dateFormatter "yyyy_MM_dd"
              ofTheDay := reportsOfTheDay calendar session.manager context.componentDate
            }]
          } := by
  subst hsetup hnew
  exact if_pos ⟨horder, huuid⟩

def firstCreation : Creation :=
  ⟨firstReport, "", reportsOfTheDay daysCalendar DataServiceManager.sampleManager 100⟩

def secondCreation : Creation :=
  ⟨secondReport, "", reportsOfTheDay daysCalendar withFirst 200⟩

theorem step_first
    : (machine daysFormatter daysCalendar).step ⟨DataServiceManager.sampleManager, 0, []⟩
        (.addNew (tapAt 100 "a")) = some ⟨withFirst, 100, [firstCreation]⟩ :=
  step_addNew_eq (by decide) (by decide) setupDatas_sampleManager rfl

theorem step_second
    : (machine daysFormatter daysCalendar).step ⟨withFirst, 100, [firstCreation]⟩
        (.addNew (tapAt 200 "b")) = some ⟨withBoth, 200, [firstCreation, secondCreation]⟩ :=
  step_addNew_eq (by decide) (by decide) setupDatas_withFirst rfl

theorem step_delete_first
    : (machine daysFormatter daysCalendar).step ⟨withBoth, 200, [firstCreation, secondCreation]⟩
        (.delete 0 1) = some ⟨withSecond, 200, [firstCreation, secondCreation]⟩ := by
  unfold machine Session.step
  dsimp only
  rw [setupDatas_withBoth]
  rfl

theorem unique_iff_notBalanced_two_reports
    : (machine daysFormatter daysCalendar).Meets (Unique daysFormatter daysCalendar)
          ⟨DataServiceManager.sampleManager, 0, []⟩
          [.addNew (tapAt 100 "a"), .addNew (tapAt 200 "b")]
        ↔
      (machine daysFormatter daysCalendar).Meets (NotBalanced daysFormatter daysCalendar)
        ⟨DataServiceManager.sampleManager, 0, []⟩
        [.addNew (tapAt 100 "a"), .addNew (tapAt 200 "b")] := by
  have hrun₂ := Machine.run_cons_eq_some.mpr ⟨_, step_second, Machine.run_nil _⟩
  have hrun := Machine.run_cons_eq_some.mpr ⟨_, step_first, hrun₂⟩
  exact unique_iff_notBalanced daysCalendar_startOfDay (neverGoesBack_ediv (by decide)) rfl rfl hrun

/--
Two reports of a day, of which the first is deleted before a third is created.
-/
theorem title_repeats
    : ∃ session,
        (machine daysFormatter daysCalendar).run ⟨DataServiceManager.sampleManager, 0, []⟩
            repeatingEvents = some session
          ∧ ¬ (machine daysFormatter daysCalendar).Meets (Unique daysFormatter daysCalendar)
                ⟨DataServiceManager.sampleManager, 0, []⟩ repeatingEvents := by
  have hthird := @step_addNew_eq daysFormatter daysCalendar
    ⟨withSecond, 200, [firstCreation, secondCreation]⟩ (tapAt 300 "c")
    { id := "c", title := "_02", time := 300 } _ (by decide) (by decide) setupDatas_withSecond rfl
  have hrun₄ := Machine.run_cons_eq_some.mpr ⟨_, hthird, Machine.run_nil _⟩
  have hrun₃ := Machine.run_cons_eq_some.mpr ⟨_, step_delete_first, hrun₄⟩
  have hrun₂ := Machine.run_cons_eq_some.mpr ⟨_, step_second, hrun₃⟩
  have hrun := Machine.run_cons_eq_some.mpr ⟨_, step_first, hrun₂⟩
  refine ⟨_, hrun, ?_⟩
  intro hmeets
  have hunique := ((((Machine.meets_cons step_first).mp hmeets).2.2 _ step_second).2 _
    step_delete_first).1
  unfold Unique at hunique
  dsimp only at hunique
  rw [setupDatas_withSecond] at hunique
  exact hunique secondReport (withSecond_rows.mem_iff.mpr List.mem_cons_self) rfl

end ReportManagerViewController
