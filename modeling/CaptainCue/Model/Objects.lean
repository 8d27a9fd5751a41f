import CaptainCue.Model.JSON

/-!
This module contains the reports and shots of the application, with their encoding as documents
and the mapping that decodes them.
-/

namespace Constants

namespace ReportModel

def firebaseCollectionName : String := "Report"

inductive Properties where
  | id | title | desc | time
  deriving DecidableEq

def Properties.rawValue : Properties → String
  | id => "id"
  | title => "title"
  | desc => "desc"
  | time => "time"

end ReportModel

namespace ShotModel

def firebaseCollectionName : String := "Shot"

inductive Properties where
  | id | ballNumber | result | technicallyShot | time | reportID | mistakes
  deriving DecidableEq

def Properties.rawValue : Properties → String
  | id => "id"
  | ballNumber => "ballNumber"
  | result => "result"
  | technicallyShot => "technicallyShot"
  | time => "time"
  | reportID => "reportID"
  | mistakes => "mistakes"

end ShotModel

end Constants

structure InitContext where
  -- What an object that is decoded takes from its surroundings: the `UUID().uuidString` of the new
  -- object, and the values of `Date()` in `init()` and in the two runs of `mapping(map:)`.
  uuidString : String
  initDate : Date
  firstMappingDate : Date
  secondMappingDate : Date

structure ReportModel where
  id : String
  title : String := ""
  desc : String := ""
  time : Date
  deriving DecidableEq, Repr

namespace ReportModel

open Constants.ReportModel in
def getJSONData (report : ReportModel) : JSON :=
  [
    (Properties.id.rawValue, .string report.id),
    (Properties.title.rawValue, .string report.title),
    (Properties.desc.rawValue, .string report.desc),
    (Properties.time.rawValue, .date report.time)
  ]

open Constants.ReportModel in
def mapping (dateFormatter : DateFormatter) (now : Date) (map : JSON) (report : ReportModel)
    : ReportModel where
  id := JSON.assign report.id map Properties.id.rawValue JSONValue.string?
  title := JSON.assign report.title map Properties.title.rawValue JSONValue.string?
  desc := JSON.assign report.desc map Properties.desc.rawValue JSONValue.string?
  time :=
    let timestamp := map.value Properties.time.rawValue JSONValue.timestamp?
    (timestamp.bind (Date.getDateFormatted dateFormatter)).getD now

def initJSON (dateFormatter : DateFormatter) (context : InitContext) (map : JSON)
    : Option ReportModel :=
  -- `init(JSON:)`, which runs `mapping(map:)` once in `init(map:)` and once on the object it
  -- returns.
  let report : ReportModel := { id := context.uuidString, time := context.initDate }
  let report := report.mapping dateFormatter context.firstMappingDate map
  some (report.mapping dateFormatter context.secondMappingDate map)

end ReportModel

inductive ResultType where
  | left | leftHold | hold | righHold | right
  deriving DecidableEq

def ResultType.rawValue : ResultType → Int
  | left => 0
  | leftHold => 1
  | hold => 2
  | righHold => 3
  | right => 4

inductive TechnicallyShotType where
  | none | technicallyShot
  deriving DecidableEq

def TechnicallyShotType.rawValue : TechnicallyShotType → Int
  | none => 0
  | technicallyShot => 1

structure ShotModel where
  id : String
  ballNumber : Int := -1
  result : Int := -1
  technicallyShot : Int := -1
  time : Date
  reportID : String := ""
  mistakes : List Int := []
  deriving DecidableEq, Repr

namespace ShotModel

open Constants.ShotModel in
def getJSONData (shot : ShotModel) : JSON :=
  [
    (Properties.id.rawValue, .string shot.id),
    (Properties.ballNumber.rawValue, .int shot.ballNumber),
    (Properties.result.rawValue, .int shot.result),
    (Properties.technicallyShot.rawValue, .int shot.technicallyShot),
    (Properties.reportID.rawValue, .string shot.reportID),
    (Properties.mistakes.rawValue, .intArray shot.mistakes)
  ]

open Constants.ShotModel in
def mapping (dateFormatter : DateFormatter) (now : Date) (map : JSON) (shot : ShotModel)
    : ShotModel where
  id := JSON.assign shot.id map Properties.id.rawValue JSONValue.string?
  ballNumber := JSON.assign shot.ballNumber map Properties.ballNumber.rawValue JSONValue.int?
  result := JSON.assign shot.result map Properties.result.rawValue JSONValue.int?
  technicallyShot :=
    JSON.assign shot.technicallyShot map Properties.technicallyShot.rawValue JSONValue.int?
  reportID := JSON.assign shot.reportID map Properties.reportID.rawValue JSONValue.string?
  time :=
    let timestamp := map.value Properties.time.rawValue JSONValue.timestamp?
    (timestamp.bind (Date.getDateFormatted dateFormatter)).getD now
  mistakes :=
    -- the list of the object is emptied first, whatever it held
    JSON.assign [] map Properties.mistakes.rawValue JSONValue.intArray?

def initJSON (dateFormatter : DateFormatter) (context : InitContext) (map : JSON)
    : Option ShotModel :=
  let shot : ShotModel := { id := context.uuidString, time := context.initDate }
  let shot := shot.mapping dateFormatter context.firstMappingDate map
  some (shot.mapping dateFormatter context.secondMappingDate map)

end ShotModel

inductive Kind where
  -- The two instances of the type parameter `T: DataServiceObject`.
  | report | shot
  deriving DecidableEq, Repr

namespace Kind

def getRemoteCollectionName : Kind → String
  | report => Constants.ReportModel.firebaseCollectionName
  | shot => Constants.ShotModel.firebaseCollectionName

theorem getRemoteCollectionName_injective : Function.Injective getRemoteCollectionName := by
  intro T U h
  cases T <;> cases U <;> first | rfl | simp [getRemoteCollectionName,
    Constants.ReportModel.firebaseCollectionName, Constants.ShotModel.firebaseCollectionName] at h

@[simp]
theorem getRemoteCollectionName_inj {T U : Kind}
    : T.getRemoteCollectionName = U.getRemoteCollectionName ↔ T = U :=
  getRemoteCollectionName_injective.eq_iff

end Kind

inductive DataServiceObject where
  | report (data : ReportModel)
  | shot (data : ShotModel)
  deriving DecidableEq, Repr

namespace DataServiceObject

def kind : DataServiceObject → Kind
  | report _ => .report
  | shot _ => .shot

def id : DataServiceObject → String
  | report data => data.id
  | shot data => data.id

def getJSONData : DataServiceObject → JSON
  | report data => data.getJSONData
  | shot data => data.getJSONData

def initJSON (dateFormatter : DateFormatter) (context : InitContext) (map : JSON)
    : Kind → Option DataServiceObject
  | .report => (ReportModel.initJSON dateFormatter context map).map report
  | .shot => (ShotModel.initJSON dateFormatter context map).map shot

end DataServiceObject
