import CaptainCue.Model.Objects

/-!
This module contains what the mappings read from a document.
-/

namespace JSON

theorem value_stored {cast : JSONValue → Option α} (hcast : ∀ v, cast v.stored = cast v)
    (data : JSON) (key : String) : data.stored.value key cast = data.value key cast := by
  unfold value
  rw [lookup_stored, Option.bind_map]
  congr 1
  funext v
  apply hcast

theorem value_stored_string (data : JSON) (key : String)
    : data.stored.value key JSONValue.string? = data.value key JSONValue.string? := by
  apply value_stored
  intro v
  cases v <;> rfl

end JSON

namespace DataServiceObject

theorem kind_of_initJSON {dateFormatter : DateFormatter} {context : InitContext} {map : JSON}
    {T : Kind} {item : DataServiceObject} (h : initJSON dateFormatter context map T = some item)
    : item.kind = T := by
  unfold initJSON at h
  split at h
  . obtain ⟨report, -, rfl⟩ := Option.map_eq_some_iff.mp h
    rfl
  . obtain ⟨shot, -, rfl⟩ := Option.map_eq_some_iff.mp h
    rfl

theorem id_of_initJSON {map : JSON} {id : String}
    (hid : map.value "id" JSONValue.string? = some id) (dateFormatter : DateFormatter)
    (context : InitContext) (T : Kind)
    : ∃ item, initJSON dateFormatter context map T = some item ∧ item.id = id := by
  cases T with
  | report =>
    refine ⟨_, rfl, ?_⟩
    simp [DataServiceObject.id, ReportModel.mapping, JSON.assign,
      Constants.ReportModel.Properties.rawValue, hid]
  | shot =>
    refine ⟨_, rfl, ?_⟩
    simp [DataServiceObject.id, ShotModel.mapping, JSON.assign,
      Constants.ShotModel.Properties.rawValue, hid]

end DataServiceObject

theorem DataServiceObject.value_id (data : DataServiceObject)
    : data.getJSONData.value "id" JSONValue.string? = some data.id := by
  cases data <;> rfl

/-! A formatter and the surroundings of decoded objects, for concrete runs -/

def sampleFormatter : DateFormatter := ⟨fun _ _ => "", fun _ _ => none⟩

def sampleContext (_ : Nat) : InitContext := ⟨"", 0, 0, 0⟩
