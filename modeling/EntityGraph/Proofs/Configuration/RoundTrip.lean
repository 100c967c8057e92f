import EntityGraph.Configuration.Reading
import EntityGraph.Proofs.Json.Denoted
import EntityGraph.Proofs.Model.Codec

/-!
# Configurations survive being written

A configuration of the current version is read back from the file it was written to. Its version
is found by the first reading, whatever else it holds, and the second reading finds every field
again, those that were left out included.
-/

namespace EntityGraph

open Json

/-- A join type is read back. -/
theorem JoinType.ofJson?_name (type : JoinType) :
    JoinType.ofJson? (.string type.name) = some type := by
  cases type <;> decide

/-- Fetch settings are read back. -/
theorem FetchSettings.ofJson?_toJson (settings : FetchSettings) :
    FetchSettings.ofJson? settings.toJson = some settings := by
  simp [toJson, ofJson?, fields?, field?, defaulted, bool?, JoinType.ofJson?_name]

theorem FetchSettings.storable_toJson (settings : FetchSettings) (levels : Nat) :
    settings.toJson.Storable (levels + 2) :=
  storable_object (by simp)

namespace Configuration

/-- The version is found in what a configuration is written as. -/
theorem member?_version (configuration : Configuration) :
    configuration.toJson.canonical.member? "version" =
      some (.number (.int configuration.version)) := by
  have distinct : (configuration.toJson.members.map Prod.fst).Nodup := by
    unfold toJson
    split <;> cases configuration.dataFile? <;> simp [members]
  have written : ("version", .number (.int configuration.version)) ∈
      configuration.toJson.members := by
    unfold toJson
    split <;> simp [members]
  rw [member?_canonical, memberDict, (Dict.get?_ofList_eq_some_iff distinct).2 written]
  rfl

/-- A configuration is read back from the value it is written as. -/
theorem ofJson?_toJson {configuration : Configuration}
    (known : configuration.version ≤ greatestVersion) :
    ofJson? configuration.toJson = some configuration := by
  obtain ⟨version, model, settings, dataFile?⟩ := configuration
  have version : version? (.number (.int version)) = some version :=
    if_pos ⟨Int.natCast_nonneg version, Int.ofNat_le.2 known⟩
  by_cases standard : settings = .standard
  · subst standard
    cases dataFile? <;>
      simp [toJson, ofJson?, fields?, field?, required, defaulted, Json.optional, string?, version,
        model.ofJson?_toJson]
  · cases dataFile? <;>
      simp [toJson, ofJson?, fields?, field?, required, defaulted, Json.optional, string?, version,
        model.ofJson?_toJson, settings.ofJson?_toJson, standard]

theorem storable_toJson {configuration : Configuration}
    (known : configuration.version ≤ greatestVersion) (levels : Nat) :
    configuration.toJson.Storable (levels + 8) := by
  have version : (Json.number (.int configuration.version)).Storable (levels + 7) := by
    refine storable_int ?_ (Int.ofNat_le.2 (known.trans (by decide))) (levels + 6)
    exact (Int.neg_nonpos_of_nonneg (by decide)).trans (Int.natCast_nonneg _)
  have model := configuration.model.storable_toJson levels
  have settings := configuration.settings.storable_toJson (levels + 5)
  refine storable_object ?_
  split <;> cases configuration.dataFile? <;> simp [version, model, settings]

/-- A configuration of the current version is read back from the text it is stored as. -/
theorem read_text {configuration : Configuration} (current : configuration.version = currentVersion)
    (path : String) : read path configuration.text = .ok configuration := by
  have known : configuration.version ≤ greatestVersion := by
    rw [current]
    decide
  have parsed : Json.read configuration.text = .ok configuration.toJson :=
    (configuration.storable_toJson known 119).read_pretty
  have expected : isCurrentVersion (.number (.int configuration.version)) = true := by
    rw [current]
    rfl
  simp only [read, parsed, member?_version, expected, if_true, ofJson?_toJson known]
  rfl

/-- A configuration of the current version is read back from the directory it was written to,
whatever happens when a file is accessed. -/
theorem readFrom_written {m : Type → Type} [Monad m] [LawfulMonad m]
    {readFile : String → m (Except FileError String)} (access : m PUnit) {directory : String}
    {configuration : Configuration} (current : configuration.version = currentVersion)
    (written : readFile (joinPath directory fileName) = do
      access
      return .ok configuration.text) :
    readFrom readFile directory = do
      access
      return .ok configuration := by
  have parsed := read_text current (joinPath directory fileName)
  unfold readFrom
  simp only [written, bind_assoc, pure_bind, parsed]

/-- A configuration with an attribute of every kind, settings of its own and a data file. -/
def lending : Configuration where
  version := 1
  model := {
    entities := Dict.ofList [
      ("Book", ⟨"isbn", Dict.ofList [
        ("isbn", ⟨.basic .text, some "printed on the \"back\""⟩),
        ("genre", ⟨.enum "Genre", none⟩),
        ("tags", ⟨.collection (.enum "Genre"), none⟩),
        ("ratings", ⟨.collection (.basic .doublePrecision), some ""⟩),
        ("reader", ⟨.association "Reader" .manyToOne none, some "who has it"⟩)], none⟩),
      ("Reader", ⟨"id", Dict.ofList [
        ("id", ⟨.basic .uuid, none⟩),
        ("description", ⟨.association "Book" .oneToMany (some "reader"), none⟩)],
        some "borrows books"⟩)]
    enumTypes := Dict.ofList [("Genre", ⟨["novel", "poetry"]⟩), ("Unused", ⟨[]⟩)] }
  settings := ⟨false, .inner⟩
  dataFile? := some "books.json"

theorem readFrom_written_lending :
    joinPath "shelf" fileName = "shelf/configuration.json" ∧ lending.version = currentVersion ∧
      readFrom
        (fun path => Id.run <|
          if path = "shelf/configuration.json" then .ok lending.text else .error .notFound)
        "shelf" = (.ok lending : Id _) :=
  have place : joinPath "shelf" fileName = "shelf/configuration.json" := by decide +kernel
  ⟨place, rfl, readFrom_written (pure ⟨⟩) rfl (by rw [place]; rfl)⟩

end Configuration

end EntityGraph
