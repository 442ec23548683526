import DeviceModel.Command.Basic
import DeviceModel.Proofs.Catalog.Distinct
import DeviceModel.Proofs.Config.Attributes
import DeviceModel.Proofs.Config.Extension

/-!
# The stages of a command

A command whose model is loaded first installs the catalog, which depends on the declared attributes
only (`Installs`), and then answers (`Answers`). Two of the commands build the declared resources
for this; the others do not look at them (`output_eq_of_question_eq`).

`Concludes` puts the stages in order, and a command comes to what it says (`concludes_iff`). A
command that fails at any stage prints nothing but its error and has the exit code 1
(`report_of_concludes`); `Succeeds` says when it does not. The main statement is
`runArguments_stages`.
-/

namespace DeviceModel

namespace Command

/-! ### Stages -/

/-- What declared attributes come to as a catalog: the first attribute with something wrong, else
the first suffix that repeats, else the built-in attributes followed by those declared. -/
inductive Installs (attributes : List AttributeConfig) : Except Error Catalog → Prop
  | undescribed {e : Error} : Traverses AttributeConfig.Describes attributes (.error e) →
      Installs attributes (.error e)
  | repeated {declared : List Descriptor} {suffix : String} :
      Traverses AttributeConfig.Describes attributes (.ok declared) →
      Catalog.FirstRepeated ((Catalog.builtinAttributes ++ declared).map (·.suffix)) suffix →
      Installs attributes (.error (.duplicateSuffix suffix))
  | installed {declared : List Descriptor} {catalog : Catalog} :
      Traverses AttributeConfig.Describes attributes (.ok declared) →
      catalog.Extends .builtin declared → Installs attributes (.ok catalog)

/-- Whether a command builds the declared resources. -/
def builds : Command → Bool
  | catalog _ _ => false
  | lookup _ _ => false
  | dump _ => true
  | device _ _ => true

/-- Whether the unique id of a resource begins with the given one. -/
def Bears {τ : Type} (uniqueId : String) (resource : Resource τ) : Prop :=
  uniqueId.toList <+: (resource.toText "attr/uniqueid").toList

/-- What a command comes to with a catalog and declared resources. -/
inductive Answers (catalog : Catalog) (resources : List ResourceConfig) :
    Command → Except Failure String → Prop
  /-- One line for each attribute. -/
  | listed {model : Option String} :
      Answers catalog resources (.catalog model false)
        (.ok (String.join (catalog.descriptors.map fun descriptor => descriptor.text ++ "\n")))
  | exported {model : Option String} :
      Answers catalog resources (.catalog model true)
        (.ok ((Json.array (catalog.descriptors.map Descriptor.toJson)).prettyText ++ "\n"))
  | classified {key : String} {model : Option String} {descriptor : Descriptor} :
      catalog.lookup? key = some descriptor →
      Answers catalog resources (.lookup key model) (.ok (descriptor.text ++ "\n"))
  | unclassified {key : String} {model : Option String} : catalog.lookup? key = none →
      Answers catalog resources (.lookup key model) (.error (.noAttribute key))
  /-- The first resource that cannot be built decides the error. -/
  | unbuilt {command : Command} {e : Error} : command.builds →
      Traverses (ResourceConfig.Builds catalog ()) resources (.error e) →
      Answers catalog resources command (.error (.model e))
  /-- One object for each resource, in the order in which they are declared. -/
  | dumped {model : String} {built : List (Resource Unit)} :
      Traverses (ResourceConfig.Builds catalog ()) resources (.ok built) →
      Answers catalog resources (.dump model)
        (.ok ((Json.array (built.map fun resource => .object [
          ("items", resource.toJson.toJson),
          ("prefix", .string resource.path)])).prettyText ++ "\n"))
  /-- The fields of the summary, without those of the identity that it has no text for. -/
  | summarised {uniqueId model : String} {built : List (Resource Unit)} {summary : DeviceSummary} :
      Traverses (ResourceConfig.Builds catalog ()) resources (.ok built) →
      (∃ resource ∈ built, Bears uniqueId resource) →
      DeviceSummary.collect uniqueId built = summary →
      Answers catalog resources (.device uniqueId model)
        (.ok ((Json.object ([("uniqueid", .string uniqueId)] ++
          (summary.manufacturerName.map fun s => ("manufacturername", .string s)).toList ++
          (summary.modelId.map fun s => ("modelid", .string s)).toList ++
          (summary.swVersion.map fun s => ("swversion", .string s)).toList ++
          [("sub", .array (summary.sub.map Json.Members.toJson))])).prettyText ++ "\n"))
  | absent {uniqueId model : String} {built : List (Resource Unit)} :
      Traverses (ResourceConfig.Builds catalog ()) resources (.ok built) →
      (∀ resource ∈ built, ¬ Bears uniqueId resource) →
      Answers catalog resources (.device uniqueId model) (.error (.noDevice uniqueId))

/-- What a command comes to with a configuration, stage by stage. -/
inductive Concludes (config : Config) (command : Command) : Except Failure String → Prop
  | refused {e : Error} : Installs config.attributes (.error e) →
      Concludes config command (.error (.model e))
  | answered {catalog : Catalog} {result : Except Failure String} :
      Installs config.attributes (.ok catalog) → Answers catalog config.resources command result →
      Concludes config command result

/-! ### The stages are what the program does -/

theorem installs_iff {config : Config} {result : Except Error Catalog} :
    Installs config.attributes result ↔ config.descriptors >>= Catalog.builtinWith = result := by
  constructor
  · intro h
    cases h with
    | undescribed wrong => rw [Config.traverses_describes_iff.mp wrong, error_bind]
    | repeated described again =>
      rw [Config.traverses_describes_iff.mp described, ok_bind, Catalog.builtinWith_eq_error_iff]
      exact ⟨_, again, rfl⟩
    | installed described extends' =>
      rw [Config.traverses_describes_iff.mp described, ok_bind, Catalog.builtinWith_eq_ok_iff]
      exact extends'
  · rintro rfl
    cases described : config.descriptors with
    | error e => exact .undescribed (Config.traverses_describes_iff.mpr described)
    | ok declared =>
      have all := Config.traverses_describes_iff.mpr described
      rw [ok_bind]
      cases made : Catalog.builtinWith declared with
      | error e =>
        obtain ⟨suffix, again, rfl⟩ := Catalog.builtinWith_eq_error_iff.mp made
        exact .repeated all again
      | ok catalog => exact .installed all (Catalog.builtinWith_eq_ok_iff.mp made)

/-- No catalog is in use yet when a command installs its own. -/
theorem install_none (declared : List Descriptor) :
    Catalog.install none declared = Catalog.builtinWith declared := by
  rw [Catalog.install]
  cases Catalog.builtinWith declared with
  | error e => rfl
  | ok catalog => rfl

theorem installCatalog_eq (config : Config) :
    installCatalog config =
      (config.descriptors >>= Catalog.builtinWith).mapError Failure.model := by
  rw [installCatalog]
  cases config.descriptors with
  | error e => rfl
  | ok declared =>
    have kept : (Except.ok declared).mapError Failure.model = .ok declared := rfl
    rw [kept, ok_bind, ok_bind, install_none]

theorem isEmpty_sub_collect_iff {τ : Type} {uniqueId : String} {built : List (Resource τ)} :
    (DeviceSummary.collect uniqueId built).sub.isEmpty ↔
      ∀ resource ∈ built, ¬ Bears uniqueId resource := by
  simp [DeviceSummary.collect, DeviceSummary.belongs, Bears, ← Text.startsWith_iff]

section

variable {catalog : Catalog} {config : Config}

theorem answer_of_unbuilt {command : Command} (building : command.builds) {e : Error}
    (unbuilt : Traverses (ResourceConfig.Builds catalog ()) config.resources (.error e)) :
    command.answer catalog config = .error (.model e) := by
  have failed : buildResources catalog config = .error (.model e) := by
    rw [buildResources, ResourceConfig.traverses_builds_iff.mp unbuilt]
    rfl
  cases command with
  | catalog model json => contradiction
  | lookup key model => contradiction
  | dump model =>
    rw [answer, failed]
    rfl
  | device uniqueId model =>
    rw [answer, failed]
    rfl

theorem buildResources_of_ok {built : List (Resource Unit)}
    (all : Traverses (ResourceConfig.Builds catalog ()) config.resources (.ok built)) :
    buildResources catalog config = .ok built := by
  rw [buildResources, ResourceConfig.traverses_builds_iff.mp all]
  rfl

theorem answer_device_of_ok {uniqueId model : String} {built : List (Resource Unit)}
    (all : Traverses (ResourceConfig.Builds catalog ()) config.resources (.ok built)) :
    (device uniqueId model).answer catalog config =
      if (DeviceSummary.collect uniqueId built).sub.isEmpty then .error (.noDevice uniqueId)
      else .ok ((DeviceSummary.collect uniqueId built).toJson.prettyText ++ "\n") := by
  rw [answer, buildResources_of_ok all]
  rfl

theorem listing_eq (catalog : Catalog) :
    listing catalog =
      String.join (catalog.descriptors.map fun descriptor => descriptor.text ++ "\n") := by
  rw [String.join, List.foldl_map]
  rfl

theorem optionalField_eq (key : String) (text : Option String) :
    DeviceSummary.optionalField key text = (text.map fun s => (key, Json.string s)).toList := by
  cases text <;> rfl

/-- The entries of a summary, one after the other. -/
theorem toJson_summary (summary : DeviceSummary) :
    summary.toJson = .object ([("uniqueid", .string summary.uniqueId)] ++
      (summary.manufacturerName.map fun s => ("manufacturername", .string s)).toList ++
      (summary.modelId.map fun s => ("modelid", .string s)).toList ++
      (summary.swVersion.map fun s => ("swversion", .string s)).toList ++
      [("sub", .array (summary.sub.map Json.Members.toJson))]) := by
  rw [DeviceSummary.toJson, optionalField_eq, optionalField_eq, optionalField_eq]
  rfl

theorem answers_answer (catalog : Catalog) (config : Config) (command : Command) :
    Answers catalog config.resources command (command.answer catalog config) := by
  cases command with
  | catalog model json =>
    cases json with
    | false =>
      rw [answer, listing_eq]
      exact .listed
    | true => exact .exported
  | lookup key model =>
    rw [answer]
    cases found : catalog.lookup? key with
    | none => exact .unclassified found
    | some descriptor => exact .classified found
  | dump model =>
    cases result : config.buildResources catalog () with
    | error e =>
      have unbuilt := ResourceConfig.traverses_builds_iff.mpr result
      rw [answer_of_unbuilt rfl unbuilt]
      exact .unbuilt rfl unbuilt
    | ok built =>
      have all := ResourceConfig.traverses_builds_iff.mpr result
      rw [answer, buildResources_of_ok all]
      exact .dumped all
  | device uniqueId model =>
    cases result : config.buildResources catalog () with
    | error e =>
      have unbuilt := ResourceConfig.traverses_builds_iff.mpr result
      rw [answer_of_unbuilt rfl unbuilt]
      exact .unbuilt rfl unbuilt
    | ok built =>
      have all := ResourceConfig.traverses_builds_iff.mpr result
      rw [answer_device_of_ok all]
      split
      next empty => exact .absent all (isEmpty_sub_collect_iff.mp empty)
      next filled =>
        rw [toJson_summary]
        refine .summarised all ?_ rfl
        by_contra h
        apply filled
        rw [isEmpty_sub_collect_iff]
        exact fun resource mem bears => h ⟨resource, mem, bears⟩

theorem answers_iff {command : Command} {result : Except Failure String} :
    Answers catalog config.resources command result ↔ command.answer catalog config = result := by
  constructor
  · intro h
    cases h with
    | listed => exact congrArg Except.ok (listing_eq catalog)
    | exported => rfl
    | classified found =>
      simp only [answer, found]
      rfl
    | unclassified unfound => simp only [answer, unfound]
    | unbuilt building unbuilt => exact answer_of_unbuilt building unbuilt
    | dumped all =>
      rw [answer, buildResources_of_ok all]
      rfl
    | summarised all found collected =>
      subst collected
      obtain ⟨resource, mem, bears⟩ := found
      rw [answer_device_of_ok all, toJson_summary, if_neg]
      · rfl
      · exact fun empty => isEmpty_sub_collect_iff.mp empty resource mem bears
    | absent all others =>
      rw [answer_device_of_ok all, if_pos (isEmpty_sub_collect_iff.mpr others)]
  · rintro rfl
    exact answers_answer catalog config command

end

/-- **A command comes to what its stages say, in their order.** -/
theorem concludes_iff {config : Config} {command : Command} {result : Except Failure String} :
    Concludes config command result ↔ command.output config = result := by
  rw [output, installCatalog_eq]
  constructor
  · intro h
    cases h with
    | refused wrong =>
      rw [installs_iff.mp wrong]
      rfl
    | answered installed answers =>
      rw [installs_iff.mp installed]
      exact answers_iff.mp answers
  · rintro rfl
    cases installed : config.descriptors >>= Catalog.builtinWith with
    | error e => exact .refused (installs_iff.mpr installed)
    | ok catalog =>
      exact .answered (installs_iff.mpr installed) (answers_answer catalog config command)

/-! ### Reports -/

theorem exitCode_of_installs {attributes : List AttributeConfig} {e : Error}
    (h : Installs attributes (.error e)) : (Failure.model e).exitCode = 1 := by
  cases h with
  | undescribed wrong =>
    obtain ⟨declared, _, describes⟩ := exists_mem_of_traverses_error wrong
    rcases describes.error_cases with rfl | rfl <;> rfl
  | repeated _ _ => rfl

/-- Only loading a model can end the program in another way. -/
theorem exitCode_of_concludes {config : Config} {command : Command} {failure : Failure}
    (h : Concludes config command (.error failure)) : failure.exitCode = 1 := by
  cases h with
  | refused wrong => exact exitCode_of_installs wrong
  | answered _ answers =>
    cases answers with
    | unclassified _ => rfl
    | unbuilt _ unbuilt =>
      obtain ⟨resource, _, builds⟩ := exists_mem_of_traverses_error unbuilt
      rcases builds.error_cases with ⟨rfl, _⟩ | ⟨_, _, rfl | rfl⟩ <;> rfl
    | absent _ _ => rfl

theorem report_of_concludes {config : Config} {command : Command} {result : Except Failure String}
    (h : Concludes config command result) :
    (∃ text, result = .ok text ∧ report result = ⟨0, text, ""⟩) ∨
      ∃ failure, result = .error failure ∧
        report result = ⟨1, "", "Error: " ++ failure.message ++ "\n"⟩ := by
  cases result with
  | ok text => exact Or.inl ⟨text, rfl, rfl⟩
  | error failure =>
    refine Or.inr ⟨failure, rfl, ?_⟩
    rw [report, exitCode_of_concludes h, line]

theorem exitCode_report_eq_zero_iff {config : Config} {command : Command}
    {result : Except Failure String} (h : Concludes config command result) :
    (report result).exitCode = 0 ↔ ∃ text, result = .ok text := by
  rcases report_of_concludes h with ⟨text, rfl, reported⟩ | ⟨failure, rfl, reported⟩
  · exact iff_of_true (congrArg Report.exitCode reported) ⟨text, rfl⟩
  · rw [reported]
    exact iff_of_false (show (1 : UInt32) ≠ 0 by decide) nofun

/-- A command that succeeds has installed a catalog. -/
theorem exists_installs_of_concludes {config : Config} {command : Command}
    {result : Except Failure String} (h : Concludes config command result)
    (success : (report result).exitCode = 0) :
    ∃ catalog, Installs config.attributes (.ok catalog) := by
  obtain ⟨text, rfl⟩ := (exitCode_report_eq_zero_iff h).mp success
  cases h with
  | answered installed _ => exact ⟨_, installed⟩

/-- Whether a command prints something with a catalog and declared resources. -/
def Succeeds (catalog : Catalog) (resources : List ResourceConfig) : Command → Prop
  | .catalog _ _ => True
  | .lookup key _ => ∃ descriptor, catalog.lookup? key = some descriptor
  | .dump _ => ∃ built, Traverses (ResourceConfig.Builds catalog ()) resources (.ok built)
  | .device uniqueId _ => ∃ built,
    Traverses (ResourceConfig.Builds catalog ()) resources (.ok built) ∧
      ∃ resource ∈ built, Bears uniqueId resource

theorem exists_answers_of_succeeds {catalog : Catalog} {resources : List ResourceConfig}
    {command : Command} (h : Succeeds catalog resources command) :
    ∃ text, Answers catalog resources command (.ok text) := by
  cases command with
  | catalog model json =>
    cases json with
    | false => exact ⟨_, .listed⟩
    | true => exact ⟨_, .exported⟩
  | lookup key model =>
    obtain ⟨descriptor, found⟩ := h
    exact ⟨_, .classified found⟩
  | dump model =>
    obtain ⟨built, all⟩ := h
    exact ⟨_, .dumped all⟩
  | device uniqueId model =>
    obtain ⟨built, all, found⟩ := h
    exact ⟨_, .summarised all found rfl⟩

theorem succeeds_iff {catalog : Catalog} {config : Config} {command : Command}
    {result : Except Failure String} (h : Answers catalog config.resources command result) :
    Succeeds catalog config.resources command ↔ ∃ text, result = .ok text := by
  constructor
  · intro succeeds
    obtain ⟨text, answers⟩ := exists_answers_of_succeeds succeeds
    exact ⟨text, (answers_iff.mp h).symm.trans (answers_iff.mp answers)⟩
  · rintro ⟨text, rfl⟩
    cases h with
    | listed => trivial
    | exported => trivial
    | classified found => exact ⟨_, found⟩
    | dumped all => exact ⟨_, all⟩
    | summarised all found _ => exact ⟨_, all, found⟩

theorem answers_of_concludes {catalog : Catalog} {config : Config} {command : Command}
    {result : Except Failure String} (h : Concludes config command result)
    (installed : Installs config.attributes (.ok catalog)) :
    Answers catalog config.resources command result := by
  rw [installs_iff] at installed
  cases h with
  | refused wrong =>
    rw [installs_iff, installed] at wrong
    contradiction
  | answered other answers =>
    rw [installs_iff, installed, Except.ok.injEq] at other
    rwa [other]

/-! ### Commands that build no resources -/

/-- A command without its model. -/
def question : Command → Command
  | catalog _ json => catalog none json
  | lookup key _ => lookup key none
  | dump _ => dump ""
  | device uniqueId _ => device uniqueId ""

theorem answer_eq_of_question_eq {command command' : Command}
    (same : command'.question = command.question) (unbuilding : command.builds = false)
    (catalog : Catalog) (config config' : Config) :
    command'.answer catalog config' = command.answer catalog config := by
  cases command with
  | catalog model json =>
    cases command' <;> cases same
    rfl
  | lookup key model =>
    cases command' <;> cases same
    rfl
  | dump model => contradiction
  | device uniqueId model => contradiction

/-- Such a command depends on the declared attributes only. -/
theorem output_eq_of_question_eq {command command' : Command}
    (same : command'.question = command.question) (unbuilding : command.builds = false)
    {config config' : Config} (attributes : config'.attributes = config.attributes) :
    command'.output config' = command.output config := by
  have descriptors : config'.descriptors = config.descriptors := by
    rw [Config.descriptors, Config.descriptors, attributes]
  have installed : installCatalog config' = installCatalog config := by
    rw [installCatalog_eq, installCatalog_eq, descriptors]
  rw [output, output, installed]
  congr 1
  funext catalog
  exact answer_eq_of_question_eq same unbuilding catalog config config'

/-! ### The program -/

theorem runArguments_eq_output {environment : Config.Environment} {arguments : List String}
    {command : Command} {config : Config} (meant : ofArguments? arguments = some command)
    (loaded : loadModel environment command.model? = .ok config) :
    runArguments environment arguments = command.output config := by
  simp only [runArguments, meant, run, loaded, ok_bind]

/-- **The stages of the program.** If its arguments mean a command and the model is loaded, the
program comes to what the stages say: it prints its output and has the exit code 0, or nothing but
the error of the first stage that fails and has the exit code 1. Once the catalog is installed, what
is asked for decides which of the two. A command that builds no resources gives the same report with
every other model that declares the same attributes. -/
theorem runArguments_stages {environment : Config.Environment} {arguments : List String}
    {command : Command} {config : Config} (meant : ofArguments? arguments = some command)
    (loaded : loadModel environment command.model? = .ok config) :
    let result := runArguments environment arguments
    (∀ conclusion, result = conclusion ↔ Concludes config command conclusion) ∧
    ((∃ text, result = .ok text ∧ report result = ⟨0, text, ""⟩) ∨
      ∃ failure, result = .error failure ∧
        report result = ⟨1, "", "Error: " ++ failure.message ++ "\n"⟩) ∧
    (∀ catalog, Installs config.attributes (.ok catalog) →
      ((report result).exitCode = 0 ↔ Succeeds catalog config.resources command)) ∧
    (command.builds = false → ∀ environment' arguments' command' config',
      ofArguments? arguments' = some command' → command'.question = command.question →
      loadModel environment' command'.model? = .ok config' →
      config'.attributes = config.attributes →
        report (runArguments environment' arguments') = report result) := by
  intro result
  have stages (conclusion : Except Failure String) :
      result = conclusion ↔ Concludes config command conclusion := by
    rw [concludes_iff, ← runArguments_eq_output meant loaded]
  have concludes : Concludes config command result := (stages result).mp rfl
  refine ⟨stages, report_of_concludes concludes, fun catalog installed => ?_, ?_⟩
  · rw [exitCode_report_eq_zero_iff concludes,
      succeeds_iff (answers_of_concludes concludes installed)]
  · intro unbuilding environment' arguments' command' config' meant' same loaded' attributes
    have equal : runArguments environment' arguments' = result := by
      rw [runArguments_eq_output meant' loaded',
        output_eq_of_question_eq same unbuilding attributes, ← runArguments_eq_output meant loaded]
    rw [equal]

/-- A model that declares an attribute and a sensor that has it. -/
def gustModel : String :=
  "[[attributes]]\nsuffix = \"state/gust\"\ntype = \"uint8\"\nmin = 1\nmax = 9\n" ++
  "[[resources]]\nprefix = \"/sensors\"\n[resources.items]\n" ++
  "\"attr/uniqueid\" = \"00:11-01\"\n\"attr/modelid\" = \"WS1\"\n\"state/gust\" = 7\n"

/-- A model that declares the same attribute, and a resource that has no known path. -/
def lostModel : String :=
  "[[attributes]]\nsuffix = \"state/gust\"\ntype = \"uint8\"\nmin = 1\nmax = 9\n" ++
  "[[resources]]\nprefix = \"/nowhere\"\n"

/-- A model whose first attribute repeats a built-in suffix, whose second has neither a type nor a
range, and whose resource has no known path. -/
def faultyModel : String :=
  "[[attributes]]\nsuffix = \"state/on\"\ntype = \"bool\"\n" ++
  "[[attributes]]\nsuffix = \"state/gust\"\ntype = \"wind\"\nmin = 9\nmax = 1\n" ++
  "[[resources]]\nprefix = \"/nowhere\"\n"

/-- A place where these models are the only files. -/
def modelPlace : Config.Environment where
  file path :=
    if path = "/gust" then .text gustModel
    else if path = "/lost" then .text lostModel
    else if path = "/faulty" then .text faultyModel
    else .missing
  directory := "/"

/-- What `dump` prints with the first of them. -/
def gustDump : String :=
  "[\n  \x7b\n    \"items\": \x7b\n      \"modelid\": \"WS1\",\n      \"state\": \x7b\n" ++
  "        \"gust\": 7.0\n      \x7d,\n      \"uniqueid\": \"00:11-01\"\n    \x7d,\n" ++
  "    \"prefix\": \"/sensors\"\n  \x7d\n]\n"

/-- What `device` prints of its sensor. -/
def gustDevice : String :=
  "\x7b\n  \"uniqueid\": \"00:11\",\n  \"modelid\": \"WS1\",\n  \"sub\": [\n    \x7b\n" ++
  "      \"modelid\": \"WS1\",\n      \"state\": \x7b\n        \"gust\": 7.0\n      \x7d,\n" ++
  "      \"uniqueid\": \"00:11-01\"\n    \x7d\n  ]\n\x7d\n"

/-- The program on these models, evaluated. -/
theorem reports_modelPlace :
    report (runArguments modelPlace ["dump", "-c", "/gust"]) = ⟨0, gustDump, ""⟩ ∧
    report (runArguments modelPlace ["device", "00:11", "-c", "/gust"]) = ⟨0, gustDevice, ""⟩ ∧
    report (runArguments modelPlace ["lookup", "/sensors/1/attr/name", "-c", "/gust"]) =
      ⟨0, "string:attr/name\n", ""⟩ ∧
    report (runArguments modelPlace ["device", "00:11", "-c", "/faulty"]) =
      ⟨1, "", "Error: Unknown data type: wind\n"⟩ := by
  decide +kernel

/-- The attributes that the model at a path declares. -/
def declaredAt (path : String) : Option (List AttributeConfig) :=
  (loadModel modelPlace (some path)).toOption.map Config.attributes

theorem exists_config_of_declaredAt {path : String} {attributes : List AttributeConfig}
    (declared : declaredAt path = some attributes) :
    ∃ config, loadModel modelPlace (some path) = .ok config ∧ config.attributes = attributes := by
  unfold declaredAt at declared
  cases loaded : loadModel modelPlace (some path) with
  | error failure =>
    rw [loaded] at declared
    contradiction
  | ok config =>
    rw [loaded] at declared
    exact ⟨config, rfl, Option.some.inj declared⟩

/-- Three commands succeed with the first model, and the one of them that builds no resources gives
the same report with the second. With the third model, the first attribute that is wrong by itself
decides the error, although a suffix repeats before it. -/
theorem runArguments_stages_modelPlace :
    let run := runArguments modelPlace
    let dumped := run ["dump", "-c", "/gust"]
    let shown := run ["device", "00:11", "-c", "/gust"]
    let found := run ["lookup", "/sensors/1/attr/name", "-c", "/gust"]
    let failed := run ["device", "00:11", "-c", "/faulty"]
    ∃ config faulty catalog, loadModel modelPlace (some "/gust") = .ok config ∧
      loadModel modelPlace (some "/faulty") = .ok faulty ∧
      Installs config.attributes (.ok catalog) ∧
      (Concludes config (.dump "/gust") dumped ∧ report dumped = ⟨0, gustDump, ""⟩ ∧
        Succeeds catalog config.resources (.dump "/gust")) ∧
      (Concludes config (.device "00:11" "/gust") shown ∧ report shown = ⟨0, gustDevice, ""⟩ ∧
        Succeeds catalog config.resources (.device "00:11" "/gust")) ∧
      (Concludes config (.lookup "/sensors/1/attr/name" (some "/gust")) found ∧
        report found = ⟨0, "string:attr/name\n", ""⟩ ∧
        Succeeds catalog config.resources (.lookup "/sensors/1/attr/name" (some "/gust")) ∧
        report (run ["lookup", "/sensors/1/attr/name", "-c", "/lost"]) = report found) ∧
      Concludes faulty (.device "00:11" "/faulty") failed ∧
      report failed = ⟨1, "", "Error: Unknown data type: wind\n"⟩ := by
  intro run dumped shown found failed
  obtain ⟨dumpedReport, shownReport, foundReport, failedReport⟩ := reports_modelPlace
  obtain ⟨config, loaded, attributes⟩ := exists_config_of_declaredAt
    (by decide +kernel : declaredAt "/gust" = some [⟨"state/gust", "uint8", some 1, some 9⟩])
  obtain ⟨lost, loadedLost, attributesLost⟩ := exists_config_of_declaredAt
    (by decide +kernel : declaredAt "/lost" = some [⟨"state/gust", "uint8", some 1, some 9⟩])
  obtain ⟨faulty, loadedFaulty, _⟩ := exists_config_of_declaredAt
    (by decide +kernel : declaredAt "/faulty" =
      some [⟨"state/on", "bool", none, none⟩, ⟨"state/gust", "wind", some 9, some 1⟩])
  obtain ⟨dumps, _, dumpSucceeds, _⟩ := runArguments_stages
    (by decide +kernel : ofArguments? ["dump", "-c", "/gust"] = some (.dump "/gust")) loaded
  obtain ⟨shows, _, deviceSucceeds, _⟩ := runArguments_stages
    (by decide +kernel : ofArguments? ["device", "00:11", "-c", "/gust"] =
      some (.device "00:11" "/gust")) loaded
  obtain ⟨finds, _, lookupSucceeds, sameFound⟩ := runArguments_stages
    (by decide +kernel : ofArguments? ["lookup", "/sensors/1/attr/name", "-c", "/gust"] =
      some (.lookup "/sensors/1/attr/name" (some "/gust"))) loaded
  obtain ⟨fails, _⟩ := runArguments_stages
    (by decide +kernel : ofArguments? ["device", "00:11", "-c", "/faulty"] =
      some (.device "00:11" "/faulty")) loadedFaulty
  have meantLost : ofArguments? ["lookup", "/sensors/1/attr/name", "-c", "/lost"] =
      some (.lookup "/sensors/1/attr/name" (some "/lost")) := by decide +kernel
  have concludes := (dumps dumped).mp rfl
  obtain ⟨catalog, installed⟩ :=
    exists_installs_of_concludes concludes (congrArg Report.exitCode dumpedReport)
  exact ⟨config, faulty, catalog, loaded, loadedFaulty, installed,
    ⟨concludes, dumpedReport,
      (dumpSucceeds catalog installed).mp (congrArg Report.exitCode dumpedReport)⟩,
    ⟨(shows shown).mp rfl, shownReport,
      (deviceSucceeds catalog installed).mp (congrArg Report.exitCode shownReport)⟩,
    ⟨(finds found).mp rfl, foundReport,
      (lookupSucceeds catalog installed).mp (congrArg Report.exitCode foundReport), sameFound rfl
        modelPlace _ _ lost meantLost rfl loadedLost (attributesLost.trans attributes.symm)⟩,
    (fails failed).mp rfl, failedReport⟩

end Command

end DeviceModel
