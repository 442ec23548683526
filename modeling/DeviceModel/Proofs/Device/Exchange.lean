import DeviceModel.Device.Summary
import DeviceModel.Json.Reader
import DeviceModel.Proofs.Json.Plain
import DeviceModel.Proofs.Resource.Reading

/-!
# Summaries read back

The JSON form of a resource consists of plain values, at most one object deep: a value that is put
at its place keeps it so (`forall_flat_insertAt`), hence a whole filling does (`forall_flat_toJson`).
So the text of a collected summary always decodes, and what it decodes to differs from the summary
at most in its numbers (`ofText?_collect`): a number is read back as whatever double the reader
makes of its digits.

The main statement is `exchange_collect`. Whether a summary is read back exactly depends on nothing
but the numbers that it shows, and numbers of up to fifteen digits are. That all numbers are is not
so: the reader rounds twice, and `button_not_read_back` has one that comes back as its neighbour.
-/

namespace DeviceModel

open Json

/-! ### The JSON form of a resource -/

namespace Resource

variable {τ : Type}

/-- A number that an item shows is the double of its integer. -/
theorem ofInt_number_of_toJson {item : Item τ} {x : FiniteDouble}
    (h : item.toValue.toJson = .real x) : Double.ofInt item.number.toInt = .finite x := by
  cases valued : item.hasValue with
  | false =>
    rw [Item.toValue_of_not_hasValue valued] at h
    exact absurd h nofun
  | true =>
    have typed := Item.typed_toValue valued
    rw [h] at typed
    rw [Item.toValue_of_isInteger valued typed.isInteger_of_real] at h
    obtain ⟨y, hy⟩ := Double.ofInt_finite (natAbs_toInt_lt item.number)
    rw [hy] at h ⊢
    rw [Json.real.inj h]

theorem plain_of_typed {type : DataType} {v : Value} {json : Json} (typed : Item.Typed type v json)
    (number : ∀ x, json = .real x → json.Plain) : json.Plain := by
  cases typed with
  | text => trivial
  | truth => trivial
  | number => exact number _ rfl

theorem plain_toJson (item : Item τ) : item.toValue.toJson.Plain := by
  cases valued : item.hasValue with
  | false =>
    rw [Item.toValue_of_not_hasValue valued]
    trivial
  | true =>
    refine plain_of_typed (Item.typed_toValue valued) fun x h => ?_
    rw [h]
    exact exists_reread? (ofInt_number_of_toJson h) (natAbs_toInt_lt item.number)

/-- A plain value, at most one object deep. -/
structure Flat (value : Json) : Prop where
  plain : value.Plain
  depth : value.depth ≤ 1

theorem flat_empty : Flat (object []) :=
  ⟨⟨List.Pairwise.nil, trivial⟩, Nat.le_refl 1⟩

section

variable {value : Json} (plain : value.Plain) (simple : value.isObject = false)
include plain simple

theorem depth_eq_zero : value.depth = 0 := by
  cases value with
  | array items => exact plain.elim
  | object entries => contradiction
  | _ => rfl

theorem flat_of_simple : Flat value :=
  ⟨plain, depth_eq_zero plain simple ▸ Nat.zero_le 1⟩

theorem flat_insertEntry (key : String) {entries : List (String × Json)}
    (before : Flat (object entries)) : Flat (object (insertEntry key value entries)) := by
  obtain ⟨⟨ascending, values⟩, shallow⟩ := before
  have depths := depthOfEntries_le_iff.mp (Nat.le_of_succ_le_succ shallow)
  refine ⟨⟨ascending_insertEntry key value ascending, plainEntries_iff.mpr fun entry mem => ?_⟩,
    Nat.succ_le_succ (depthOfEntries_le_iff.mpr fun entry mem => ?_)⟩
  · rcases mem_insertEntry mem with rfl | old
    · exact plain
    · exact plainEntries_iff.mp values entry old
  · rcases mem_insertEntry mem with rfl | old
    · exact Nat.le_of_eq (depth_eq_zero plain simple)
    · exact depths entry old

/-- A plain value at a place leaves flat values. -/
theorem forall_flat_insertAt {members : Members} (before : ∀ entry ∈ members.entries, Flat entry.2)
    (place : Place) : ∀ entry ∈ (insertAt members place value).entries, Flat entry.2 := by
  intro entry mem
  cases place with
  | top key =>
    rcases mem_insertEntry mem with rfl | old
    · exact flat_of_simple plain simple
    · exact before entry old
  | grouped group key =>
    rcases insertAt_grouped_cases members group key value with he | ⟨inner, he, origin⟩
    · rw [he] at mem
      exact before entry mem
    rw [he] at mem
    rcases mem_insertEntry mem with rfl | old
    -- the group is new or was flat already
    · rcases origin with rfl | found
      · exact flat_insertEntry plain simple key flat_empty
      · exact flat_insertEntry plain simple key (before _ (mem_of_valueOf? found))
    · exact before entry old

end

theorem forall_flat_fill {placed : List (Place × Json)} (plain : ∀ entry ∈ placed, entry.2.Plain)
    (simple : ∀ entry ∈ placed, entry.2.isObject = false) :
    ∀ entry ∈ (fill placed).entries, Flat entry.2 := by
  induction placed using List.reverseRecOn with
  | nil => exact nofun
  | append_singleton placed last ih =>
    have before := ih (fun entry mem => plain entry (List.mem_append_left _ mem))
      fun entry mem => simple entry (List.mem_append_left _ mem)
    rw [fill_concat]
    exact forall_flat_insertAt (plain last List.mem_concat_self)
      (simple last List.mem_concat_self) before last.1

/-- The JSON form of a resource consists of flat values. -/
theorem forall_flat_toJson (resource : Resource τ) :
    ∀ entry ∈ resource.toJson.entries, Flat entry.2 := by
  rw [toJson_eq_fill]
  refine forall_flat_fill (fun entry mem => ?_) (simple_placed _)
  obtain ⟨item, _, rfl⟩ := List.mem_map.mp mem
  exact plain_toJson item

end Resource

namespace DeviceSummary

open Resource

variable {τ : Type}

/-! ### Reading the fields -/

/-- The summary that a JSON text holds. -/
def ofText? (s : String) : Option DeviceSummary :=
  (Document.ofJsonText? s).bind ofDocument?

/-- The summary with every number as it is read back. -/
def reread (summary : DeviceSummary) : DeviceSummary :=
  { summary with sub := summary.sub.map (Members.map Json.reread) }

/-- The fields of a summary are read back, whichever of them are present. -/
theorem ofDocument?_echo (summary : DeviceSummary) :
    ofDocument? summary.toJson.echo =
      ((echoItems (summary.sub.map Members.toJson)).mapM Document.members?).bind fun sub =>
        some { summary with sub } := by
  obtain ⟨uniqueId, manufacturerName, modelId, swVersion, sub⟩ := summary
  cases manufacturerName <;> cases modelId <;> cases swVersion <;> rfl

theorem mapM_members?_echo {sub : List Members}
    (plain : ∀ members ∈ sub, PlainEntries members.entries) :
    (echoItems (sub.map Members.toJson)).mapM Document.members? =
      some (sub.map (Members.map Json.reread)) :=
  mapM_echoItems fun members mem => members?_echo (plain members mem)

theorem depth_toJson {summary : DeviceSummary}
    (flat : ∀ members ∈ summary.sub, ∀ entry ∈ members.entries, Flat entry.2) :
    summary.toJson.depth ≤ 4 := by
  have items : depthOfItems (summary.sub.map Members.toJson) ≤ 2 := by
    refine depthOfItems_le_iff.mpr fun item mem => ?_
    obtain ⟨members, membersMem, rfl⟩ := List.mem_map.mp mem
    refine Nat.succ_le_succ (depthOfEntries_le_iff.mpr fun entry h => ?_)
    exact (flat members membersMem entry h).depth
  obtain ⟨uniqueId, manufacturerName, modelId, swVersion, sub⟩ := summary
  dsimp only at items
  cases manufacturerName <;> cases modelId <;> cases swVersion <;>
    (simp only [toJson, optionalField, List.cons_append, List.nil_append, depth, depthOfEntries]
     omega)

theorem forall_flat_collect {uniqueId : String} {resources : List (Resource τ)} :
    ∀ members ∈ (collect uniqueId resources).sub, ∀ entry ∈ members.entries, Flat entry.2 := by
  intro members mem
  obtain ⟨resource, _, rfl⟩ := List.mem_map.mp mem
  exact forall_flat_toJson resource

theorem plainEntries_collect {uniqueId : String} {resources : List (Resource τ)} :
    ∀ members ∈ (collect uniqueId resources).sub, PlainEntries members.entries :=
  fun members mem =>
    plainEntries_iff.mpr fun entry h => (forall_flat_collect members mem entry h).plain

/-- The text of a collected summary decodes, to the summary with every number as it is read
back. -/
theorem ofText?_collect (uniqueId : String) (resources : List (Resource τ)) :
    ofText? (collect uniqueId resources).toJson.text =
      some (collect uniqueId resources).reread := by
  have shallow : (collect uniqueId resources).toJson.depth ≤ depthLimit :=
    Nat.le_trans (depth_toJson forall_flat_collect) (by decide)
  rw [ofText?, Document.ofJsonText?_text shallow, Option.bind_some, ofDocument?_echo,
    mapM_members?_echo plainEntries_collect]
  rfl

/-! ### Numbers -/

theorem reread_eq_self_iff {summary : DeviceSummary} :
    summary.reread = summary ↔ ∀ members ∈ summary.sub, members.map Json.reread = members := by
  have sub : summary.reread = summary ↔
      summary.sub.map (Members.map Json.reread) = summary.sub.map id := by
    rw [List.map_id]
    exact ⟨congrArg DeviceSummary.sub, fun same => by rw [reread, same]⟩
  rw [sub, List.map_inj_left]
  rfl

/-- A number that a resource of the device shows. -/
def ShowsNumber (uniqueId : String) (resources : List (Resource τ)) (n : Int64) : Prop :=
  ∃ resource ∈ resources.filter (belongs uniqueId), ∃ item ∈ resource.shown,
    item.dataType.isInteger ∧ item.number = n

/-- The numbers of a collected summary are doubles of numbers that the resources show. -/
theorem exists_showsNumber {uniqueId : String} {resources : List (Resource τ)}
    {members : Members} (mem : members ∈ (collect uniqueId resources).sub) {path : List String}
    {x : FiniteDouble} (leaf : (path, .real x) ∈ members.toJson.leaves) :
    ∃ n : Int64, ShowsNumber uniqueId resources n ∧ Double.ofInt n.toInt = .finite x := by
  obtain ⟨resource, own, rfl⟩ := List.mem_map.mp mem
  rw [toJson_eq_fill] at leaf
  obtain ⟨_, placed, value⟩ := exists_placed_of_leaf (simple_placed _) leaf
  obtain ⟨item, shown, rfl⟩ := List.mem_map.mp placed
  have typed := Item.typed_toValue (mem_shown_iff.mp shown).2.2
  rw [show item.toValue.toJson = .real x from value] at typed
  exact ⟨item.number, ⟨resource, own, item, shown, typed.isInteger_of_real, rfl⟩,
    ofInt_number_of_toJson value⟩

/-- **The text of a collected summary decodes to the summary with every number as it is read back.**
So it decodes to the summary itself exactly if each number in it is read back as itself. The numbers
in it are the doubles of the integers that the resources show, each of them is read back as some
double, and an integer of at most `2 ^ 54 / 10` as itself, but not the next one. -/
theorem exchange_collect (uniqueId : String) (resources : List (Resource τ)) :
    let summary := collect uniqueId resources
    ofText? summary.toJson.text = some summary.reread ∧
    (ofText? summary.toJson.text = some summary ↔
      ∀ members ∈ summary.sub, ∀ path x, (path, .real x) ∈ members.toJson.leaves →
        reread? x = some x) ∧
    (∀ members ∈ summary.sub, ∀ path x, (path, .real x) ∈ members.toJson.leaves →
      (∃ n, ShowsNumber uniqueId resources n ∧ Double.ofInt n.toInt = .finite x) ∧
      ∃ y, reread? x = some y) ∧
    ((∀ n, ShowsNumber uniqueId resources n → n.toInt.natAbs ≤ 1801439850948198) →
      ofText? summary.toJson.text = some summary) ∧
    ∃ x, Double.ofInt 1801439850948199 = .finite x ∧ reread? x ≠ some x := by
  intro summary
  have decoded : ofText? summary.toJson.text = some summary.reread :=
    ofText?_collect uniqueId resources
  have exact_iff : ofText? summary.toJson.text = some summary ↔
      ∀ members ∈ summary.sub, ∀ path x, (path, .real x) ∈ members.toJson.leaves →
        reread? x = some x := by
    rw [decoded, Option.some.injEq, reread_eq_self_iff]
    exact forall₂_congr fun members mem => map_reread_eq_self_iff (plainEntries_collect members mem)
  refine ⟨decoded, exact_iff, fun members mem path x leaf => ?_, fun small => ?_,
    exists_reread?_ne⟩
  · obtain ⟨n, shows, hn⟩ := exists_showsNumber mem leaf
    exact ⟨⟨n, shows, hn⟩, exists_reread? hn (natAbs_toInt_lt n)⟩
  · refine exact_iff.mpr fun members mem path x leaf => ?_
    obtain ⟨n, shows, hn⟩ := exists_showsNumber mem leaf
    exact reread?_of_integer hn (small n shows)

/-- A resource whose button event is a number of sixteen digits. -/
def buttonOps : List (Resource.Op Unit) :=
  [.add .builtin .string "attr/uniqueid", .item "attr/uniqueid" (.write (.text "aa") ()),
    .add .builtin .int32 "state/buttonevent",
    .item "state/buttonevent" (.write (.number 1801439850948199) ())]

/-- The text of a summary with this button event. -/
def buttonText (digits : String) : String :=
  "\x7b\"uniqueid\":\"aa\",\"sub\":[\x7b\"state\":\x7b\"buttonevent\":" ++ digits ++
    "\x7d,\"uniqueid\":\"aa\"\x7d]\x7d"

/-- The number is written in full and comes back with another fraction. -/
theorem button_not_read_back :
    let button : Resource Unit := (Resource.new "/sensors").run buttonOps
    let summary := collect "aa" [button]
    (∀ op ∈ buttonOps, op.IsOver .builtin) ∧
    summary.toJson.text = buttonText "1801439850948199.0" ∧
    (ofText? summary.toJson.text).map (fun decoded => decoded.toJson.text) =
      some (buttonText "1801439850948199.2") ∧
    ofText? summary.toJson.text ≠ some summary := by
  intro button summary
  have text : summary.toJson.text = buttonText "1801439850948199.0" := by decide +kernel
  have decodedText : (ofText? (buttonText "1801439850948199.0")).map
      (fun decoded => decoded.toJson.text) = some (buttonText "1801439850948199.2") := by
    decide +kernel
  refine ⟨by simp [buttonOps, Op.IsOver], text, text ▸ decodedText, fun same => ?_⟩
  rw [text] at same
  rw [same, Option.map_some, text] at decodedText
  exact absurd decodedText (by decide +kernel)

end DeviceSummary

end DeviceModel
