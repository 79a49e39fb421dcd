import Mathlib.Data.List.Nodup
import Scrip.Log.Entry
import Scrip.Proofs.Json.RoundTrip
set_option autoImplicit false

/-! # Reading log lines

What a log line has to say about its record is a list of fields, fixed by the order of its keys and
by the value of each. A reader of JSON finds exactly this list in the line, so no text in a record
can add a field, hide one or begin a line of its own.
-/

namespace Scrip

namespace Log

/-! ## What a line has to show -/

namespace Record

/-- The keys of the line of a record, in order. -/
def keys (r : Record) : List String :=
  ["timestamp", "level", "logger", "message"] ++
    contextKeys.filter (fun key => (contextValue? r.context key).isSome) ++
    if r.failure.isSome then ["exception"] else []

/-- The fields that a line has to show: the keys in order, each with the value of the record. -/
structure Shows (r : Record) (fields : List (String × Json)) : Prop where
  keys : fields.map Prod.fst = r.keys
  distinct : (fields.map Prod.fst).Nodup
  timestamp : ∀ created, momentOfSeconds r.seconds = .ok created →
    ("timestamp", .text (DateTime.utc created).iso) ∈ fields
  level : ("level", .text (levelText r.level)) ∈ fields
  logger : ("logger", .text r.logger) ∈ fields
  message : ∀ text, message r.template.shown r.arguments = .ok text →
    ("message", .text text) ∈ fields
  context : ∀ key ∈ contextKeys, ∀ v, contextValue? r.context key = some v → (key, v) ∈ fields
  exception : ∀ e, r.failure = some e →
    ("exception", .text (exceptionText e.name e.describe)) ∈ fields

/-- Whether what is set of the context holds no floating point number and no key twice in an
object. -/
def isPlain (r : Record) : Bool :=
  contextKeys.all fun key => (contextValue? r.context key).all Json.isPlain

variable {r : Record} {e : Entry}

/-- Which records have an entry, and which. -/
theorem entry_eq_ok : r.entry = .ok e ↔ ∃ created text, momentOfSeconds r.seconds = .ok created ∧
    message r.template.shown r.arguments = .ok text ∧
    e = ⟨created, levelText r.level, r.logger, text, r.context,
      r.failure.map fun e => exceptionText e.name e.describe⟩ := by
  constructor
  · intro h
    obtain ⟨created, hcreated, h⟩ := Failure.bind_eq_ok.mp h
    obtain ⟨text, htext, h⟩ := Failure.bind_eq_ok.mp h
    exact ⟨created, text, hcreated, htext, (Except.ok.inj h).symm⟩
  · rintro ⟨created, text, hcreated, htext, rfl⟩
    exact Failure.bind_eq_ok.mpr ⟨created, hcreated, Failure.bind_eq_ok.mpr ⟨text, htext, rfl⟩⟩

theorem line_eq_ok {line : String} : r.line = .ok line ↔ ∃ e, r.entry = .ok e ∧ e.line = line := by
  unfold Record.line
  cases r.entry <;> simp [Except.map]

end Record

/-! ## The fields -/

namespace Entry

variable {e : Entry}

theorem map_fst_contextFields (e : Entry) : e.contextFields.map Prod.fst =
    contextKeys.filter fun key => (contextValue? e.context key).isSome := by
  unfold contextFields
  induction contextKeys with
  | nil => rfl
  | cons key keys ih =>
      rw [List.filterMap_cons, List.filter_cons]
      cases contextValue? e.context key <;> simp [ih]

theorem mem_contextFields {key : String} {v : Json} :
    (key, v) ∈ e.contextFields ↔ key ∈ contextKeys ∧ contextValue? e.context key = some v := by
  simp [contextFields, List.mem_filterMap]

theorem mem_fields {p : String × Json} : p ∈ e.fields ↔
    p = ("timestamp", .text (DateTime.utc e.created).iso) ∨ p = ("level", .text e.level) ∨
    p = ("logger", .text e.logger) ∨ p = ("message", .text e.message) ∨ p ∈ e.contextFields ∨
    ∃ s, e.exception = some s ∧ p = ("exception", .text s) := by
  unfold Entry.fields
  cases e.exception <;> simp

end Entry

namespace Record

variable {r r' : Record} {e e' : Entry} {fields fields' : List (String × Json)}

theorem map_fst_fields (h : r.entry = .ok e) : e.fields.map Prod.fst = r.keys := by
  obtain ⟨created, text, -, -, rfl⟩ := entry_eq_ok.mp h
  simp only [Entry.fields, Record.keys, List.map_append, Entry.map_fst_contextFields]
  cases r.failure <;> rfl

/-- No key of the context is one of the others. -/
theorem nodup_keys (r : Record) : r.keys.Nodup := by
  -- the keys of a record are some of all that there are, in the same order
  have hall : (["timestamp", "level", "logger", "message"] ++ contextKeys ++
      ["exception"]).Nodup := by
    decide
  refine hall.sublist (((List.Sublist.refl _).append List.filter_sublist).append ?_)
  split <;> simp

theorem shows_fields (h : r.entry = .ok e) : r.Shows e.fields := by
  have hkeys := map_fst_fields h
  obtain ⟨created, text, hcreated, htext, rfl⟩ := entry_eq_ok.mp h
  constructor
  case keys => exact hkeys
  case distinct =>
    rw [hkeys]
    exact nodup_keys r
  case timestamp =>
    intro created' hcreated'
    obtain rfl := Except.ok.inj (hcreated.symm.trans hcreated')
    simp [Entry.mem_fields]
  case message =>
    intro text' htext'
    obtain rfl := Except.ok.inj (htext.symm.trans htext')
    simp [Entry.mem_fields]
  case context =>
    intro key hkey v hv
    have hcontext := Entry.mem_contextFields (e := ⟨created, levelText r.level, r.logger, text,
      r.context, r.failure.map fun e => exceptionText e.name e.describe⟩).mpr ⟨hkey, hv⟩
    exact Entry.mem_fields.mpr (Or.inr (Or.inr (Or.inr (Or.inr (Or.inl hcontext)))))
  case exception =>
    intro e he
    simp [Entry.mem_fields, he]
  all_goals simp [Entry.mem_fields]

/-- Fields with the same distinct keys are equal if one list has all that the other has. -/
theorem eq_of_keys (hkeys : fields.map Prod.fst = fields'.map Prod.fst)
    (hdistinct : (fields.map Prod.fst).Nodup) (hsub : fields' ⊆ fields) : fields = fields' := by
  refine List.ext_getElem (by simpa using congrArg List.length hkeys) fun i hi hi' => ?_
  -- the entry of the second list stands somewhere in the first, and its key says where
  obtain ⟨j, hj, hget⟩ := List.getElem_of_mem (hsub (List.getElem_mem hi'))
  have hkey : (fields.map Prod.fst)[j]? = (fields.map Prod.fst)[i]? := by
    rw [List.getElem?_map, List.getElem?_eq_getElem hj, hget, hkeys, List.getElem?_map,
      List.getElem?_eq_getElem hi']
  obtain rfl := (List.getElem?_inj (by simpa using hj) hdistinct).mp hkey
  exact hget

/-- What a line has to show is determined. -/
theorem Shows.eq_fields (h : r.Shows fields) (he : r.entry = .ok e) : fields = e.fields := by
  refine eq_of_keys (h.keys.trans (map_fst_fields he).symm) h.distinct fun p hp => ?_
  obtain ⟨created, text, hcreated, htext, rfl⟩ := entry_eq_ok.mp he
  rcases Entry.mem_fields.mp hp with rfl | rfl | rfl | rfl | hp | ⟨s, hs, rfl⟩
  · exact h.timestamp created hcreated
  · exact h.level
  · exact h.logger
  · exact h.message text htext
  · obtain ⟨hkey, hv⟩ := Entry.mem_contextFields.mp hp
    exact h.context p.1 hkey p.2 hv
  · obtain ⟨e, hfailure, rfl⟩ := Option.map_eq_some_iff.mp hs
    exact h.exception e hfailure

theorem isPlain_fields (he : r.entry = .ok e) (hr : r.isPlain = true) :
    Json.isPlain (.object e.fields) = true := by
  refine Json.isPlain_object.mpr ⟨(shows_fields he).distinct, fun p hp => ?_⟩
  obtain ⟨created, text, -, -, rfl⟩ := entry_eq_ok.mp he
  rcases Entry.mem_fields.mp hp with rfl | rfl | rfl | rfl | hp | ⟨s, -, rfl⟩
  case inr.inr.inr.inr.inl =>
    obtain ⟨hkey, hv⟩ := Entry.mem_contextFields.mp hp
    have hplain := List.all_eq_true.mp hr p.1 hkey
    rwa [hv] at hplain
  all_goals rfl

/-! ## Lines -/

/-- **Each log line decodes to its record.** A record whose time has a date and whose template takes
its arguments has a line without control characters. A reader finds in it exactly the fields that it
has to show, and records that differ in those have different lines. -/
theorem line_decodes (r : Record) {created : Moment} {text : String}
    (hcreated : momentOfSeconds r.seconds = .ok created)
    (htext : message r.template.shown r.arguments = .ok text) (hr : r.isPlain = true) :
    ∃ line, r.line = .ok line ∧ (∀ c ∈ line.toList, 0x20 ≤ c.toNat) ∧
    (∃ fields, Json.read line = .ok (.object fields) ∧ r.Shows fields) ∧
    ∀ (r' : Record) (line' : String) (fields fields' : List (String × Json)),
      r'.line = .ok line' → r'.isPlain = true → r.Shows fields → r'.Shows fields' →
      fields ≠ fields' → line ≠ line' := by
  obtain ⟨e, he⟩ : ∃ e, r.entry = .ok e :=
    ⟨_, entry_eq_ok.mpr ⟨created, text, hcreated, htext, rfl⟩⟩
  have hplain := isPlain_fields he hr
  refine ⟨e.line, line_eq_ok.mpr ⟨e, he, rfl⟩, ?_,
    ⟨e.fields, Json.read_render hplain, shows_fields he⟩, ?_⟩
  · rw [Entry.line, Json.render, String.toList_ofList]
    exact Json.controlFree_write _ hplain
  · intro r' line' fields fields' hline' hr' h h' hne hline
    -- both lists of fields are those of the entries, and lines are written injectively
    obtain ⟨e', he', rfl⟩ := line_eq_ok.mp hline'
    rw [h.eq_fields he, h'.eq_fields he'] at hne
    exact hne (Json.object.inj (Json.render_injective hplain (isPlain_fields he' hr') hline))

/-- A record whose texts close their quotes and break the line. -/
def hostile : Record where
  seconds := .int 0
  level := .int 20
  logger := "credit_ledger"
  template := .text "paid\", \"level\": \"ERROR\"\x7d\n\x7b\x01\\"
  arguments := []
  context := [("path", .text "/\r\n\""), ("stage", .null), ("request", .real .nan),
    ("tier", .list [.null, .bool true, .object [("a\tb", .int (-5)), ("", .list [])]])]
  failure := some (.crash .value "1\n2")

theorem line_decodes_hostile :
    momentOfSeconds hostile.seconds = .ok 0 ∧
    message hostile.template.shown hostile.arguments =
      .ok "paid\", \"level\": \"ERROR\"\x7d\n\x7b\x01\\" ∧
    hostile.isPlain = true ∧
    ∃ line line', hostile.line = .ok line ∧ { hostile with failure := none }.line = .ok line' ∧
      (∀ c ∈ line.toList, 0x20 ≤ c.toNat) ∧
      (∃ fields, Json.read line = .ok (.object fields) ∧ hostile.Shows fields) ∧
      line ≠ line' := by
  have hcreated : momentOfSeconds hostile.seconds = .ok 0 := by decide
  have htext : message hostile.template.shown hostile.arguments =
      .ok "paid\", \"level\": \"ERROR\"\x7d\n\x7b\x01\\" := by decide
  have hplain : hostile.isPlain = true := by decide
  have hplain' : { hostile with failure := none }.isPlain = true := by decide
  have he : hostile.entry = .ok _ := entry_eq_ok.mpr ⟨_, _, hcreated, htext, rfl⟩
  have he' : { hostile with failure := none }.entry = .ok _ :=
    entry_eq_ok.mpr ⟨_, _, hcreated, htext, rfl⟩
  obtain ⟨line, hline, hshows, hread, hdiffer⟩ := line_decodes hostile hcreated htext hplain
  have hline' := line_eq_ok.mpr ⟨_, he', rfl⟩
  refine ⟨hcreated, htext, hplain, line, _, hline, hline', hshows, hread,
    hdiffer _ _ _ _ hline' hplain' (shows_fields he) (shows_fields he') fun h => ?_⟩
  exact absurd (congrArg (List.map Prod.fst) h) (by decide)

end Record

end Log

end Scrip
