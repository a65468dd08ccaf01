import BeaconLight.Proofs.Record.Json
import BeaconLight.Proofs.Record.Section
import BeaconLight.Proofs.Text.Utf8
import BeaconLight.Record.Event

/-!
# Envelopes and events

The envelope of a record is its fork and its JSON, and an event is announced under its topic
with the envelope of its record for data. What is read from such data is the record again, and
what is read from any data is nothing, a record of the kind that the topic stands for, or the
error of reading one.
-/

namespace BeaconLight

theorem Json.encode_render (value : Json) :
  Utf8.encode (render value).toList = encode value
  := by rw [render, String.toList_ofList, encode]

namespace Versioned

variable {kind : Kind} {bytes : List UInt8} {members : Json.Members}

/-! ### The text of an envelope -/

theorem text_eq (x : Versioned kind) :
  x.text = Json.render x.toJson
  := by rw [text, ← Json.encode_render, Utf8.decodeLossy_encode]

theorem encode_toJson (x : Versioned kind) :
  Json.encode x.toJson = Utf8.encode x.text.toList
  := by rw [text_eq, Json.encode_render]

theorem stringChars_name (fork : LightFork) :
  Json.stringChars fork.name = ("\"" ++ fork.name ++ "\"").toList
  := by
  cases fork
  all_goals decide

/-- An envelope is the name of the fork and the text that the record is shown as, each under its
name and without blanks. -/
theorem encode_envelope (x : Versioned kind) :
  Json.encode x.envelope
    = Utf8.encode
        ("\x7b\"version\":\"" ++ x.fork.name ++ "\",\"data\":" ++ x.text ++ "\x7d").toList
  := by
  have hversion : Json.stringChars "version" = "\"version\"".toList := by decide
  have hdata : Json.stringChars "data" = "\"data\"".toList := by decide
  rw [Json.encode, envelope, Json.chars, Json.memberChars, Json.restMemberChars,
    Json.restMemberChars, Json.chars, hversion, hdata, stringChars_name, text_eq, Json.render]
  simp [String.toList_append]

/-! ### Reading an event document -/

theorem ofEvent_of_malformed {fault : Json.Fault} (h : Json.parse bytes = .error fault) :
  ofEvent kind bytes = .error (.malformed fault)
  := by
  rw [ofEvent, h]
  rfl

theorem ofEvent_of_not_object {value : Json} (h : Json.parse bytes = .ok value)
    (hvalue : ∀ members, value ≠ .object members) :
  ofEvent kind bytes = .error (.wrongType Section.root "an object")
  := by
  rw [ofEvent, h]
  cases value with
  | object members => exact absurd rfl (hvalue members)
  | _ => rfl

/-- An event document with a text for its version is read by what that names. -/
theorem ofEvent_of_version {text : String} (h : Json.parse bytes = .ok (.object members))
    (hversion : Json.find? "version" members = some (.string text)) :
  ofEvent kind bytes =
    match Fork.parse? text with
    | none => .error (.unknownFork text)
    | some fork =>
      Section.required ⟨"", members⟩ "data" >>= fun data => ofJson kind fork data "data"
  := by
  have hrequired : Section.required ⟨"", members⟩ "version" = .ok (.string text) := by
    apply Section.required_eq_ok_iff.mpr
    exact ⟨hversion, by rintro ⟨⟩⟩
  rw [ofEvent, h]
  simp only [Except.mapError, Section.ofJson, bind, Except.bind, hrequired]
  cases Fork.parse? text
  all_goals rfl

theorem ofEvent_of_unknown {text : String} (h : Json.parse bytes = .ok (.object members))
    (hversion : Json.find? "version" members = some (.string text))
    (htext : ∀ fork : Fork, ¬ fork.IsNamedBy text) :
  ofEvent kind bytes = .error (.unknownFork text)
  := by rw [ofEvent_of_version h hversion, Fork.parse?_eq_none_iff.mpr htext]

/-- An event document that names a fork is read by what it has for data. -/
theorem ofEvent_of_named {text : String} {fork : Fork}
    (h : Json.parse bytes = .ok (.object members))
    (hversion : Json.find? "version" members = some (.string text))
    (htext : fork.IsNamedBy text) :
  ofEvent kind bytes
    = Section.required ⟨"", members⟩ "data" >>= fun data => ofJson kind fork data "data"
  := by rw [ofEvent_of_version h hversion, Fork.parse?_eq_some_iff.mpr htext]

/-- A record is read only from an event document whose version names its fork. -/
theorem exists_version_of_ofEvent {x : Versioned kind} (h : ofEvent kind bytes = .ok x) :
  ∃ members text, Json.parse bytes = .ok (.object members) ∧
    Json.find? "version" members = some (.string text) ∧ x.fork.toFork.IsNamedBy text
  := by
  have hread := h
  rw [ofEvent] at hread
  obtain ⟨value, hparse, hread⟩ := Except.bind_eq_ok_iff.mp hread
  obtain ⟨document, hdocument, hread⟩ := Except.bind_eq_ok_iff.mp hread
  obtain ⟨version, hversion, hread⟩ := Except.bind_eq_ok_iff.mp hread
  obtain ⟨members, rfl, rfl⟩ := Section.ofJson_eq_ok_iff.mp hdocument
  rw [Except.mapError_eq_ok_iff] at hparse
  rw [Section.required_eq_ok_iff] at hversion
  cases version with
  | string text =>
    refine ⟨members, text, hparse, hversion.1, ?_⟩
    rw [ofEvent_of_version hparse hversion.1] at h
    cases hfork : Fork.parse? text with
    | none =>
      rw [hfork] at h
      cases h
    | some fork =>
      rw [hfork] at h
      obtain ⟨data, -, hdata⟩ := Except.bind_eq_ok_iff.mp h
      rw [(ofJson_eq_ok_iff.mp hdata).1]
      apply Fork.parse?_eq_some_iff.mp hfork
  | _ => cases hread

theorem isPlain_envelope {depth : Nat} (hdepth : 4 ≤ depth) (x : Versioned kind) :
  Json.IsPlain (depth + 1) x.envelope
  := ⟨trivial, x.isPlain_toJson hdepth, trivial⟩

theorem parse_encode_envelope (x : Versioned kind) :
  Json.parse (Json.encode x.envelope)
    = .ok (.object [("version", .string x.fork.name), ("data", x.toJson)])
  := Json.parse_encode (x.isPlain_envelope (by decide))

/-- A record is read back from its envelope. -/
theorem ofEvent_envelope (x : Versioned kind) :
  ofEvent kind (Json.encode x.envelope) = .ok x
  := by
  have hdata := x.ofJson_toJson "data"
  have hrequired : Section.required
      ⟨"", [("version", .string x.fork.name), ("data", x.toJson)]⟩ "data" = .ok x.toJson := by
    apply Section.required_eq_ok_iff.mpr
    exact ⟨rfl, ne_null_of_ofJson hdata⟩
  rw [ofEvent_of_named x.parse_encode_envelope rfl x.fork.toFork.isNamedBy_name, hrequired]
  apply hdata

end Versioned

/-! ### Events -/

/-- The topic under which records of a kind are announced, for the kinds that are. -/
def Kind.topic? : Kind → Option String
  | .finalityUpdate => some Event.finalityTopic
  | .optimisticUpdate => some Event.optimisticTopic
  | .bootstrap | .update => none

theorem Kind.eq_of_topic? {kind kind' : Kind} {topic : String} (h : kind.topic? = some topic)
    (h' : kind'.topic? = some topic) :
  kind = kind'
  := by
  have htopics : Event.finalityTopic ≠ Event.optimisticTopic := by decide
  cases kind
  all_goals
    cases kind'
    all_goals simp_all [Kind.topic?]

namespace Event

/-- The kind of the record of an event. -/
def kind : Event → Kind
  | .finality _ => .finalityUpdate
  | .optimistic _ => .optimisticUpdate

/-- The record of an event. -/
def record : (e : Event) → Versioned e.kind
  | .finality record => record
  | .optimistic record => record

/-- The data are empty or nothing but ASCII blanks. -/
def IsBlank (data : List UInt8) : Prop :=
  ∀ byte ∈ data, byte ∈ [0x20, 0x09, 0x0a, 0x0c, 0x0d]

theorem isAsciiBlank_iff {byte : UInt8} :
  Text.isAsciiBlank byte = true ↔ byte ∈ [0x20, 0x09, 0x0a, 0x0c, 0x0d]
  := by simp [Text.isAsciiBlank, or_assoc]

theorem all_isAsciiBlank_iff {data : List UInt8} :
  data.all Text.isAsciiBlank = true ↔ IsBlank data
  := by
  rw [List.all_eq_true]
  simp only [isAsciiBlank_iff, IsBlank]

/-- The lexer has come across nothing but blanks, or a fault behind them. -/
def IsIdle (l : Json.Lexer) : Prop :=
  l = .initial ∨ l = Json.Lexer.initial.stop

/-- A blank leaves an idle lexer idle. -/
theorem IsIdle.step {l : Json.Lexer} (h : IsIdle l) {byte : UInt8}
    (hbyte : byte ∈ [0x20, 0x09, 0x0a, 0x0c, 0x0d]) :
  IsIdle (l.step byte)
  := by
  rcases h with rfl | rfl
  · simp only [List.mem_cons, List.not_mem_nil, or_false] at hbyte
    rcases hbyte with rfl | rfl | rfl | rfl | rfl
    · exact .inl rfl
    · exact .inl rfl
    · exact .inl rfl
    · exact .inr rfl  -- a form feed is no blank of JSON
    · exact .inl rfl
  · exact .inr rfl

theorem IsIdle.foldl_step {l : Json.Lexer} (h : IsIdle l) {data : List UInt8}
    (hdata : IsBlank data) :
  IsIdle (data.foldl Json.Lexer.step l)
  := by
  induction data generalizing l with
  | nil => exact h
  | cons byte rest ih =>
    obtain ⟨hbyte, hrest⟩ := List.forall_mem_cons.mp hdata
    apply ih (h.step hbyte) hrest

/-- Data that are JSON are not blank. -/
theorem not_isBlank_of_parse {data : List UInt8} {value : Json} (h : Json.parse data = .ok value) :
  ¬ IsBlank data
  := by
  intro hdata
  have houtline : Json.outline data = (.fault, false) := by
    rw [Json.outline, Json.tokenize]
    rcases IsIdle.foldl_step (.inl rfl) hdata with hidle | hidle
    · rw [hidle]
      rfl
    · rw [hidle]
      rfl
  rw [Json.parse, Json.parse?, houtline] at h
  cases h

variable {topic : String} {data : List UInt8}

/-- There is no event in blank data or under a topic that is neither of the two. -/
def IsPassedOver (topic : String) (data : List UInt8) : Prop :=
  IsBlank data ∨ (topic ≠ finalityTopic ∧ topic ≠ optimisticTopic)

theorem read?_of_isPassedOver (h : IsPassedOver topic data) :
  read? topic data = .ok none
  := by
  rcases h with h | ⟨hfinality, hoptimistic⟩
  · apply if_pos
    apply all_isAsciiBlank_iff.mpr h
  · rw [read?, if_neg hfinality, if_neg hoptimistic, ite_self]

theorem read?_finality (h : ¬ IsBlank data) :
  read? finalityTopic data = (Versioned.ofEvent .finalityUpdate data).map (some ∘ .finality)
  := by
  rw [read?, if_neg (all_isAsciiBlank_iff.not.mpr h)]
  apply if_pos rfl

theorem read?_optimistic (h : ¬ IsBlank data) :
  read? optimisticTopic data = (Versioned.ofEvent .optimisticUpdate data).map (some ∘ .optimistic)
  := by
  rw [read?, if_neg (all_isAsciiBlank_iff.not.mpr h), if_neg (by decide)]
  apply if_pos rfl

/-- The topic of an event that is not passed over is one of the two. -/
theorem topic_of_not_isPassedOver (h : ¬ IsPassedOver topic data) :
  ¬ IsBlank data ∧ (topic = finalityTopic ∨ topic = optimisticTopic)
  := by
  obtain ⟨hblank, htopic⟩ := not_or.mp h
  constructor
  · apply hblank
  · by_contra hother
    apply htopic (not_or.mp hother)

theorem topic?_kind (e : Event) :
  e.kind.topic? = some e.topic
  := by
  cases e
  all_goals rfl

/-- No event is announced under a topic that is neither of the two. -/
theorem not_isPassedOver_of_topic? {kind : Kind} (hblank : ¬ IsBlank data)
    (htopic : kind.topic? = some topic) :
  ¬ IsPassedOver topic data
  := by
  rintro (hdata | ⟨hfinality, hoptimistic⟩)
  · apply hblank hdata
  · cases kind with
    | finalityUpdate => apply hfinality (Option.some.inj htopic).symm
    | optimisticUpdate => apply hoptimistic (Option.some.inj htopic).symm
    | bootstrap => cases htopic
    | update => cases htopic

/-- An event is read exactly under its topic, when its record is read from the data. -/
theorem read?_eq_some_iff {e : Event} :
  read? topic data = .ok (some e) ↔
    ¬ IsPassedOver topic data ∧ e.topic = topic ∧ Versioned.ofEvent e.kind data = .ok e.record
  := by
  by_cases hpassed : IsPassedOver topic data
  · rw [read?_of_isPassedOver hpassed]
    simp [hpassed]
  · obtain ⟨hblank, rfl | rfl⟩ := topic_of_not_isPassedOver hpassed
    · rw [read?_finality hblank]
      cases e with
      | finality record => simp [Except.map_eq_ok_iff, hpassed, topic, kind, Event.record]
      | optimistic record =>
        have htopic : optimisticTopic ≠ finalityTopic := by decide
        simp [Except.map_eq_ok_iff, hpassed, topic, htopic]
    · rw [read?_optimistic hblank]
      cases e with
      | finality record =>
        have htopic : finalityTopic ≠ optimisticTopic := by decide
        simp [Except.map_eq_ok_iff, hpassed, topic, htopic]
      | optimistic record => simp [Except.map_eq_ok_iff, hpassed, topic, kind, Event.record]

/-- Nothing is read exactly from an event that is passed over. -/
theorem read?_eq_none_iff :
  read? topic data = .ok none ↔ IsPassedOver topic data
  := by
  by_cases hpassed : IsPassedOver topic data
  · simp [read?_of_isPassedOver hpassed, hpassed]
  · obtain ⟨hblank, rfl | rfl⟩ := topic_of_not_isPassedOver hpassed
    · simp [read?_finality hblank, Except.map_eq_ok_iff, hpassed]
    · simp [read?_optimistic hblank, Except.map_eq_ok_iff, hpassed]

/-- An event that is not passed over fails as reading the record of its kind does. -/
theorem read?_eq_error_iff {e : RecordError} :
  read? topic data = .error e ↔
    ¬ IsPassedOver topic data ∧
      ∃ kind, kind.topic? = some topic ∧ Versioned.ofEvent kind data = .error e
  := by
  by_cases hpassed : IsPassedOver topic data
  · simp [read?_of_isPassedOver hpassed, hpassed]
  · obtain ⟨hblank, rfl | rfl⟩ := topic_of_not_isPassedOver hpassed
    · rw [read?_finality hblank, Except.map_eq_error_iff]
      constructor
      · intro h
        exact ⟨hpassed, .finalityUpdate, rfl, h⟩
      · rintro ⟨-, kind, htopic, h⟩
        obtain rfl : kind = .finalityUpdate := Kind.eq_of_topic? htopic rfl
        apply h
    · rw [read?_optimistic hblank, Except.map_eq_error_iff]
      constructor
      · intro h
        exact ⟨hpassed, .optimisticUpdate, rfl, h⟩
      · rintro ⟨-, kind, htopic, h⟩
        obtain rfl : kind = .optimisticUpdate := Kind.eq_of_topic? htopic rfl
        apply h

/-- An event is read back from its topic and the envelope of its record. -/
theorem read?_envelope (e : Event) :
  read? e.topic (Json.encode e.record.envelope) = .ok (some e)
  := by
  rw [read?_eq_some_iff]
  refine ⟨?_, rfl, e.record.ofEvent_envelope⟩
  have hblank := not_isBlank_of_parse e.record.parse_encode_envelope
  apply not_isPassedOver_of_topic? hblank e.topic?_kind

end Event

/-- Envelopes and events are read back. The envelope of a record is an object with the name of
its fork and the text that the record is shown as, which is its JSON, and the record is read back
from the envelope. An event is read back from its topic and the envelope of its record. Whatever
the topic and the data, an event is read only under its topic and from data that its record is
read from; none is read exactly when the data are blank or the topic is neither of the two; and
all else fails as reading the record of the kind that the topic stands for does. -/
theorem envelopes_and_events_read_back :
  (∀ (kind : Kind) (x : Versioned kind),
    Json.encode x.envelope
      = Utf8.encode
          ("\x7b\"version\":\"" ++ x.fork.name ++ "\",\"data\":" ++ x.text ++ "\x7d").toList ∧
    Json.encode x.toJson = Utf8.encode x.text.toList ∧
    Versioned.ofEvent kind (Json.encode x.envelope) = .ok x) ∧
  (∀ e : Event, Event.read? e.topic (Json.encode e.record.envelope) = .ok (some e)) ∧
  ∀ (topic : String) (data : List UInt8),
    (∀ e, Event.read? topic data = .ok (some e) ↔
      ¬ Event.IsPassedOver topic data ∧ e.topic = topic ∧
        Versioned.ofEvent e.kind data = .ok e.record) ∧
    (Event.read? topic data = .ok none ↔ Event.IsPassedOver topic data) ∧
    ∀ e, Event.read? topic data = .error e ↔
      ¬ Event.IsPassedOver topic data ∧
        ∃ kind : Kind, kind.topic? = some topic ∧ Versioned.ofEvent kind data = .error e
  := by
  refine ⟨?_, ?_, ?_⟩
  · intro kind x
    exact ⟨x.encode_envelope, x.encode_toJson, x.ofEvent_envelope⟩
  · apply Event.read?_envelope
  · intro topic data
    refine ⟨?_, Event.read?_eq_none_iff, ?_⟩
    · intro e
      apply Event.read?_eq_some_iff
    · intro e
      apply Event.read?_eq_error_iff

end BeaconLight
